import SourceAtlas.Language
import SourceAtlas.Model.Analysis

/-!
Plain sources: classes and interfaces that have a name, supertypes and fields of type `number`, each
written over as many lines as it has fields and two more. This module says how they are written and
what they mean; nothing in it depends on how a text is read.
-/

namespace SourceAtlas.Plain

/-! Names and declarations. -/

def isTypeForm : List Char → Bool
  | c :: rest => c.isUpper && rest.all Char.isAlphanum
  | [] => false

def isFieldForm : List Char → Bool
  | 'p' :: digits => digits.all Char.isDigit
  | _ => false

structure Name (form : List Char → Bool) where
  text : String
  formed : form text.toList = true

/-- A capital letter, and letters and digits behind it. -/
abbrev TypeName := Name isTypeForm

/-- The letter `p`, and digits behind it. -/
abbrev FieldName := Name isFieldForm

structure Field where
  visibility : Visibility
  name : FieldName

inductive Declaration where
  | objectClass (name : TypeName) (base : Option TypeName) (interfaces : List TypeName)
    (fields : List Field)
  | interface (name : TypeName) (bases : List TypeName) (fields : List FieldName)

namespace Declaration

def name : Declaration → TypeName
  | objectClass name _ _ _ => name
  | interface name _ _ => name

def kind : Declaration → EntityKind
  | objectClass _ _ _ _ => .objectClass
  | interface _ _ _ => .interface

def bases : Declaration → List TypeName
  | objectClass _ base _ _ => base.toList
  | interface _ bases _ => bases

def interfaces : Declaration → List TypeName
  | objectClass _ _ interfaces _ => interfaces
  | interface _ _ _ => []

-- Fields of an interface are written without a keyword.
def fields : Declaration → List Field
  | objectClass _ _ _ fields => fields
  | interface _ _ names => names.map fun name => { visibility := .pub, name }

end Declaration

/-! How declarations are written. -/

/-- The keyword in front of a field. A public field has none. -/
def visibilityText : Visibility → String
  | .pub => ""
  | .priv => "private "
  | .prot => "protected "

def Field.line (field : Field) : String :=
  "  " ++ visibilityText field.visibility ++ field.name.text ++ ": number;"

/-- A keyword and the names it introduces, or nothing where there are none. -/
def clauseText (keyword : String) (names : List TypeName) : String :=
  if names.isEmpty then ""
  else " " ++ keyword ++ " " ++ ", ".intercalate (names.map (·.text))

namespace Declaration

def keyword : Declaration → String
  | objectClass _ _ _ _ => "class"
  | interface _ _ _ => "interface"

def header (declaration : Declaration) : String :=
  declaration.keyword ++ " " ++ declaration.name.text ++ clauseText "extends" declaration.bases ++
    clauseText "implements" declaration.interfaces ++ " \x7b"

def lines (declaration : Declaration) : List String :=
  declaration.header :: declaration.fields.map Field.line ++ ["\x7d"]

end Declaration

def lines (declarations : List Declaration) : List String :=
  declarations.flatMap Declaration.lines

/-- The text of declarations: their lines, each with a line feed behind it. -/
def source (declarations : List Declaration) : String :=
  String.join ((lines declarations).map (· ++ "\n"))

example :
    source
      [.objectClass ⟨"Lion", by decide⟩ (some ⟨"Cat", by decide⟩)
        [⟨"Wild", by decide⟩, ⟨"Loud", by decide⟩]
        [⟨.pub, ⟨"p1", by decide⟩⟩, ⟨.priv, ⟨"p20", by decide⟩⟩],
       .interface ⟨"Wild", by decide⟩ [] []] =
      "class Lion extends Cat implements Wild, Loud \x7b\n  p1: number;\n" ++
        "  private p20: number;\n\x7d\ninterface Wild \x7b\n\x7d\n" := by
  decide

/-! What declarations mean. -/

def Field.property (field : Field) : Property :=
  { name := field.name.text, type := "number", visibility := field.visibility }

namespace Declaration

/-- The entity of a declaration whose header is on the given line. -/
def entity (declaration : Declaration) (line : Nat) : Entity :=
  { kind := declaration.kind
    name := declaration.name.text
    position := ⟨line, 1⟩
    bases := declaration.bases.map (·.text)
    interfaces := declaration.interfaces.map (·.text)
    properties := declaration.fields.map Field.property }

/-- An edge to each supertype that is extended, then one to each that is implemented. -/
def edges (declaration : Declaration) : List Relationship :=
  declaration.bases.map (fun base =>
      { kind := .inheritance, source := declaration.name.text, target := base.text }) ++
    declaration.interfaces.map fun interface =>
      { kind := .dependency, source := declaration.name.text, target := interface.text,
        label := some "implements" }

end Declaration

/-- The entities of declarations of which the first starts on the given line. -/
def entitiesFrom : Nat → List Declaration → List Entity
  | _, [] => []
  | line, declaration :: rest =>
    declaration.entity line :: entitiesFrom (line + declaration.lines.length) rest

/-- What is to be known about the source of the declarations, which neither imports nor exports. -/
def analysis (language : Language) (declarations : List Declaration) : Analysis :=
  { entities := entitiesFrom 1 declarations
    relationships := declarations.flatMap Declaration.edges
    imports := []
    exports := []
    metadata :=
      { language := language.name
        lineCount := (lines declarations).length
        entityCount := declarations.length
        relationshipCount := (declarations.flatMap Declaration.edges).length } }

theorem entities_from_length (line : Nat) (declarations : List Declaration) :
    (entitiesFrom line declarations).length = declarations.length := by
  induction declarations generalizing line with
  | nil => rfl
  | cons declaration rest ih => rw [entitiesFrom, List.length_cons, ih, List.length_cons]

theorem derive_entities (line : Nat) (declarations : List Declaration) :
    Relationship.derive (entitiesFrom line declarations) =
      declarations.flatMap Declaration.edges := by
  induction declarations generalizing line with
  | nil => rfl
  | cons declaration rest ih =>
      have behind := ih (line + declaration.lines.length)
      rw [Relationship.derive] at behind ⊢
      rw [entitiesFrom, List.flatMap_cons, behind, List.flatMap_cons]
      simp [Relationship.ofEntity, Relationship.implementsLabel, Declaration.edges,
        Declaration.entity, Function.comp_def]

end SourceAtlas.Plain
