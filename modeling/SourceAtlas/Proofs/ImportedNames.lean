import SourceAtlas.Outline.Modules
import SourceAtlas.Proofs.Outermost
import SourceAtlas.TypeScript.Program

/-!
Imports of a tree. Every outermost import is reported once, in pre-order. What it binds and where it
takes this from is told by its parts, the outermost specifiers, identifiers and literals below its
children. The children are traversed one after the other with two accumulators, and both are known
from the list of the parts that have been passed.
-/

open SourceAtlas.Tree

namespace SourceAtlas.Outline

def isImport (node : Node) : Bool :=
  node.kind == .importDecl

def isLiteral (node : Node) : Bool :=
  node.kind == .stringLiteral

def isPart (node : Node) : Bool :=
  node.kind == .importSpecifier || node.kind == .identifier || isLiteral node

/-- The outermost parts below the children of an import, in pre-order. -/
def importParts (node : Node) : List Node :=
  node.children.flatMap (outermost isPart)

/-- The name that a part binds, which is the alias of a specifier where it has one. A literal binds
nothing. -/
def partName? (part : Node) : Option String :=
  match part.kind, part.fieldText? .aliasName, part.fieldText? .name with
  | .importSpecifier, some aliasName, _ => some (Text.unquoteTrimmed aliasName)
  | .importSpecifier, none, some name => some (Text.unquoteTrimmed name)
  | .identifier, _, _ => some part.text
  | _, _, _ => none

def importedNames (node : Node) : List String :=
  (importParts node).filterMap partName?

/-- The module under the source field, or else in the first literal among the parts. -/
def importedModule (node : Node) : String :=
  match node.fieldText? .source, (importParts node).find? isLiteral with
  | some source, _ => Text.unquoteTrimmed source
  | none, some literal => Text.unquoteTrimmed literal.text
  | none, none => ""

theorem imports_outermost (root : Node) :
    imports root = (outermost isImport root).map importOf := by
  rw [imports, show visitImport = gather isImport fun node => [importOf node] from rfl,
    walk_gathers, List.nil_append, List.map_eq_flatMap]

theorem part_name_specifier (part : Node) (kind : part.kind = .importSpecifier) :
    partName? part = specifierName? part := by
  unfold partName? specifierName?
  rw [kind]
  cases part.fieldText? .aliasName with
  | some aliasName => rfl
  | none =>
      cases part.fieldText? .name with
      | some name => rfl
      | none => rfl

/-! The traversal of the children. -/

/-- What the accumulators hold once some parts have been passed. -/
def partsRead (source : Option String) (passed : List Node) : ImportParts where
  module := (source.or ((passed.find? isLiteral).map (·.text))).map Text.unquoteTrimmed
  names := passed.filterMap partName?

theorem parts_read_literal (source : Option String) (passed : List Node) (part : Node)
    (kind : part.kind = .stringLiteral) :
    partsRead source (passed ++ [part]) =
      { partsRead source passed with
        module := (partsRead source passed).module.or (some (Text.unquoteTrimmed part.text)) } := by
  have literal : isLiteral part = true := by simp [isLiteral, kind]
  have nameless : partName? part = none := by simp [partName?, kind]
  have first : (passed ++ [part]).find? isLiteral = (passed.find? isLiteral).or (some part) := by
    simp [List.find?_append, literal]
  simp only [partsRead, first, List.filterMap_append, List.filterMap_cons, nameless,
    List.filterMap_nil, List.append_nil]
  cases source <;> cases passed.find? isLiteral <;> rfl

theorem parts_read_name (source : Option String) (passed : List Node) (part : Node)
    (other : isLiteral part = false) :
    partsRead source (passed ++ [part]) =
      { partsRead source passed with
        names := (partsRead source passed).names ++ (partName? part).toList } := by
  have first : (passed ++ [part]).find? isLiteral = passed.find? isLiteral := by
    simp [List.find?_append, other]
  have named : [part].filterMap partName? = (partName? part).toList := by
    cases name : partName? part <;> simp [name]
  simp only [partsRead, first, List.filterMap_append, named]

/-- One visit: the parts passed are those that a traversal would gather, and the accumulators follow
them. -/
theorem visit_import_part (source : Option String) (passed : List Node) (node : Node)
    (depth : Nat) :
    visitImportPart (partsRead source passed) node depth =
      ((gather isPart (fun part => [part]) passed node depth).1,
        partsRead source (gather isPart (fun part => [part]) passed node depth).2) := by
  cases kind : node.kind with
  | importSpecifier =>
      have other : isLiteral node = false := by simp [isLiteral, kind]
      simp [visitImportPart, gather, isPart, kind, parts_read_name source passed node other,
        part_name_specifier node kind]
  | identifier =>
      have other : isLiteral node = false := by simp [isLiteral, kind]
      have named : partName? node = some node.text := by simp [partName?, kind]
      simp [visitImportPart, gather, isPart, kind, parts_read_name source passed node other, named]
  | stringLiteral =>
      have literal : isLiteral node = true := by simp [isLiteral, kind]
      simp [visitImportPart, gather, isPart, kind, literal,
        parts_read_literal source passed node kind]
  | _ => simp [visitImportPart, gather, isPart, isLiteral, kind]

theorem child_parts_read (source : Option String) (passed : List Node) (child : Node) :
    walk visitImportPart (partsRead source passed) child =
      partsRead source (passed ++ outermost isPart child) := by
  rw [walk_image (partsRead source) _ _ (visit_import_part source), walk_gathers,
    List.flatMap_singleton']

theorem children_parts_read (source : Option String) (children passed : List Node) :
    children.foldl (walk visitImportPart) (partsRead source passed) =
      partsRead source (passed ++ children.flatMap (outermost isPart)) := by
  induction children generalizing passed with
  | nil => rw [List.foldl_nil, List.flatMap_nil, List.append_nil]
  | cons child rest ih =>
      rw [List.foldl_cons, child_parts_read, ih, List.flatMap_cons, List.append_assoc]

theorem import_read (node : Node) :
    importOf node =
      { module := importedModule node, names := importedNames node
        position := node.position } := by
  have start : ({ module := (node.fieldText? .source).map Text.unquoteTrimmed } : ImportParts) =
      partsRead (node.fieldText? .source) [] := by
    simp [partsRead]
  have module : (partsRead (node.fieldText? .source) (importParts node)).module.getD "" =
      importedModule node := by
    unfold partsRead importedModule
    cases node.fieldText? .source with
    | some source => rfl
    | none => cases (importParts node).find? isLiteral <;> rfl
  simp only [importOf]
  rw [start, children_parts_read, List.nil_append, ← importParts, module]
  rfl

/-- There is one entry for each import that lies in no other, in pre-order, and each of them is read
from the parts of its own node. -/
theorem imports_list_outermost_bindings (root : Node) :
    imports root = (outermost isImport root).map fun node =>
      { module := importedModule node, names := importedNames node
        position := node.position } := by
  rw [imports_outermost]
  exact List.map_congr_left fun node _ => import_read node

example : (imports (TypeScript.parse .typescript
    ("import A, \x7b b as c, 'd' as e \x7d from './f' with \x7b type: 'g' \x7d;\n" ++
      "import h = require('i');"))).map (fun item => (item.module, item.names)) =
        [("./f", ["A", "c", "e"]), ("i", ["h"])] := by
  decide +kernel

end SourceAtlas.Outline
