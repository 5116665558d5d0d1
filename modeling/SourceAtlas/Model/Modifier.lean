import SourceAtlas.Text.Blank

/-!
Modifier keywords of declarations and members, sets of them, and the visibility they give.
-/

namespace SourceAtlas

inductive Modifier where
  | pub
  | priv
  | prot
  | static
  | abstract
  | readonly
  deriving DecidableEq, Repr

namespace Modifier

/-- Every modifier, in the order in which sets list them. -/
def all : List Modifier := [.pub, .priv, .prot, .static, .abstract, .readonly]

def keyword : Modifier → String
  | .pub => "public"
  | .priv => "private"
  | .prot => "protected"
  | .static => "static"
  | .abstract => "abstract"
  | .readonly => "readonly"

def ofName? (name : String) : Option Modifier :=
  all.find? fun modifier => modifier.keyword == name

/-- The modifier a piece of source text stands for. Blanks around the keyword do not count. -/
def ofKeyword? (text : String) : Option Modifier :=
  ofName? (Text.trim text)

end Modifier

structure Modifiers where
  pub : Bool := false
  priv : Bool := false
  prot : Bool := false
  static : Bool := false
  abstract : Bool := false
  readonly : Bool := false
  deriving DecidableEq, Repr, Inhabited

namespace Modifiers

def empty : Modifiers := {}

def contains (modifiers : Modifiers) : Modifier → Bool
  | .pub => modifiers.pub
  | .priv => modifiers.priv
  | .prot => modifiers.prot
  | .static => modifiers.static
  | .abstract => modifiers.abstract
  | .readonly => modifiers.readonly

def insert (modifiers : Modifiers) : Modifier → Modifiers
  | .pub => { modifiers with pub := true }
  | .priv => { modifiers with priv := true }
  | .prot => { modifiers with prot := true }
  | .static => { modifiers with static := true }
  | .abstract => { modifiers with abstract := true }
  | .readonly => { modifiers with readonly := true }

def ofList (list : List Modifier) : Modifiers :=
  list.foldl insert empty

def toList (modifiers : Modifiers) : List Modifier :=
  Modifier.all.filter modifiers.contains

theorem contains_insert (modifiers : Modifiers) (added asked : Modifier) :
    (modifiers.insert added).contains asked = (asked == added || modifiers.contains asked) := by
  cases added <;> cases asked <;> rfl

theorem contains_fold (list : List Modifier) (modifiers : Modifiers) (asked : Modifier) :
    (list.foldl insert modifiers).contains asked = true ↔
      asked ∈ list ∨ modifiers.contains asked = true := by
  induction list generalizing modifiers with
  | nil => simp
  | cons modifier rest ih =>
      rw [List.foldl_cons, ih, contains_insert, List.mem_cons]
      simp only [Bool.or_eq_true, beq_iff_eq, or_assoc]
      exact or_left_comm

theorem contains_of_list (list : List Modifier) (asked : Modifier) :
    (ofList list).contains asked = true ↔ asked ∈ list := by
  rw [ofList, contains_fold]
  cases asked <;> simp [empty, contains]

end Modifiers

inductive Visibility where
  | pub
  | priv
  | prot
  deriving DecidableEq, Repr

namespace Visibility

def all : List Visibility := [.pub, .priv, .prot]

-- Private wins over protected, and a member without either is public.
def ofModifiers (modifiers : Modifiers) : Visibility :=
  if modifiers.contains .priv then .priv
  else if modifiers.contains .prot then .prot
  else .pub

def name : Visibility → String
  | .pub => "public"
  | .priv => "private"
  | .prot => "protected"

def ofName? (name : String) : Option Visibility :=
  all.find? fun visibility => visibility.name == name

def sign : Visibility → Char
  | .pub => '+'
  | .priv => '-'
  | .prot => '#'

end Visibility

end SourceAtlas
