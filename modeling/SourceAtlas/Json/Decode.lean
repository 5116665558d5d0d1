import SourceAtlas.Json.Value

/-!
Reading JSON values as something else. A value that does not have the expected form gives nothing.
-/

namespace SourceAtlas.Json

/-- The value under a key: the first one, should a key be given twice. -/
def get? : Json → String → Option Json
  | .object entries, key => (entries.find? fun entry => entry.1 == key).map (·.2)
  | _, _ => none

def string? : Json → Option String
  | .string text => some text
  | _ => none

def bool? : Json → Option Bool
  | .bool value => some value
  | _ => none

-- Sizes are whole numbers that fit into 64 bits.
def sizeLimit : Nat := UInt64.size

def size? : Json → Option Nat
  | .number digits 0 => if 0 ≤ digits ∧ digits.toNat < sizeLimit then some digits.toNat else none
  | _ => none

def list? {Value : Type} (item? : Json → Option Value) : Json → Option (List Value)
  | .array items => items.mapM item?
  | _ => none

def require {Value : Type} (json : Json) (key : String) (value? : Json → Option Value) :
    Option Value :=
  (json.get? key).bind value?

/-- A value that may be missing or null. -/
def allow {Value : Type} (json : Json) (key : String) (value? : Json → Option Value) :
    Option (Option Value) :=
  match json.get? key with
  | none => some none
  | some .null => some none
  | some value => (value? value).map some

def named? {Value : Type} (ofName? : String → Option Value) (json : Json) : Option Value :=
  json.string?.bind ofName?

end SourceAtlas.Json
