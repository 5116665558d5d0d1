import Mathlib.Data.List.Forall2
import SourceAtlas.Json.Decode

/-!
How a JSON value may be given otherwise than it is written. A variance says which values stand for
a written one; the value as it was written always does. Objects are compared key by key, for the
keys that a type knows, so they may hold any others. Reading is tolerant of a variance when every
value that stands for a written one is read alike, and this passes from the parts of a value to
the whole.
-/

namespace SourceAtlas.Json

structure Variance where
  Allows : Json → Json → Prop
  refl : ∀ json, Allows json json

namespace Variance

def exact : Variance where
  Allows := Eq
  refl _ := rfl

/-- The items of an array in any order, each any number of times but at least once. -/
def anyOrder : Variance where
  Allows
    | .array items, .array others => ∀ item, item ∈ others ↔ item ∈ items
    | written, given => written = given
  refl json := by cases json <;> simp

def each (item : Variance) : Variance where
  Allows
    | .array items, .array others => List.Forall₂ item.Allows items others
    | written, given => written = given
  refl json := by
    cases json with
    | array items => exact List.forall₂_same.mpr fun entry _ => item.refl entry
    | _ => rfl

end Variance

def isNull : Json → Bool
  | .null => true
  | _ => false

/-- A key that a type knows. Under an optional one, null counts as nothing. -/
structure FieldRule where
  key : String
  optional : Bool := false
  variance : Variance := .exact

def FieldRule.value? (rule : FieldRule) (json : Json) : Option Json :=
  (json.get? rule.key).filter fun value => !(rule.optional && value.isNull)

def FieldRule.Agrees (rule : FieldRule) (written given : Json) : Prop :=
  Option.Rel rule.variance.Allows (rule.value? written) (rule.value? given)

def Variance.fields (rules : List FieldRule) : Variance where
  Allows written given := ∀ rule ∈ rules, rule.Agrees written given
  refl json := by
    intro rule _
    unfold FieldRule.Agrees
    cases rule.value? json with
    | none => exact .none
    | some value => exact .some (rule.variance.refl value)

theorem FieldRule.value_beside (rule : FieldRule) (before after : List (String × Json))
    (key : String) (value : Json) (other : rule.key ≠ key) :
    rule.value? (.object (before ++ (key, value) :: after)) =
      rule.value? (.object (before ++ after)) := by
  have passed : (key == rule.key) = false := beq_false_of_ne other.symm
  simp [value?, get?, List.find?_append, passed]

theorem FieldRule.value_null (rule : FieldRule) (before after : List (String × Json))
    (optional : rule.optional = true)
    (missing : ∀ entry ∈ before ++ after, entry.1 ≠ rule.key) :
    rule.value? (.object (before ++ (rule.key, .null) :: after)) =
      rule.value? (.object (before ++ after)) := by
  have absent : ∀ entries ⊆ before ++ after,
      entries.find? (fun entry => entry.1 == rule.key) = none := by
    intro entries inside
    rw [List.find?_eq_none]
    intro entry member same
    exact missing entry (inside member) (beq_iff_eq.mp same)
  simp [value?, get?, List.find?_append, absent before (List.subset_append_left ..),
    absent after (List.subset_append_right ..), optional, isNull]

/-- Only what is found under the known keys counts. -/
theorem Variance.fields_alike (rules : List FieldRule) (written given : Json)
    (alike : ∀ rule ∈ rules, rule.value? given = rule.value? written) :
    (fields rules).Allows written given := by
  intro rule member
  have same : rule.Agrees written written := (fields rules).refl written rule member
  rwa [FieldRule.Agrees, alike rule member]

/-- A field that the type does not know may be added anywhere. -/
theorem Variance.unknown_field (rules : List FieldRule) (before after : List (String × Json))
    (key : String) (value : Json) (unknown : ∀ rule ∈ rules, rule.key ≠ key) :
    (fields rules).Allows (.object (before ++ after))
      (.object (before ++ (key, value) :: after)) :=
  fields_alike _ _ _ fun rule member =>
    rule.value_beside before after key value (unknown rule member)

/-- Where an optional field is missing, null may be given instead, and the reverse. -/
theorem Variance.null_field (rules : List FieldRule) (before after : List (String × Json))
    (key : String) (optional : ∀ rule ∈ rules, rule.key = key → rule.optional = true)
    (missing : ∀ entry ∈ before ++ after, entry.1 ≠ key) :
    (fields rules).Allows (.object (before ++ after)) (.object (before ++ (key, .null) :: after)) ∧
    (fields rules).Allows (.object (before ++ (key, .null) :: after))
      (.object (before ++ after)) := by
  have alike : ∀ rule ∈ rules, rule.value? (.object (before ++ (key, .null) :: after)) =
      rule.value? (.object (before ++ after)) := by
    intro rule member
    by_cases named : rule.key = key
    · subst named
      exact rule.value_null before after (optional rule member rfl) missing
    · exact rule.value_beside before after key .null named
  exact ⟨fields_alike _ _ _ alike, fields_alike _ _ _ fun rule member => (alike rule member).symm⟩

variable {Value : Type}

/-- Whatever stands for the written value is read as `value`. -/
def ReadAs (variance : Variance) (read? : Json → Option Value) (written : Json) (value : Value) :
    Prop :=
  ∀ given, variance.Allows written given → read? given = some value

theorem exact_read {read? : Json → Option Value} {written : Json} {value : Value}
    (reads : read? written = some value) : ReadAs .exact read? written value := by
  intro given same
  have same : written = given := same
  exact same ▸ reads

theorem list_read {item : Variance} {read? : Json → Option Value} {write : Value → Json}
    (values : List Value) (reads : ∀ value ∈ values, ReadAs item read? (write value) value) :
    ReadAs (.each item) (list? read?) (.array (values.map write)) values := by
  intro given allowed
  cases given with
  | array others =>
      change List.Forall₂ item.Allows (values.map write) others at allowed
      rw [list?]
      induction values generalizing others with
      | nil =>
          cases allowed
          rfl
      | cons value rest ih =>
          obtain ⟨first, behind, here, later, same⟩ := List.forall₂_cons_left_iff.mp allowed
          subst same
          have others := ih (fun entry member => reads entry (List.mem_cons_of_mem value member))
            behind later
          rw [List.mapM_cons, reads value List.mem_cons_self first here, others]
          rfl
  | _ => cases allowed

theorem string_read (text : String) : ReadAs .exact string? (.string text) text :=
  exact_read rfl

theorem bool_read (value : Bool) : ReadAs .exact bool? (.bool value) value :=
  exact_read rfl

/-- A text list, which allows for no variance. -/
theorem strings_read (texts : List String) :
    ReadAs .exact (list? string?) (ofStrings texts) texts := by
  have reads : ReadAs (.each .exact) (list? string?) (ofStrings texts) texts :=
    list_read texts fun text _ => string_read text
  exact exact_read (reads _ (Variance.refl _ _))

theorem named_read {name : Value → String} {ofName? : String → Option Value}
    (known : ∀ value, ofName? (name value) = some value) (value : Value) :
    ReadAs .exact (named? ofName?) (.string (name value)) value :=
  exact_read (known value)

theorem size_read (value : Nat) (small : value < UInt64.size) :
    ReadAs .exact size? (.ofNat value) value := by
  apply exact_read
  have fits : value < sizeLimit := small
  simp [size?, ofNat, fits]

theorem value_required (key : String) (variance : Variance) (json : Json) :
    FieldRule.value? { key, variance } json = json.get? key := by
  unfold FieldRule.value?
  cases json.get? key <;> rfl

theorem require_read {key : String} {variance : Variance} {written given json : Json}
    {read? : Json → Option Value} {value : Value}
    (agrees : FieldRule.Agrees { key, variance } written given)
    (wrote : written.get? key = some json)
    (reads : ReadAs variance read? json value) : given.require key read? = some value := by
  rw [FieldRule.Agrees, value_required, value_required, wrote] at agrees
  rw [require]
  cases found : given.get? key with
  | none =>
      rw [found] at agrees
      cases agrees
  | some other =>
      rw [found] at agrees
      cases agrees with
      | some allowed => exact reads other allowed

theorem allow_value (key : String) (json : Json) (read? : Json → Option Value) :
    json.allow key read? =
      ((FieldRule.value? { key, optional := true } json).map fun value =>
        (read? value).map some).getD (some none) := by
  unfold allow FieldRule.value?
  cases json.get? key with
  | none => rfl
  | some value => cases value <;> rfl

/-- A value that may be missing is read alike whether it is left out or null. -/
theorem allow_read {key : String} {written given : Json} {read? : Json → Option Value}
    {write : Value → Json} {value : Option Value}
    (agrees : FieldRule.Agrees { key, optional := true } written given)
    (wrote : FieldRule.value? { key, optional := true } written = value.map write)
    (reads : ∀ inner, ReadAs .exact read? (write inner) inner) :
    given.allow key read? = some value := by
  rw [FieldRule.Agrees, wrote] at agrees
  rw [allow_value]
  cases found : FieldRule.value? { key, optional := true } given with
  | none =>
      rw [found] at agrees
      cases value with
      | none => rfl
      | some inner => cases agrees
  | some other =>
      rw [found] at agrees
      cases value with
      | none => cases agrees
      | some inner =>
          cases agrees with
          | some same =>
              have read : read? other = some inner := reads inner other same
              simp [read]

/-- Nothing is lost between writing and reading. What is written is read back, also where it is
given otherwise within the variance, and writing it again restores the form it was written in. -/
structure Lossless (write : Value → Json) (read? : Json → Option Value) (variance : Variance)
    (fits : Value → Prop) : Prop where
  restores : ∀ value, fits value → read? (write value) = some value
  tolerant : ∀ value, fits value → ∀ given, variance.Allows (write value) given →
    read? given = some value
  canonical : ∀ value, fits value → ∀ given, variance.Allows (write value) given →
    (read? given).map write = some (write value)

theorem lossless_of_reads (write : Value → Json) (read? : Json → Option Value)
    (variance : Variance) (fits : Value → Prop)
    (reads : ∀ value, fits value → ReadAs variance read? (write value) value) :
    Lossless write read? variance fits where
  restores value small := reads value small _ (variance.refl _)
  tolerant value small := reads value small
  canonical value small given allowed := by rw [reads value small given allowed]; rfl

end SourceAtlas.Json
