import Mathlib.Data.List.Basic
import SourceAtlas.Proofs.ClassLines
import SourceAtlas.Proofs.NormalForms

/-!
What the line of a member tells about its flags. The sign in front always tells the visibility. The
other marks stand next to text that is written as it is, so a name may begin like a marked one and a
type may end like one. A line is read wrongly only then, and each such text does mislead.
-/

open SourceAtlas.Text

namespace SourceAtlas.ClassDiagram

section Parts

variable {α : Type} (mark : α) (code : List α)

/-- A code that begins a longer text, and does not hold the mark behind the first part, begins that
part. -/
theorem code_before_mark (part rest : List α) (absent : mark ∉ code)
    (begins : code <+: part ++ mark :: rest) : code <+: part := by
  have marked : part ++ [mark] <+: part ++ mark :: rest := ⟨rest, by simp⟩
  rcases List.prefix_or_prefix_of_prefix begins marked with inside | beyond
  · rcases List.prefix_concat_iff.mp inside with same | before
    · exact absurd (by simp [same]) absent
    · exact before
  · exact absurd (beyond.subset (by simp)) absent

theorem code_behind_mark (front part : List α) (absent : mark ∉ code)
    (ends : code <:+ front ++ mark :: part) : code <:+ part := by
  rw [← List.reverse_prefix] at ends ⊢
  apply code_before_mark mark code.reverse part.reverse front.reverse
  · simpa using absent
  · simpa using ends

end Parts

theorem sign_injective (visibility other : Visibility) (same : visibility.sign = other.sign) :
    visibility = other := by
  revert same
  cases visibility <;> cases other <;> decide

theorem choice_chars (flag : Bool) (text : String) :
    (if flag then text else "").toList = if flag then text.toList else [] := by
  cases flag <;> rfl

/-- The marks behind a member's type. -/
def endMarks (isStatic isAbstract : Bool) : List Char :=
  (if isStatic then "$".toList else []) ++ if isAbstract then "*".toList else []

def propertyFront (property : Property) : List Char :=
  (if property.isReadonly then "readonly ".toList else []) ++
    ((memberText property.name).toList ++ [':'])

theorem property_line_chars (property : Property) :
    (propertyLine property).toList = property.visibility.sign :: (propertyFront property ++
      ' ' :: ((memberText property.type).toList ++ endMarks property.isStatic false)) := by
  have sign : property.visibility.sign.toString.toList = [property.visibility.sign] := by simp
  have colon : ": ".toList = [':', ' '] := rfl
  simp only [propertyLine, propertyFront, endMarks, String.toList_append, choice_chars, sign,
    colon, List.append_assoc, List.cons_append, List.nil_append, Bool.false_eq_true, if_false,
    List.append_nil]

def methodFront (method : Method) : List Char :=
  (memberText method.name).toList ++
    '(' :: ((", ".intercalate (method.parameters.map parameterText)).toList ++ [')', ':'])

theorem method_line_chars (method : Method) :
    (methodLine method).toList = method.visibility.sign :: (methodFront method ++
      ' ' :: ((memberText method.returnType).toList ++
        endMarks method.isStatic method.isAbstract)) := by
  have sign : method.visibility.sign.toString.toList = [method.visibility.sign] := by simp
  have opening : "(".toList = ['('] := rfl
  have closing : "): ".toList = [')', ':', ' '] := rfl
  simp only [methodLine, methodFront, endMarks, String.toList_append, choice_chars, sign, opening,
    closing, List.append_assoc, List.cons_append, List.nil_append]

/-! Equal lines. -/

/-- Marks that one member has beyond another's end the type of the other. -/
theorem lacking_marks_written (front other type otherType lacking marks : List Char)
    (unspaced : ' ' ∉ lacking)
    (same : front ++ ' ' :: (type ++ (lacking ++ marks)) = other ++ ' ' :: (otherType ++ marks)) :
    lacking <:+ otherType := by
  have cut : (front ++ ' ' :: type) ++ lacking = other ++ ' ' :: otherType := by
    apply (List.append_left_inj marks).mp
    simpa using same
  exact code_behind_mark ' ' lacking other otherType unspaced ⟨_, cut⟩

theorem last_mark (front type marks : List Char) (c : Char) (last : marks.getLast? = some c) :
    (front ++ ' ' :: (type ++ marks)).getLast? = some c := by
  simp [List.getLast?_append, List.getLast?_cons, last]

/-- What the line of a property tells of another one that is written alike. A flag that the other
lacks is written in its name or type. -/
structure PropertyTold (property other : Property) : Prop where
  visibility : property.visibility = other.visibility
  readonly : property.isReadonly = true → other.isReadonly = false →
    "readonly ".toList <+: (memberText other.name).toList
  shared : property.isStatic = true → other.isStatic = false →
    "$".toList <:+ (memberText other.type).toList

theorem same_property_line (property other : Property)
    (same : propertyLine property = propertyLine other) : PropertyTold property other := by
  have chars := congrArg String.toList same
  rw [property_line_chars, property_line_chars] at chars
  obtain ⟨signs, rest⟩ := List.cons.inj chars
  refine ⟨sign_injective _ _ signs, ?_, ?_⟩
  · intro given missing
    apply code_before_mark ':' "readonly ".toList _
      (' ' :: ((memberText other.type).toList ++ endMarks other.isStatic false)) (by decide)
    rw [propertyFront, propertyFront, given, missing] at rest
    simp only [if_true, Bool.false_eq_true, if_false, List.nil_append, List.append_assoc,
      List.singleton_append] at rest
    exact ⟨_, rest⟩
  · intro given missing
    rw [given, missing] at rest
    exact lacking_marks_written _ _ _ _ "$".toList [] (by decide) rest

structure MethodTold (method other : Method) : Prop where
  visibility : method.visibility = other.visibility
  bodiless : method.isAbstract = true → other.isAbstract = false → other.isStatic = false ∧
    endMarks method.isStatic true <:+ (memberText other.returnType).toList
  shared : method.isStatic = true → other.isStatic = false →
    method.isAbstract = other.isAbstract → "$".toList <:+ (memberText other.returnType).toList

theorem same_method_line (method other : Method)
    (same : methodLine method = methodLine other) : MethodTold method other := by
  have chars := congrArg String.toList same
  rw [method_line_chars, method_line_chars] at chars
  obtain ⟨signs, rest⟩ := List.cons.inj chars
  refine ⟨sign_injective _ _ signs, ?_, ?_⟩
  · intro given missing
    rw [given, missing] at rest
    cases shared : other.isStatic with
    | true =>
        rw [shared] at rest
        have star : (endMarks method.isStatic true).getLast? = some '*' := by
          cases method.isStatic <;> rfl
        have ends := congrArg List.getLast? rest
        rw [last_mark _ _ _ '*' star, last_mark _ _ _ '$' rfl] at ends
        exact absurd ends (by decide)
    | false =>
        rw [shared] at rest
        have unspaced : ' ' ∉ endMarks method.isStatic true := by
          cases method.isStatic <;> decide
        rw [← List.append_nil (endMarks method.isStatic true)] at rest
        exact ⟨rfl, lacking_marks_written _ _ _ _ _ [] unspaced rest⟩
  · intro given missing agree
    rw [given, missing, agree] at rest
    exact lacking_marks_written _ _ _ _ "$".toList (endMarks false other.isAbstract) (by decide) rest

/-! Lines that mislead. -/

/-- Text of a member stays as it is with marks behind it. -/
theorem member_text_marked (text : String) (marks : List Char)
    (plain : ∀ c ∈ marks, isBlank c = false ∧ isMarkup c = false) :
    memberText (memberText text ++ String.ofList marks) = memberText text ++ String.ofList marks := by
  have spaced : SingleSpaced (memberText text).toList := single_line_spaced _
  rw [member_text_iff, String.toList_append, String.toList_ofList]
  refine ⟨spaced_append _ marks spaced fun c member => (plain c member).1, ?_⟩
  rw [List.forall_mem_append]
  exact ⟨member_text_unmarked text, fun c member => (plain c member).2⟩

theorem member_text_readonly (text : String) (written : memberText text ≠ "") :
    memberText ("readonly " ++ memberText text) = "readonly " ++ memberText text := by
  have spaced : SingleSpaced (memberText text).toList := single_line_spaced _
  have nonempty : (memberText text).toList ≠ [] := by simpa using written
  have chars : ("readonly " ++ memberText text).toList =
      "readonly".toList ++ ' ' :: (memberText text).toList := String.toList_append
  have word : Word "readonly".toList := by decide
  have unmarked : ("readonly".toList.all fun c => isMarkup c == false) = true := by decide
  have solid : Solid "readonly".toList :=
    ⟨word.1, fun c member => identifier_char_not_blank c (word.2 c member)⟩
  rw [member_text_iff, chars]
  constructor
  · exact spaced_cons _ _ solid spaced (spaced_first _ spaced nonempty)
  · rw [List.forall_mem_append]
    exact ⟨fun c member => beq_iff_eq.mp (List.all_eq_true.mp unmarked c member),
      List.forall_mem_cons.mpr ⟨by decide, member_text_unmarked text⟩⟩

theorem end_marks_plain (isStatic isAbstract : Bool) :
    ∀ c ∈ endMarks isStatic isAbstract, isBlank c = false ∧ isMarkup c = false := by
  have dollar : isBlank '$' = false ∧ isMarkup '$' = false := by decide
  have star : isBlank '*' = false ∧ isMarkup '*' = false := by decide
  cases isStatic <;> cases isAbstract <;> simp [endMarks, dollar, star]

theorem readonly_imitated (property : Property) (name : String) (written : memberText name ≠ "") :
    propertyLine { property with name := "readonly " ++ memberText name, isReadonly := false } =
      propertyLine { property with name, isReadonly := true } := by
  apply String.toList_injective
  rw [property_line_chars, property_line_chars]
  simp only [propertyFront, member_text_readonly name written, String.toList_append, if_true,
    Bool.false_eq_true, if_false, List.nil_append, List.append_assoc]

theorem shared_imitated (property : Property) (type : String) :
    propertyLine { property with
        type := memberText type ++ String.ofList (endMarks true false), isStatic := false } =
      propertyLine { property with type, isStatic := true } := by
  have marked := member_text_marked type _ (end_marks_plain true false)
  have unmarked : endMarks false false = [] := rfl
  apply String.toList_injective
  rw [property_line_chars, property_line_chars]
  simp only [propertyFront, marked, unmarked, String.toList_append, String.toList_ofList,
    List.append_nil]

theorem marks_imitated (method : Method) (type : String) (isStatic isAbstract : Bool) :
    methodLine { method with
        returnType := memberText type ++ String.ofList (endMarks isStatic isAbstract)
        isStatic := false
        isAbstract := false } =
      methodLine { method with returnType := type, isStatic, isAbstract } := by
  have marked := member_text_marked type _ (end_marks_plain isStatic isAbstract)
  have unmarked : endMarks false false = [] := rfl
  apply String.toList_injective
  rw [method_line_chars, method_line_chars]
  simp only [methodFront, marked, unmarked, String.toList_append, String.toList_ofList,
    List.append_nil]

/-- The line of a member tells its visibility, and its other flags unless the text beside a mark is
written like one. Each such text is also the line of a member that has the flag. -/
theorem member_lines_tell_flags :
    (∀ property other, propertyLine property = propertyLine other →
      PropertyTold property other) ∧
    (∀ method other, methodLine method = methodLine other → MethodTold method other) ∧
    (∀ (property : Property) name, memberText name ≠ "" →
      propertyLine { property with name := "readonly " ++ memberText name, isReadonly := false } =
        propertyLine { property with name, isReadonly := true }) ∧
    (∀ (property : Property) type,
      propertyLine { property with type := memberText type ++ "$", isStatic := false } =
        propertyLine { property with type, isStatic := true }) ∧
    ∀ (method : Method) type isStatic isAbstract,
      methodLine { method with
          returnType := memberText type ++ String.ofList (endMarks isStatic isAbstract)
          isStatic := false
          isAbstract := false } =
        methodLine { method with returnType := type, isStatic, isAbstract } :=
  ⟨same_property_line, same_method_line, readonly_imitated, shared_imitated, marks_imitated⟩

/-- Two spellings of one type, and a method whose type ends like a marked one. -/
theorem member_lines_tell_flags_respelled :
    propertyLine { name := "a", type := "Map<K,\n  V>", isStatic := true } =
        propertyLine { name := " a", type := "Map~K, V~", isStatic := true } ∧
      PropertyTold { name := "a", type := "Map<K,\n  V>", isStatic := true }
        { name := " a", type := "Map~K, V~", isStatic := true } ∧
      methodLine { name := "f", returnType := "T", isStatic := true, isAbstract := true } =
        methodLine { name := "f", returnType := "T$*" } ∧
      MethodTold { name := "f", returnType := "T", isStatic := true, isAbstract := true }
        { name := "f", returnType := "T$*" } ∧
      memberText " b" ≠ "" ∧
      propertyLine { name := "readonly " ++ memberText " b", type := "T" } =
        propertyLine { name := " b", type := "T", isReadonly := true } := by
  obtain ⟨property, method, readonly, _, _⟩ := member_lines_tell_flags
  have lines : propertyLine { name := "a", type := "Map<K,\n  V>", isStatic := true } =
      propertyLine { name := " a", type := "Map~K, V~", isStatic := true } := by decide +kernel
  have methods : methodLine { name := "f", returnType := "T", isStatic := true, isAbstract := true } =
      methodLine { name := "f", returnType := "T$*" } := by decide +kernel
  exact ⟨lines, property _ _ lines, methods, method _ _ methods, by decide +kernel,
    readonly { name := "", type := "T" } " b" (by decide +kernel)⟩

/-- A member that is not static, and whose type ends in a dollar sign, has the line of a static one. -/
theorem dollar_type_reads_static :
    propertyLine { name := "a", type := "typeof obs$" } =
        propertyLine { name := "a", type := "typeof obs", isStatic := true } ∧
      methodLine { name := "f", returnType := "typeof obs$" } =
        methodLine { name := "f", returnType := "typeof obs", isStatic := true } ∧
      ¬ (∀ property other, propertyLine property = propertyLine other →
        property.visibility = other.visibility ∧ property.isReadonly = other.isReadonly ∧
          property.isStatic = other.isStatic) ∧
      ¬ ∀ method other, methodLine method = methodLine other →
        method.visibility = other.visibility ∧ method.isStatic = other.isStatic ∧
          method.isAbstract = other.isAbstract := by
  have lines : propertyLine { name := "a", type := "typeof obs$" } =
      propertyLine { name := "a", type := "typeof obs", isStatic := true } := by decide +kernel
  have methods : methodLine { name := "f", returnType := "typeof obs$" } =
      methodLine { name := "f", returnType := "typeof obs", isStatic := true } := by decide +kernel
  refine ⟨lines, methods, ?_, ?_⟩
  · intro told
    exact absurd (told _ _ lines).2.2 (by decide)
  · intro told
    exact absurd (told _ _ methods).2.1 (by decide)

end SourceAtlas.ClassDiagram
