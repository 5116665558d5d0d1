import Mathlib.Data.List.DropRight
import SourceAtlas.Text.Blank

/-!
Text without some characters at its ends. What is left starts and ends with a character that is
kept, and text that does so already is left as it is. What stands between two characters that are
dropped is stripped as if it stood alone.
-/

namespace SourceAtlas.Text

variable (drop : Char → Bool)

theorem drop_while_stopped (chars : List Char) :
    (chars.dropWhile drop).head?.any drop = false := by
  have stopped := List.head?_dropWhile_not drop chars
  cases first : (chars.dropWhile drop).head? with
  | none => rfl
  | some c =>
      rw [first] at stopped
      exact stopped

theorem strip_ends_front (chars : List Char) : (stripEnds drop chars).head?.any drop = false := by
  have kept : stripEnds drop chars <+: chars.dropWhile drop := List.rdropWhile_prefix drop _
  obtain ⟨behind, whole⟩ := kept
  have stopped := drop_while_stopped drop chars
  rw [← whole, List.head?_append] at stopped
  cases first : (stripEnds drop chars).head? with
  | none => rfl
  | some c =>
      rw [first] at stopped
      exact stopped

theorem strip_ends_back (chars : List Char) :
    (stripEnds drop chars).getLast?.any drop = false := by
  rw [stripEnds, List.getLast?_reverse]
  exact drop_while_stopped drop _

/-- Nothing is left out but what stands at the ends and is dropped. -/
theorem strip_ends_inside (chars : List Char) :
    ∃ before after, chars = before ++ (stripEnds drop chars ++ after) ∧
      (∀ c ∈ before, drop c = true) ∧ ∀ c ∈ after, drop c = true := by
  have back : (chars.dropWhile drop).rdropWhile drop ++ (chars.dropWhile drop).rtakeWhile drop =
      chars.dropWhile drop := List.rdropWhile_append_rtakeWhile
  refine ⟨chars.takeWhile drop, (chars.dropWhile drop).rtakeWhile drop, ?_, ?_, ?_⟩
  · calc chars = chars.takeWhile drop ++ chars.dropWhile drop :=
          List.takeWhile_append_dropWhile.symm
      _ = _ := congrArg _ back.symm
  · exact fun c => List.mem_takeWhile_imp
  · exact fun c => List.mem_rtakeWhile_imp

theorem drop_while_kept (chars : List Char) (front : chars.head?.any drop = false) :
    chars.dropWhile drop = chars := by
  cases chars with
  | nil => rfl
  | cons c rest => exact List.dropWhile_cons_of_neg (by simpa using front)

theorem strip_ends_iff (chars : List Char) :
    stripEnds drop chars = chars ↔
      chars.head?.any drop = false ∧ chars.getLast?.any drop = false := by
  constructor
  · intro same
    rw [← same]
    exact ⟨strip_ends_front drop chars, strip_ends_back drop chars⟩
  · rintro ⟨front, back⟩
    rw [stripEnds, drop_while_kept drop chars front, drop_while_kept drop chars.reverse
      (by rw [List.head?_reverse]; exact back), List.reverse_reverse]

theorem strip_ends_solid (chars : List Char) (kept : ∀ c ∈ chars, drop c = false) :
    stripEnds drop chars = chars := by
  have edge : ∀ c : Option Char, (∀ d ∈ c, d ∈ chars) → c.any drop = false := by
    intro c inside
    cases c with
    | none => rfl
    | some d => exact kept d (inside d rfl)
  exact (strip_ends_iff drop chars).mpr
    ⟨edge _ fun _ => List.mem_of_mem_head?, edge _ fun _ => List.mem_of_mem_getLast?⟩

theorem strip_ends_padded (before chars after : List Char) (front : ∀ c ∈ before, drop c = true)
    (back : ∀ c ∈ after, drop c = true) :
    stripEnds drop (before ++ (chars ++ after)) = stripEnds drop chars := by
  rw [stripEnds, List.dropWhile_append_of_pos front, List.dropWhile_append]
  by_cases nothing : (chars.dropWhile drop).isEmpty = true
  · have left : chars.dropWhile drop = [] := List.isEmpty_iff.mp nothing
    have behind : after.dropWhile drop = [] := List.dropWhile_eq_nil_iff.mpr back
    rw [if_pos nothing, behind, stripEnds, left]
  · have behind : ∀ c ∈ after.reverse, drop c = true := by simpa using back
    rw [if_neg nothing, List.reverse_append, List.dropWhile_append_of_pos behind, stripEnds]

end SourceAtlas.Text
