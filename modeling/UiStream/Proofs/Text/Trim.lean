import Mathlib.Data.List.DropRight
import UiStream.Text.Blank

/-!
# Trimming

What is left of a text by `trim` begins and ends with characters that are not blank, so that
trimming it again changes nothing (`trim_trim`).  It begins with the first character of the text
that is not blank (`head?_trim`), and does not depend on blanks around the text (`trim_append`).
-/

namespace UiStream

/-- Only blanks. -/
def Blanks (text : List Char) : Prop := ∀ c ∈ text, isBlank c = true

instance (text : List Char) : Decidable (Blanks text) :=
  decidable_of_iff (text.all isBlank = true) List.all_eq_true

theorem trimEnd_eq_rdropWhile (s : List Char) : trimEnd s = s.rdropWhile isBlank := rfl

/-- Trimming at the end takes nothing away before a character that is not blank. -/
theorem trimEnd_cons {c : Char} (hc : isBlank c = false) (s : List Char) :
    trimEnd (c :: s) = c :: trimEnd s := by
  have keeps : (s.reverse ++ [c]).dropWhile isBlank = s.reverse.dropWhile isBlank ++ [c] := by
    rw [List.dropWhile_append]
    split
    · next h => rw [List.isEmpty_iff.mp h]; simp [hc]
    · rfl
  rw [trimEnd, trimEnd, List.reverse_cons, keeps, List.reverse_append]
  rfl

/-- What is left at the start is nothing, or begins with a character that is not blank. -/
theorem trimStart_cases (s : List Char) :
    trimStart s = [] ∨ ∃ c rest, trimStart s = c :: rest ∧ isBlank c = false := by
  cases h : trimStart s with
  | nil => exact .inl rfl
  | cons c rest =>
    refine .inr ⟨c, rest, rfl, ?_⟩
    have := List.head?_dropWhile_not isBlank s
    rw [show s.dropWhile isBlank = c :: rest from h] at this
    simpa using this

/-- A trimmed text begins with the first character that is not blank. -/
theorem head?_trim (s : List Char) : (trim s).head? = (trimStart s).head? := by
  rw [trim]
  rcases trimStart_cases s with h | ⟨c, rest, h, hc⟩
  · rw [h]; rfl
  · rw [h, trimEnd_cons hc]; rfl

/-- Blanks around a text are trimmed away. -/
theorem trim_append {before after : List Char} (front : Blanks before) (behind : Blanks after)
    (s : List Char) : trim (before ++ s ++ after) = trim s := by
  have dropped (t : List Char) : trimEnd (t ++ after) = trimEnd t := by
    rw [trimEnd, trimEnd, List.reverse_append,
      List.dropWhile_append_of_pos fun c mem => behind c (List.mem_reverse.mp mem)]
  rw [trim, trim, trimStart, List.append_assoc, List.dropWhile_append_of_pos front,
    List.dropWhile_append]
  split
  · next h =>
    rw [trimStart, List.isEmpty_iff.mp h, List.dropWhile_eq_nil_iff.mpr behind]
  · exact dropped _

/-- A blank at the end is trimmed away. -/
theorem trim_concat {c : Char} (hc : isBlank c = true) (s : List Char) :
    trim (s ++ [c]) = trim s := by
  have front : Blanks [] := List.forall_mem_nil _
  exact trim_append front (List.forall_mem_singleton.mpr hc) s

/-- Trimming again changes nothing. -/
@[simp] theorem trim_trim (s : List Char) : trim (trim s) = trim s := by
  have start : trimStart (trim s) = trim s := by
    rw [trim]
    rcases trimStart_cases s with h | ⟨c, rest, h, hc⟩
    · rw [h]; rfl
    · rw [h, trimEnd_cons hc, trimStart, List.dropWhile_cons_of_neg (by simp [hc])]
  conv_lhs => rw [trim, start]
  rw [trim, trimEnd_eq_rdropWhile, trimEnd_eq_rdropWhile, List.rdropWhile_idempotent]

/-- Nothing is left of a text of blanks, and of no other. -/
theorem trim_eq_nil_iff (s : List Char) : trim s = [] ↔ ∀ c ∈ s, isBlank c = true := by
  rcases trimStart_cases s with h | ⟨c, rest, h, hc⟩
  · rw [trim, h]
    exact ⟨fun _ => List.dropWhile_eq_nil_iff.mp h, fun _ => rfl⟩
  · rw [trim, h, trimEnd_cons hc]
    refine ⟨(nomatch ·), fun all => ?_⟩
    have := List.dropWhile_eq_nil_iff.mpr all
    rw [show s.dropWhile isBlank = c :: rest from h] at this
    cases this

end UiStream
