import UiStream.Stream.Lines

/-!
# The lines of a stream that comes in pieces

A `LineBuffer` gives out the lines of a stream piece by piece.  `LineBuffer.linesOf_eq` says that
all of them together are the lines of the whole text: where the pieces end, inside a line or
inside a character, does not show.

`cut_append` is the heart of it: behind the last line break of a beginning, cutting begins afresh
with what was left over in front of what follows.
-/

namespace UiStream

namespace LineBuffer

/-! ## Cutting a text -/

/-- A line break ends an empty line. -/
@[simp] theorem cut_cons_break (s : List Char) :
    cut ('\n' :: s) = ([] :: (cut s).1, (cut s).2) := by
  simp only [cut, splitOn, if_true]
  cases h : splitOn '\n' s with
  | nil => exact absurd h (splitOn_ne_nil '\n' s)
  | cons piece pieces => rfl

/-- Any other character goes to the front of the first line, or of the rest if there is none. -/
theorem cut_cons {c : Char} (hc : c ≠ '\n') (s : List Char) :
    cut (c :: s) =
      match (cut s).1 with
      | [] => ([], c :: (cut s).2)
      | line :: lines => ((c :: line) :: lines, (cut s).2) := by
  simp only [cut, splitOn, if_neg hc]
  cases h : splitOn '\n' s with
  | nil => exact absurd h (splitOn_ne_nil '\n' s)
  | cons piece pieces => cases pieces <;> rfl

/-- A text without line breaks is the beginning of a line. -/
theorem cut_of_not_mem {s : List Char} (hs : '\n' ∉ s) : cut s = ([], s) := by
  induction s with
  | nil => rfl
  | cons c s ih =>
    obtain ⟨hc, hs⟩ := not_or.mp (mt List.mem_cons.mpr hs)
    rw [cut_cons (Ne.symm hc), ih hs]

/-- A line with its break is complete. -/
theorem cut_break {line : List Char} (h : '\n' ∉ line) : cut (line ++ ['\n']) = ([line], []) := by
  induction line with
  | nil => rfl
  | cons c line ih =>
    obtain ⟨hc, h⟩ := not_or.mp (mt List.mem_cons.mpr h)
    rw [List.cons_append, cut_cons (Ne.symm hc), ih h]

/-- Behind the last line break of a beginning, cutting begins afresh. -/
theorem cut_append (a b : List Char) :
    cut (a ++ b) =
      ((cut a).1 ++ (cut ((cut a).2 ++ b)).1, (cut ((cut a).2 ++ b)).2) := by
  induction a with
  | nil => rfl
  | cons c a ih =>
    by_cases hc : c = '\n'
    · subst hc
      rw [List.cons_append, cut_cons_break, cut_cons_break, ih]
      rfl
    · rw [List.cons_append, cut_cons hc, cut_cons hc a, ih]
      cases h : (cut a).1 with
      | nil => rw [List.nil_append]; exact (cut_cons hc _).symm
      | cons line lines => rfl

/-- No line has a line break in it. -/
theorem not_mem_cut_fst {s line : List Char} (h : line ∈ (cut s).1) : '\n' ∉ line := by
  induction s generalizing line with
  | nil => cases h
  | cons c s ih =>
    by_cases hc : c = '\n'
    · rw [hc, cut_cons_break] at h
      rcases List.mem_cons.mp h with rfl | h
      · exact List.not_mem_nil
      · exact ih h
    · rw [cut_cons hc] at h
      cases lines : (cut s).1 with
      | nil => rw [lines] at h; cases h
      | cons first others =>
        rw [lines] at h ih
        rcases List.mem_cons.mp h with rfl | h
        · exact fun h => (List.mem_cons.mp h).elim (fun h => hc h.symm) (ih (.head _))
        · exact ih (.tail _ h)

/-- No line break is left behind the last one. -/
theorem not_mem_cut_snd (s : List Char) : '\n' ∉ (cut s).2 := by
  induction s with
  | nil => exact List.not_mem_nil
  | cons c s ih =>
    by_cases hc : c = '\n'
    · rw [hc, cut_cons_break]; exact ih
    · rw [cut_cons hc]
      cases (cut s).1 with
      | nil => exact fun h => (List.mem_cons.mp h).elim (fun h => hc h.symm) ih
      | cons line lines => exact ih

/-- The lines with their breaks and what is behind the last one make up the text. -/
theorem flatMap_cut (s : List Char) : (cut s).1.flatMap (· ++ ['\n']) ++ (cut s).2 = s := by
  induction s with
  | nil => rfl
  | cons c s ih =>
    by_cases hc : c = '\n'
    · rw [hc, cut_cons_break, List.flatMap_cons, List.append_assoc, ih]
      rfl
    · rw [cut_cons hc]
      cases h : (cut s).1 with
      | nil => rw [h] at ih; exact congrArg (c :: ·) ih
      | cons line lines => rw [h] at ih; exact congrArg (c :: ·) ih

/-- Cutting gives the pieces between the line breaks, the last one apart. -/
theorem splitOn_eq_cut (s : List Char) : splitOn '\n' s = (cut s).1 ++ [(cut s).2] := by
  have hs := List.getLast?_eq_some_getLast (splitOn_ne_nil '\n' s)
  rw [cut, hs]
  exact (List.dropLast_concat_getLast (splitOn_ne_nil '\n' s)).symm

/-! ## The lines of a text -/

/-- The lines of a text: its pieces between line breaks.  An empty last piece is no line, for behind
a line break at the very end no further line begins. -/
def textLines (text : List Char) : List (List Char) :=
  let pieces := splitOn '\n' text
  if pieces.getLast? = some [] then pieces.dropLast else pieces

/-- The lines of a text are the complete ones, and what is behind the last line break if that is
something. -/
theorem textLines_eq_cut (text : List Char) :
    textLines text = (cut text).1 ++ if (cut text).2.isEmpty then [] else [(cut text).2] := by
  rw [textLines, splitOn_eq_cut]
  cases (cut text).2 <;> simp

/-- The lines of a text are its pieces between line breaks, but for an empty one at the end. -/
theorem splitOn_eq_textLines (text : List Char) :
    splitOn '\n' text = textLines text ++ if (cut text).2.isEmpty then [[]] else [] := by
  rw [splitOn_eq_cut, textLines_eq_cut]
  cases (cut text).2 <;> simp

/-- The lines of a text that goes on: those the beginning has completed, and those of what was
left over with what follows. -/
theorem textLines_append (a b : List Char) :
    textLines (a ++ b) = (cut a).1 ++ textLines ((cut a).2 ++ b) := by
  rw [textLines_eq_cut, textLines_eq_cut, cut_append, List.append_assoc]

/-- Lines with their breaks are the lines of the text that they make up. -/
theorem textLines_breaks {lines : List (List Char)} (breakless : ∀ line ∈ lines, '\n' ∉ line) :
    textLines (lines.flatMap (· ++ ['\n'])) = lines := by
  induction lines with
  | nil => rfl
  | cons line rest ih =>
    obtain ⟨first, later⟩ := List.forall_mem_cons.mp breakless
    rw [List.flatMap_cons, textLines_append, cut_break first, List.nil_append, ih later]
    rfl

/-! ## The lines of a stream -/

/-- All lines that a buffer gives out for pieces in bytes, with the last, incomplete one. -/
def linesOf : LineBuffer → List (List UInt8) → List (List Char)
  | buffer, [] => buffer.takeRest.1.toList
  | buffer, piece :: rest => (buffer.pushBytes piece).1 ++ linesOf (buffer.pushBytes piece).2 rest

/-- The text of everything that a buffer has and still gets. -/
def wholeText (buffer : LineBuffer) (bytes : List UInt8) : List Char :=
  buffer.pending ++ (Utf8.feed buffer.held bytes).1 ++
    Utf8.finish (Utf8.feed buffer.held bytes).2

theorem wholeText_empty (bytes : List UInt8) :
    ({} : LineBuffer).wholeText bytes = Utf8.decodeLossy bytes := rfl

/-- A piece turns the beginning of the whole text into lines and leaves the rest of it. -/
theorem textLines_wholeText (buffer : LineBuffer) (piece bytes : List UInt8) :
    textLines (buffer.wholeText (piece ++ bytes)) =
      (buffer.pushBytes piece).1 ++ textLines ((buffer.pushBytes piece).2.wholeText bytes) := by
  simp only [wholeText, pushBytes, push, Utf8.feed_append, ← List.append_assoc]
  rw [List.append_assoc (buffer.pending ++ _), textLines_append, ← List.append_assoc]

/-- The lines of a stream in pieces are those of its whole text. -/
theorem linesOf_eq (buffer : LineBuffer) (pending : '\n' ∉ buffer.pending)
    (pieces : List (List UInt8)) :
    buffer.linesOf pieces = textLines (buffer.wholeText pieces.flatten) := by
  induction pieces generalizing buffer with
  | nil =>
    have rest : '\n' ∉ buffer.restText := by
      rw [restText, List.mem_append, not_or]
      exact ⟨pending, by unfold Utf8.finish; split <;> decide⟩
    have whole : buffer.wholeText [] = buffer.restText := by simp [wholeText, restText, Utf8.feed]
    rw [linesOf, takeRest, List.flatten_nil, whole, textLines_eq_cut, cut_of_not_mem rest]
    cases buffer.restText <;> rfl
  | cons piece rest ih =>
    rw [linesOf, List.flatten_cons, textLines_wholeText, ih]
    exact not_mem_cut_snd _

end LineBuffer

end UiStream
