import UiStream.Proofs.Stream.Lines
import UiStream.Proofs.Text.Trim
import UiStream.Stream.Chat

/-!
# What a fence leaves of a text

`sift` goes through the lines of a text with their line breaks, keeps the prose and puts the
patches in the places of their lines: it is the account of a text with patches against which the
filter of text parts is measured.  Its patches are those a `ChatReader` reports
(`patches_sift`), and its characters are those of `keptText`, the text without markers, patches and
the lines inside a fence (`characters_sift`).

`Fence.Reads` lists what a line can be, with what each kind tells about the line.
-/

namespace UiStream

open LineBuffer (cut textLines)

/-! ## Reading a line -/

/-- A character with which a marker or a patch may begin. -/
def MayBegin (c : Char) : Prop := c = '{' ∨ c = '`'

/-- The markers can be told from prose: the opening one by its first character, and the closing one
is not empty. -/
structure FenceOptions.Spottable (options : FenceOptions) : Prop where
  opening : ∃ c, options.opening.toList.head? = some c ∧ MayBegin c
  closing : options.closing ≠ ""

theorem MayBegin.not_blank {c : Char} (h : MayBegin c) : isBlank c = false := by
  rcases h with rfl | rfl <;> decide

namespace Fence

variable (fence : Fence) (line : List Char)

/-- The line break of a line does not matter. -/
theorem read_break : fence.read (line ++ ['\n']) = fence.read line := by
  rw [read, read, trim_concat (by decide)]

/-- What a line can be: only a marker changes the fence, lines are dropped inside, and text is
outside. -/
inductive Reads (fence : Fence) (line : List Char) : LineKind → Fence → Prop
  | opening (outside : fence.inside = false) (marker : opens fence.options (trim line)) :
      Reads fence line .marker { fence with inside := true }
  | closing (inside : fence.inside = true) (marker : closes fence.options (trim line)) :
      Reads fence line .marker { fence with inside := false }
  | blank (empty : trim line = []) : Reads fence line .blank fence
  | patch {patch : Patch} (found : patchOfLine? (trim line) = some patch) :
      Reads fence line (.patch patch) fence
  | dropped (inside : fence.inside = true) : Reads fence line .dropped fence
  | text (outside : fence.inside = false) : Reads fence line .text fence

/-- Every line goes by one of the rules. -/
theorem reads_read : Reads fence line (fence.read line).1 (fence.read line).2 := by
  suffices ∀ kind next, fence.read line = (kind, next) → Reads fence line kind next from
    this _ _ rfl
  intro kind next h
  unfold read at h
  dsimp only at h
  split at h
  · next opened =>
    cases h
    rw [Bool.and_eq_true, Bool.not_eq_true'] at opened
    exact .opening opened.1 opened.2
  split at h
  · next closed =>
    cases h
    rw [Bool.and_eq_true] at closed
    exact .closing closed.1 closed.2
  split at h
  · next empty => cases h; exact .blank (List.isEmpty_iff.mp empty)
  split at h
  · next inside =>
    split at h
    · next found => cases h; exact .patch found
    · cases h; exact .dropped inside
  next outside =>
  have outside : fence.inside = false := Bool.eq_false_iff.mpr outside
  split at h
  · split at h
    · next found => cases h; exact .patch found
    · cases h; exact .text outside
  · cases h; exact .text outside

theorem Reads.options {fence next : Fence} {line : List Char} {kind : LineKind}
    (h : Reads fence line kind next) : next.options = fence.options := by
  cases h <;> rfl

/-- Lines do not change the markers. -/
theorem options_readLines (lines : List (List Char)) :
    (ChatReader.readLines fence lines).2.options = fence.options := by
  induction lines generalizing fence with
  | nil => rfl
  | cons line lines ih => exact (ih _).trans (fence.reads_read line).options

variable {fence line}

/-- A blank line is blank. -/
theorem read_of_blank (spottable : fence.options.Spottable) (blank : trim line = []) :
    fence.read line = (.blank, fence) := by
  obtain ⟨c, first, _⟩ := spottable.opening
  have opening : opens fence.options [] = false := by
    unfold opens
    cases h : fence.options.opening.toList with
    | nil => rw [h] at first; cases first
    | cons => rfl
  have closing : closes fence.options [] = false := by
    refine beq_eq_false_iff_ne.mpr fun empty => spottable.closing ?_
    exact String.toList_eq_nil_iff.mp empty.symm
  rw [read, blank]
  simp only [opening, closing, Bool.and_false, Bool.false_eq_true, if_false]
  rfl

/-- Outside, a line that begins with another character is no marker and no patch. -/
theorem read_of_plain (spottable : fence.options.Spottable) (outside : fence.inside = false)
    (plain : ∀ c, (trim line).head? = some c → ¬ MayBegin c) :
    fence.read line = (.blank, fence) ∨ fence.read line = (.text, fence) := by
  obtain ⟨c, first, may⟩ := spottable.opening
  have opening : opens fence.options (trim line) = false := by
    refine Bool.eq_false_iff.mpr fun opened => plain c ?_ may
    obtain ⟨rest, same⟩ := List.isPrefixOf_iff_prefix.mp opened
    rw [← same]
    cases h : fence.options.opening.toList with
    | nil => rw [h] at first; cases first
    | cons => rw [h] at first; exact first
  have none : patchOfLine? (trim line) = none := by
    rw [patchOfLine?, trim_trim, patchOfTrimmed?, if_neg]
    exact fun brace => plain _ brace (.inl rfl)
  rw [read]
  simp only [outside, opening, none]
  cases (trim line).isEmpty with
  | true => exact .inl rfl
  | false => cases fence.options.heuristic <;> exact .inr rfl

end Fence

/-- Reading lines can be stopped between two of them and taken up again. -/
theorem ChatReader.readLines_append (fence : Fence) (a b : List (List Char)) :
    readLines fence (a ++ b) =
      ((readLines fence a).1 ++ (readLines (readLines fence a).2 b).1,
        (readLines (readLines fence a).2 b).2) := by
  induction a generalizing fence with
  | nil => rfl
  | cons line a ih => simp only [List.cons_append, readLines, ih, List.append_assoc]

/-! ## What is left of a text -/

/-- A part of a text with patches that cannot be cut. -/
inductive Atom where
  | character (c : Char)
  | patch (patch : Patch)
deriving DecidableEq, Repr

/-- The patch of an atom. -/
def Atom.patch? : Atom → Option Patch
  | patch p => some p
  | character _ => none

/-- The character of an atom. -/
def Atom.character? : Atom → Option Char
  | patch _ => none
  | character c => some c

/-- Characters are no patches. -/
theorem Atom.filterMap_patch?_map (text : List Char) :
    (text.map character).filterMap patch? = [] := by
  rw [List.filterMap_map]
  exact List.filterMap_eq_nil_iff.mpr fun _ _ => rfl

theorem Atom.filterMap_character?_map (text : List Char) :
    (text.map character).filterMap character? = text := by
  rw [List.filterMap_map]
  exact List.filterMap_some

/-- Whether a line is taken out of a text: markers and patches are, and all that is inside a
fence. -/
def LineKind.isTakenOut (inside : Bool) : LineKind → Bool
  | .marker | .patch _ => true
  | .dropped | .blank | .text => inside

/-- What is left of a line: its patch, the line itself or nothing. -/
def remains (inside : Bool) (line : List Char) (kind : LineKind) : List Atom :=
  match kind with
  | .patch patch => [.patch patch]
  | kind => if kind.isTakenOut inside then [] else line.map .character

/-- What is left of lines. -/
def sift : Fence → List (List Char) → List Atom
  | _, [] => []
  | fence, line :: rest =>
    remains fence.inside line (fence.read line).1 ++ sift (fence.read line).2 rest

/-- The lines that are not taken out. -/
def keptText : Fence → List (List Char) → List Char
  | _, [] => []
  | fence, line :: rest =>
    (if (fence.read line).1.isTakenOut fence.inside then [] else line) ++
      keptText (fence.read line).2 rest

/-- The lines of a text, each with its line break if it has one. -/
def rawLines (text : List Char) : List (List Char) :=
  (cut text).1.map (· ++ ['\n']) ++ if (cut text).2.isEmpty then [] else [(cut text).2]

/-- What is left of lines and of what comes behind them. -/
theorem sift_append (fence : Fence) (lines behind : List (List Char)) :
    sift fence (lines.map (· ++ ['\n']) ++ behind) =
      sift fence (lines.map (· ++ ['\n'])) ++
        sift (ChatReader.readLines fence lines).2 behind := by
  induction lines generalizing fence with
  | nil => rfl
  | cons line lines ih =>
    simp only [List.map_cons, List.cons_append, sift, Fence.read_break, ih, List.append_assoc]
    rfl

/-- The characters that are left are those of the lines that are not taken out. -/
theorem characters_sift (fence : Fence) (lines : List (List Char)) :
    (sift fence lines).filterMap Atom.character? = keptText fence lines := by
  induction lines generalizing fence with
  | nil => rfl
  | cons line rest ih =>
    have one (inside : Bool) (kind : LineKind) :
        (remains inside line kind).filterMap Atom.character? =
          if kind.isTakenOut inside then [] else line := by
      cases kind <;> cases inside <;> first | rfl | exact Atom.filterMap_character?_map line
    rw [sift, keptText, List.filterMap_append, ih, one]

/-- The patches that are left are those a reader reports. -/
theorem patches_sift (fence : Fence) (text : List Char) :
    (sift fence (rawLines text)).filterMap Atom.patch? =
      (ChatReader.readLines fence (textLines text)).1.filterMap ChatEvent.patch? := by
  have one (inside : Bool) (raw line : List Char) (kind : LineKind) :
      (remains inside raw kind).filterMap Atom.patch? =
        (ChatReader.eventOf line kind).toList.filterMap ChatEvent.patch? := by
    cases kind <;> cases inside <;> first | rfl | exact Atom.filterMap_patch?_map raw
  rw [rawLines, LineBuffer.textLines_eq_cut]
  induction (cut text).1 generalizing fence with
  | nil =>
    cases (cut text).2 with
    | nil => rfl
    | cons c rest =>
      simp only [List.map_nil, List.nil_append, List.isEmpty_cons, Bool.false_eq_true, if_false,
        sift, ChatReader.readLines, List.append_nil]
      exact one ..
  | cons line lines ih =>
    simp only [List.map_cons, List.cons_append, sift, Fence.read_break, List.filterMap_append, ih,
      ChatReader.readLines]
    rw [one]

end UiStream
