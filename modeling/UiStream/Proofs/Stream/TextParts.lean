import UiStream.Proofs.Stream.Fence
import UiStream.Stream.TextParts

/-!
# The filter of text parts reads lines

`PartFilter` looks at one character at a time, and lets prose go on before it knows the line.
Still, it leaves of each line what reading the line as a whole leaves of it.

`Moves` lists what a character can do to a filter, with one rule for each phase of a line.
`Between` is the invariant between two line breaks: only indentation has come of the line, the line
is held, or it has begun to go on as prose.  A character keeps it (`Between.step`), and at the end
of a line what has gone on and what is given out are together what the line leaves
(`Between.lineBreak`, `Between.flushLine`).
-/

namespace UiStream

/-! ## Atoms of the output -/

/-- The atoms of a piece. -/
def Piece.atoms : Piece → List Atom
  | .prose text => text.map .character
  | .patch p => [.patch p]

/-- The atoms of a part. -/
def StreamPart.atoms : StreamPart → List Atom
  | .textDelta _ delta => delta.toList.map .character
  | .patch p => [.patch p]
  | .textStart _ | .textEnd _ | .other _ => []

/-- Merging changes no atoms. -/
theorem Piece.atoms_merge (pieces : List Piece) :
    (merge pieces).flatMap atoms = pieces.flatMap atoms := by
  fun_induction merge pieces with
  | case1 => rfl
  | case2 p rest ih => rw [List.flatMap_cons, List.flatMap_cons, ih]
  | case3 rest ih => rw [ih]; rfl
  | case4 rest c cs later merged h ih =>
    rw [h, List.flatMap_cons] at ih
    rw [List.flatMap_cons, List.flatMap_cons, ← ih]
    simp [atoms]
  | case5 rest c cs h ih => rw [List.flatMap_cons, List.flatMap_cons, ih]

/-- No merged piece is empty. -/
theorem Piece.atoms_ne_nil_of_mem_merge {pieces : List Piece} {piece : Piece}
    (h : piece ∈ merge pieces) : piece.atoms ≠ [] := by
  fun_induction merge pieces with
  | case1 => cases h
  | case2 p rest ih =>
    rcases List.mem_cons.mp h with rfl | h
    · exact List.cons_ne_nil _ _
    · exact ih h
  | case3 rest ih => exact ih h
  | case4 rest c cs later merged same ih =>
    rcases List.mem_cons.mp h with rfl | h
    · exact List.cons_ne_nil _ _
    · exact ih (same ▸ .tail _ h)
  | case5 rest c cs other ih =>
    rcases List.mem_cons.mp h with rfl | h
    · exact List.cons_ne_nil _ _
    · exact ih h

theorem Piece.atoms_toPart (id : String) (piece : Piece) :
    (piece.toPart id).atoms = piece.atoms := by
  cases piece with
  | prose text => simp [toPart, StreamPart.atoms, atoms]
  | patch p => rfl

namespace PartFilter

theorem atoms_emit (filter : PartFilter) (pieces : List Piece) :
    (filter.emit pieces).flatMap StreamPart.atoms = pieces.flatMap Piece.atoms := by
  rw [emit, List.flatMap_map, ← Piece.atoms_merge]
  exact List.flatMap_congr fun piece _ => Piece.atoms_toPart filter.textId piece

/-! ## Steps -/

/-- The characters that keep a line at its beginning. -/
def isIndent (c : Char) : Bool := c = ' ' || c = '\t'

/-- What a character can do to a filter. -/
inductive Moves (filter : PartFilter) : Char → List Piece → PartFilter → Prop
  | complete (holding : filter.holding = true) {kind : LineKind} {next : Fence}
      (reads : filter.fence.Reads filter.line kind next) :
      Moves filter '\n' (completed filter.line next.inside kind)
        { filter with fence := next, line := [], holding := false, atLineStart := true }
  | swallow (unheld : filter.holding = false) (inside : filter.fence.inside = true) :
      Moves filter '\n' [] { filter with line := [], atLineStart := true }
  | pass (unheld : filter.holding = false) (outside : filter.fence.inside = false) :
      Moves filter '\n' [.prose (filter.line ++ ['\n'])]
        { filter with line := [], atLineStart := true }
  | hold {c : Char} (other : c ≠ '\n') (holding : filter.holding = true) :
      Moves filter c [] { filter with line := filter.line ++ [c] }
  | flow {c : Char} (other : c ≠ '\n') (unheld : filter.holding = false)
      (inner : filter.atLineStart = false) : Moves filter c [.prose [c]] filter
  | indent {c : Char} (unheld : filter.holding = false) (start : filter.atLineStart = true)
      (indent : isIndent c = true) :
      Moves filter c [] { filter with line := filter.line ++ [c] }
  | grasp {c : Char} (other : c ≠ '\n') (unheld : filter.holding = false)
      (start : filter.atLineStart = true) (first : isIndent c = false)
      (may : filter.fence.inside = true ∨ MayBegin c) :
      Moves filter c []
        { filter with line := filter.line ++ [c], holding := true, atLineStart := false }
  | release {c : Char} (other : c ≠ '\n') (unheld : filter.holding = false)
      (start : filter.atLineStart = true) (first : isIndent c = false)
      (outside : filter.fence.inside = false) (plain : ¬ MayBegin c) :
      Moves filter c [.prose (filter.line ++ [c])]
        { filter with line := [], atLineStart := false }

theorem moves_step (filter : PartFilter) (c : Char) :
    filter.Moves c (filter.step c).1 (filter.step c).2 := by
  unfold step
  split
  · next same =>
    subst same
    unfold lineBreak
    split
    · next holding => exact .complete holding (filter.fence.reads_read filter.line)
    next unheld =>
    rw [Bool.not_eq_true] at unheld
    split
    · next inside => exact .swallow unheld inside
    · next outside => exact .pass unheld (Bool.eq_false_iff.mpr outside)
  next other =>
  unfold character
  split
  · next holding => exact .hold other holding
  next unheld =>
  rw [Bool.not_eq_true] at unheld
  split
  · next inner => exact .flow other unheld (by simpa using inner)
  next start =>
  rw [Bool.not_eq_true', Bool.not_eq_false] at start
  split
  · next indent => exact .indent unheld start indent
  next first =>
  have first : isIndent c = false := Bool.eq_false_iff.mpr first
  split
  · next may => exact .grasp other unheld start first (by simpa [MayBegin, or_assoc] using may)
  · next neither =>
    obtain ⟨outside, plain⟩ : filter.fence.inside = false ∧ ¬ MayBegin c := by
      simpa [MayBegin, or_assoc] using neither
    exact .release other unheld start first outside plain

/-! ## Between two line breaks -/

/-- The filter at the beginning of a line. -/
def lineStart (fence : Fence) (id : String) : PartFilter := { fence, textId := id }

/-- The filter behind the beginning of a line, and what has gone on of it: there is only
indentation, the line is held, or it goes on as prose. -/
inductive Between (fence : Fence) (id : String) : List Char → PartFilter → List Atom → Prop
  | indent {line : List Char} (all : ∀ b ∈ line, isIndent b) :
      Between fence id line { lineStart fence id with line } []
  | held {indent rest : List Char} {c : Char} (all : ∀ b ∈ indent, isIndent b)
      (first : isIndent c = false) (may : fence.inside = true ∨ MayBegin c) :
      Between fence id (indent ++ c :: rest)
        { lineStart fence id with
          line := indent ++ c :: rest, holding := true, atLineStart := false } []
  | prose {indent rest : List Char} {c : Char} (all : ∀ b ∈ indent, isIndent b)
      (first : isIndent c = false) (outside : fence.inside = false) (other : ¬ MayBegin c) :
      Between fence id (indent ++ c :: rest) { lineStart fence id with atLineStart := false }
        ((indent ++ c :: rest).map .character)

theorem feed_append (filter : PartFilter) (a b : List Char) :
    filter.feed (a ++ b) =
      ((filter.feed a).1 ++ ((filter.feed a).2.feed b).1, ((filter.feed a).2.feed b).2) := by
  induction a generalizing filter with
  | nil => rfl
  | cons c a ih => simp only [List.cons_append, feed, ih, List.append_assoc]

variable {fence : Fence} {id : String} {line : List Char} {filter : PartFilter} {passed : List Atom}

/-- The next character of a line. -/
theorem Between.step (h : Between fence id line filter passed) {c : Char} (hc : c ≠ '\n') :
    Between fence id (line ++ [c]) (filter.step c).2
      (passed ++ (filter.step c).1.flatMap Piece.atoms) := by
  have moves := filter.moves_step c
  generalize filter.step c = move at moves ⊢
  obtain ⟨pieces, next⟩ := move
  dsimp only at moves ⊢
  cases h with
  | indent all =>
    cases moves with
    | complete | swallow | pass => exact absurd rfl hc
    | hold _ holding => cases holding
    | flow _ _ inner => cases inner
    | indent _ _ first =>
      refine .indent fun b hb => ?_
      rcases List.mem_append.mp hb with hb | hb
      · exact all b hb
      · rw [List.mem_singleton.mp hb]; exact first
    | grasp _ _ _ first may => exact .held all first may
    | release _ _ _ first outside plain =>
      have started : Between fence id (line ++ c :: []) _ _ := .prose all first outside plain
      have given : [Piece.prose (line ++ [c])].flatMap Piece.atoms = (line ++ [c]).map .character :=
        List.append_nil _
      rw [List.nil_append, given]
      exact started
  | @held indent rest d all first may =>
    cases moves with
    | complete | swallow | pass => exact absurd rfl hc
    | flow _ unheld | indent unheld | grasp _ unheld | release _ unheld => cases unheld
    | hold =>
      have on : Between fence id (indent ++ d :: (rest ++ [c])) _ _ := .held all first may
      rw [← List.cons_append, ← List.append_assoc] at on
      exact on
  | @prose indent rest d all first outside other =>
    cases moves with
    | complete | swallow | pass => exact absurd rfl hc
    | hold _ holding => cases holding
    | indent _ start | grasp _ _ start | release _ _ start => cases start
    | flow =>
      have on : Between fence id (indent ++ d :: (rest ++ [c])) _ _ :=
        .prose all first outside other
      rw [← List.cons_append, ← List.append_assoc, List.map_append] at on
      exact on

/-- The characters of a line up to its break. -/
theorem Between.feed (h : Between fence id line filter passed) {more : List Char}
    (hm : '\n' ∉ more) :
    Between fence id (line ++ more) (filter.feed more).2
      (passed ++ (filter.feed more).1.flatMap Piece.atoms) := by
  induction more generalizing line filter passed with
  | nil => simpa [PartFilter.feed] using h
  | cons c more ih =>
    obtain ⟨hc, hm⟩ := not_or.mp (mt List.mem_cons.mpr hm)
    have := ih (h.step (Ne.symm hc)) hm
    rw [List.append_assoc, List.append_assoc, ← List.flatMap_append] at this
    exact this

/-! ## The end of a line -/

/-- If a patch or a marker may begin at the first character that is not blank, only spaces and tabs
are in front of it. -/
def Indented (line : List Char) : Prop :=
  ∀ c, (trim line).head? = some c → MayBegin c → ∀ b ∈ line.takeWhile isBlank, b = ' ' ∨ b = '\t'

/-- Spaces are indentation. -/
theorem indented_of_spaces {n : Nat} (h : line.takeWhile isBlank = List.replicate n ' ') :
    Indented line := by
  intro _ _ _ b blank
  rw [h] at blank
  exact .inl (List.eq_of_mem_replicate blank)

theorem isIndent_iff {c : Char} : isIndent c = true ↔ c = ' ' ∨ c = '\t' := by
  simp [isIndent]

theorem isBlank_of_isIndent {c : Char} (h : isIndent c = true) : isBlank c = true := by
  rcases isIndent_iff.mp h with rfl | rfl <;> decide

/-- A line that goes on as prose has no beginning of a patch or a marker. -/
theorem Indented.plain {indent rest : List Char} {c : Char}
    (indented : Indented (indent ++ c :: rest)) (all : ∀ b ∈ indent, isIndent b)
    (first : isIndent c = false) (other : ¬ MayBegin c) :
    ∀ d, (trim (indent ++ c :: rest)).head? = some d → ¬ MayBegin d := by
  intro d head may
  have blanks : ∀ b ∈ indent, isBlank b = true := fun b hb => isBlank_of_isIndent (all b hb)
  have only := indented d head may
  rw [head?_trim, trimStart] at head
  rw [List.takeWhile_append_of_pos blanks] at only
  rw [List.dropWhile_append_of_pos blanks] at head
  cases blank : isBlank c with
  | true =>
    rw [List.takeWhile_cons_of_pos blank] at only
    rw [isIndent_iff.mpr (only c (by simp))] at first
    cases first
  | false =>
    rw [List.dropWhile_cons_of_neg (by simp [blank])] at head
    cases head
    exact other may

/-- Only inside a fence a held line can be blank. -/
theorem inside_of_blank {indent rest : List Char} {c : Char}
    (may : fence.inside = true ∨ MayBegin c) (blank : trim (indent ++ c :: rest) = []) :
    fence.inside = true := by
  refine may.resolve_right fun may => ?_
  have := (trim_eq_nil_iff _).mp blank c (by simp)
  rw [may.not_blank] at this
  cases this

/-- A held line gives out what it leaves when its line break comes. -/
theorem atoms_completed {kind : LineKind} {next : Fence} (reads : fence.Reads line kind next)
    (blank : trim line = [] → fence.inside = true) :
    (completed line next.inside kind).flatMap Piece.atoms =
      remains fence.inside (line ++ ['\n']) kind := by
  cases reads with
  | opening | closing | patch => rfl
  | blank empty => simp [completed, remains, LineKind.isTakenOut, blank empty]
  | dropped inside => simp [completed, remains, LineKind.isTakenOut, inside]
  | text outside => simp [completed, remains, LineKind.isTakenOut, outside, Piece.atoms]

/-- A held line gives out what it leaves when the text ends. -/
theorem atoms_unfinished {kind : LineKind} {next : Fence} (reads : fence.Reads line kind next)
    (blank : trim line = [] → fence.inside = true) :
    (unfinished line kind).flatMap Piece.atoms = remains fence.inside line kind := by
  cases reads with
  | opening | closing | patch => rfl
  | blank empty => simp [unfinished, remains, LineKind.isTakenOut, blank empty]
  | dropped inside => simp [unfinished, remains, LineKind.isTakenOut, inside]
  | text outside => simp [unfinished, remains, LineKind.isTakenOut, outside, Piece.atoms]

/-- A held line when its line break comes. -/
theorem lineBreak_held (fence : Fence) (id : String) (line : List Char) :
    lineBreak { lineStart fence id with line, holding := true, atLineStart := false } =
      (completed line (fence.read line).2.inside (fence.read line).1,
        lineStart (fence.read line).2 id) := by
  rw [lineBreak, if_pos rfl]
  dsimp only [lineStart]

/-- A held line when the text ends. -/
theorem flushLine_held (fence : Fence) (id : String) {line : List Char} (begun : line ≠ []) :
    flushLine { lineStart fence id with line, holding := true, atLineStart := false } =
      (unfinished line (fence.read line).1,
        { lineStart (fence.read line).2 id with atLineStart := false }) := by
  rw [flushLine, if_neg (by simpa using begun), if_pos rfl]
  dsimp only [lineStart]

/-- The end of a line gives out what the line leaves. -/
theorem Between.lineBreak (h : Between fence id line filter passed)
    (spottable : fence.options.Spottable) (indented : Indented line) :
    filter.lineBreak.2 = lineStart (fence.read line).2 id ∧
      passed ++ filter.lineBreak.1.flatMap Piece.atoms =
        remains fence.inside (line ++ ['\n']) (fence.read line).1 := by
  cases h with
  | indent all =>
    have blank := (trim_eq_nil_iff line).mpr fun b hb => isBlank_of_isIndent (all b hb)
    rw [Fence.read_of_blank spottable blank]
    cases inside : fence.inside <;>
      simp [PartFilter.lineBreak, lineStart, inside, remains, LineKind.isTakenOut, Piece.atoms]
  | held all first may =>
    rw [lineBreak_held]
    exact ⟨rfl, atoms_completed (fence.reads_read _) (inside_of_blank may)⟩
  | prose all first outside other =>
    rcases Fence.read_of_plain spottable outside (indented.plain all first other) with h | h <;>
      simp [h, PartFilter.lineBreak, lineStart, outside, remains, LineKind.isTakenOut, Piece.atoms]

/-- The end of a text gives out what its last line leaves. -/
theorem Between.flushLine (h : Between fence id line filter passed)
    (spottable : fence.options.Spottable) (indented : Indented line) :
    { filter.flushLine.2 with atLineStart := true } = lineStart (fence.read line).2 id ∧
      passed ++ filter.flushLine.1.flatMap Piece.atoms =
        remains fence.inside line (fence.read line).1 := by
  cases h with
  | indent all =>
    have blank := (trim_eq_nil_iff line).mpr fun b hb => isBlank_of_isIndent (all b hb)
    rw [Fence.read_of_blank spottable blank]
    cases inside : fence.inside <;> cases line <;>
      simp [PartFilter.flushLine, lineStart, inside, remains, LineKind.isTakenOut, Piece.atoms]
  | @held indent rest c all first may =>
    rw [flushLine_held fence id (List.append_ne_nil_of_right_ne_nil _ (List.cons_ne_nil _ _))]
    exact ⟨rfl, atoms_unfinished (fence.reads_read (indent ++ c :: rest)) (inside_of_blank may)⟩
  | prose all first outside other =>
    rcases Fence.read_of_plain spottable outside (indented.plain all first other) with h | h <;>
      simp [h, PartFilter.flushLine, lineStart, outside, remains, LineKind.isTakenOut]

end PartFilter

end UiStream
