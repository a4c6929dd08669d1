import UiStream.Proofs.Stream.Automaton
import UiStream.Proofs.Stream.Filtered

/-!
# Fences with markers of one's own

A fence may have any markers.  A reader, which sees whole lines, finds a block between two markers
whatever they are.  A filter looks at the first character of a line before it knows the line, and
so it finds the block only if the opening marker begins with a brace or a backtick
(`PartFilter.custom_markers`): any other opening marker goes out as prose, and its fence is never
opened (`PartFilter.unseen_marker`).

What decides is `Between.begins`, the state of the filter behind the first character of a line.
Inside the fence every character is held, and the filter reads a line as the fence does, whatever it
begins with (`Between.lineBreak_inside`), but for one that is nothing but indentation: this closes
no fence, not even one whose closing marker is empty.
-/

namespace UiStream

/-! ## The automaton inside the fence -/

namespace Place

variable {options : FenceOptions}

/-- A line that does not close the fence gives its patch. -/
theorem event?_inside {line : List Char} (unmarked : ¬ inside.IsMarker options line) :
    inside.event? options line = (patchOfLine? line).map .patch := by
  unfold event?
  split
  · next silent =>
    rw [patchOfLine?_of_blank (silent.resolve_left unmarked)]
    rfl
  · rfl

/-- Lines that do not close the fence give their patches. -/
theorem run_inside {lines : List (List Char)}
    (stays : ∀ line ∈ lines, ¬ inside.IsMarker options line) (rest : List (List Char)) :
    inside.events options (lines ++ rest) =
        (lines.filterMap patchOfLine?).map .patch ++ inside.events options rest ∧
      inside.after options (lines ++ rest) = inside.after options rest := by
  induction lines with
  | nil => exact ⟨rfl, rfl⟩
  | cons line lines ih =>
    obtain ⟨unmarked, stay⟩ := List.forall_mem_cons.mp stays
    obtain ⟨events, after⟩ := ih stay
    rw [List.cons_append, events_cons, after_cons, next, if_neg unmarked, event?_inside unmarked,
      events, after, List.filterMap_cons]
    cases patchOfLine? line <;> exact ⟨rfl, rfl⟩

end Place

/-! ## Parts that are not empty -/

/-- A part that continues a text. -/
def StreamPart.IsDelta : StreamPart → Prop
  | .textDelta _ _ => True
  | .textStart _ | .textEnd _ | .patch _ | .other _ => False

instance (part : StreamPart) : Decidable part.IsDelta :=
  match part with
  | .textDelta _ _ => .isTrue trivial
  | .textStart _ | .textEnd _ | .patch _ | .other _ => .isFalse id

/-- No part that a filter gives out is empty. -/
theorem PartFilter.atoms_ne_nil_of_mem_emit {filter : PartFilter} {pieces : List Piece}
    {part : StreamPart} (h : part ∈ filter.emit pieces) : part.atoms ≠ [] := by
  obtain ⟨piece, among, rfl⟩ := List.mem_map.mp h
  rw [Piece.atoms_toPart]
  exact Piece.atoms_ne_nil_of_mem_merge among

/-- Parts that are not empty and consist of patches are these patches. -/
theorem StreamPart.eq_map_patch {parts : List StreamPart} (full : ∀ part ∈ parts, part.atoms ≠ [])
    {patches : List Patch} (h : parts.flatMap atoms = patches.map .patch) :
    parts = patches.map .patch := by
  induction parts generalizing patches with
  | nil => rw [List.map_eq_nil_iff.mp h.symm]; rfl
  | cons part rest ih =>
    obtain ⟨solid, others⟩ := List.forall_mem_cons.mp full
    rw [List.flatMap_cons] at h
    cases part with
    | textStart | textEnd | other => exact absurd rfl solid
    | patch p =>
      cases patches with
      | nil => cases h
      | cons q patches =>
        obtain ⟨same, later⟩ := List.cons.inj h
        cases same
        rw [ih others later]
        rfl
    | textDelta id delta =>
      rw [atoms] at h solid
      cases text : delta.toList with
      | nil => rw [text] at solid; exact absurd rfl solid
      | cons c cs => rw [text] at h; cases patches <;> cases h

/-! ## Deltas as one text -/

namespace PartFilter

/-- Deltas, of whatever texts, are taken as the one text that they make up. -/
theorem transformAll_isDelta (filter : PartFilter) {parts : List StreamPart}
    (deltas : ∀ part ∈ parts, part.IsDelta) :
    let out := filter.transformAll parts
    let fed := filter.feed (parts.flatMap StreamPart.prose)
    (∃ id, out.2 = fed.2.named id) ∧
      out.1.flatMap StreamPart.atoms = fed.1.flatMap Piece.atoms ∧
      ∀ part ∈ out.1, part.atoms ≠ [] := by
  induction parts generalizing filter with
  | nil => exact ⟨⟨filter.textId, rfl⟩, rfl, fun _ h => nomatch h⟩
  | cons part rest ih =>
    obtain ⟨isDelta, others⟩ := List.forall_mem_cons.mp deltas
    cases part with
    | textStart | textEnd | patch | other => exact isDelta.elim
    | textDelta id delta =>
      have now := feed_named filter id delta.toList
      have through : filter.transformAll (.textDelta id delta :: rest) =
          let fed := (filter.named id).feed delta.toList
          ((filter.named id).emit fed.1 ++ (fed.2.transformAll rest).1,
            (fed.2.transformAll rest).2) := rfl
      obtain ⟨⟨last, state⟩, atoms, full⟩ := ih ((filter.feed delta.toList).2.named id) others
      rw [feed_named] at state atoms
      rw [through, now, List.flatMap_cons, StreamPart.prose, feed_append]
      dsimp only at state atoms ⊢
      rw [List.flatMap_append, List.flatMap_append, atoms_emit, atoms]
      refine ⟨⟨last, state⟩, rfl, fun part h => ?_⟩
      rcases List.mem_append.mp h with h | h
      · exact atoms_ne_nil_of_mem_emit h
      · exact full part h

/-- A text leads a filter to another state, and so much is given out on the way. -/
structure Leads (filter : PartFilter) (text : List Char) (given : List Atom) (next : PartFilter) :
    Prop where
  state : (filter.feed text).2 = next
  atoms : (filter.feed text).1.flatMap Piece.atoms = given

theorem Leads.append {first second third : PartFilter} {a b : List Char} {x y : List Atom}
    (now : Leads first a x second) (later : Leads second b y third) :
    Leads first (a ++ b) (x ++ y) third := by
  obtain ⟨rfl, rfl⟩ := now
  obtain ⟨rfl, rfl⟩ := later
  exact ⟨by rw [feed_append], by rw [feed_append, List.flatMap_append]⟩

/-! ## A line by its first character -/

variable {options : FenceOptions} {fence : Fence} {id : String} {line : List Char}
  {filter : PartFilter} {passed : List Atom}

/-- The filter behind a line that has no break yet. -/
theorem between_feed (fence : Fence) (id : String) (breakless : '\n' ∉ line) :
    Between fence id line ((lineStart fence id).feed line).2
      (((lineStart fence id).feed line).1.flatMap Piece.atoms) := by
  have start : Between fence id [] (lineStart fence id) [] := .indent fun _ h => nomatch h
  exact start.feed breakless

/-- A line with its break. -/
theorem leads_break (start : PartFilter) (line : List Char) :
    Leads start (line ++ ['\n'])
      ((start.feed line).1.flatMap Piece.atoms ++
        (start.feed line).2.lineBreak.1.flatMap Piece.atoms)
      (start.feed line).2.lineBreak.2 := by
  have now : Leads start line _ _ := ⟨rfl, rfl⟩
  exact now.append ⟨rfl, by simp [feed, step]⟩

theorem dropWhile_isIndent {indent rest : List Char} {c : Char}
    (all : ∀ b ∈ indent, isIndent b) (first : isIndent c = false) :
    (indent ++ c :: rest).dropWhile isIndent = c :: rest := by
  rw [List.dropWhile_append_of_pos all, List.dropWhile_cons_of_neg (ne_true_of_eq_false first)]

/-- Outside, the first character behind the indentation decides whether a line is held or has gone
on as prose. -/
theorem Between.begins (h : Between fence id line filter passed) (outside : fence.inside = false)
    {c : Char} (first : (line.dropWhile isIndent).head? = some c) :
    (MayBegin c → passed = [] ∧
        filter = { lineStart fence id with line, holding := true, atLineStart := false }) ∧
      (¬ MayBegin c → passed = line.map .character ∧
        filter = { lineStart fence id with atLineStart := false }) := by
  cases h with
  | indent all =>
    rw [List.dropWhile_eq_nil_iff.mpr all] at first
    cases first
  | held all full may =>
    rw [dropWhile_isIndent all full] at first
    cases first
    have may := may.resolve_left (ne_true_of_eq_false outside)
    exact ⟨fun _ => ⟨rfl, rfl⟩, fun other => absurd may other⟩
  | prose all full _ other =>
    rw [dropWhile_isIndent all full] at first
    cases first
    exact ⟨fun may => absurd may other, fun _ => ⟨rfl, rfl⟩⟩

/-- The filter behind indentation. -/
theorem Between.indented (h : Between fence id line filter passed) (all : ∀ b ∈ line, isIndent b) :
    passed = [] ∧ filter = { lineStart fence id with line } := by
  cases h with
  | indent => exact ⟨rfl, rfl⟩
  | held _ first | prose _ first =>
    rw [all _ (List.mem_append_right _ (.head _))] at first
    cases first

/-- A line with the opening marker, if only spaces and tabs are in front of it, begins with the
first character of the marker. -/
theorem head?_of_isMarker {c : Char} (begins : options.opening.toList.head? = some c)
    (solid : isBlank c = false) (marker : Place.outside.IsMarker options line)
    (indented : ∀ b ∈ line.takeWhile isBlank, isIndent b) :
    (line.dropWhile isIndent).head? = some c := by
  have head : (trim line).head? = some c := by
    obtain ⟨rest, same⟩ := marker
    rw [← same, List.head?_append, begins]
    rfl
  have unindented : isIndent c = false := by
    refine Bool.eq_false_iff.mpr fun indent => ?_
    rw [isBlank_of_isIndent indent] at solid
    cases solid
  rw [head?_trim] at head
  obtain ⟨rest, found⟩ := List.head?_eq_some_iff.mp head
  have split : line.takeWhile isBlank ++ c :: rest = line := by
    rw [← found]
    exact List.takeWhile_append_dropWhile
  rw [← split, dropWhile_isIndent indented unindented]
  rfl

/-! ## Lines inside the fence -/

/-- Inside, a line gives out what the fence reads in it, whatever it begins with.  Only a closing
marker that is nothing but indentation is not seen. -/
theorem Between.lineBreak_inside
    (h : Between (Place.inside.fence options) id line filter passed)
    (seen : Place.inside.IsMarker options line → ∃ b ∈ line, isIndent b = false) :
    filter.lineBreak.2 = lineStart ((Place.inside.next options line).fence options) id ∧
      passed ++ filter.lineBreak.1.flatMap Piece.atoms =
        (((Place.inside.event? options line).bind ChatEvent.patch?).map Atom.patch).toList := by
  obtain ⟨event, next⟩ := Place.read_fence options .inside line
  cases h with
  | indent all =>
    have unmarked : ¬ Place.inside.IsMarker options line := by
      intro marker
      obtain ⟨b, among, other⟩ := seen marker
      rw [all b among] at other
      cases other
    have blank := (trim_eq_nil_iff line).mpr fun b hb => isBlank_of_isIndent (all b hb)
    rw [Place.next, if_neg unmarked, Place.event?, if_pos (.inr blank)]
    exact ⟨rfl, rfl⟩
  | @held indent rest c all first may =>
    have given := atoms_completed ((Place.inside.fence options).reads_read (indent ++ c :: rest))
      fun _ => rfl
    rw [lineBreak_held]
    refine ⟨congrArg (lineStart · id) next, given.trans ?_⟩
    rw [← event]
    cases ((Place.inside.fence options).read (indent ++ c :: rest)).1 <;> rfl
  | prose _ _ outside => cases outside

/-- A line inside gives its patch, and closes the fence if it is the marker. -/
theorem leads_inside (id : String) (breakless : '\n' ∉ line)
    (seen : Place.inside.IsMarker options line → ∃ b ∈ line, isIndent b = false) :
    Leads (lineStart (Place.inside.fence options) id) (line ++ ['\n'])
      (((Place.inside.event? options line).bind ChatEvent.patch?).map Atom.patch).toList
      (lineStart ((Place.inside.next options line).fence options) id) := by
  obtain ⟨state, atoms⟩ :=
    (between_feed (Place.inside.fence options) id breakless).lineBreak_inside seen
  rw [← state, ← atoms]
  exact leads_break _ line

/-- Lines inside, none of which closes the fence, give their patches. -/
theorem leads_inner (id : String) {lines : List (List Char)}
    (breakless : ∀ line ∈ lines, '\n' ∉ line)
    (stays : ∀ line ∈ lines, ¬ Place.inside.IsMarker options line) :
    Leads (lineStart (Place.inside.fence options) id) (lines.flatMap (· ++ ['\n']))
      ((lines.filterMap patchOfLine?).map .patch) (lineStart (Place.inside.fence options) id) := by
  induction lines with
  | nil => exact ⟨rfl, rfl⟩
  | cons line rest ih =>
    obtain ⟨first, others⟩ := List.forall_mem_cons.mp breakless
    obtain ⟨unmarked, stay⟩ := List.forall_mem_cons.mp stays
    have now := leads_inside id first (absurd · unmarked)
    rw [Place.next, if_neg unmarked, Place.event?_inside unmarked] at now
    have both := now.append (ih others stay)
    rw [List.flatMap_cons, List.filterMap_cons]
    cases found : patchOfLine? line <;> rw [found] at both <;> exact both

/-- The place where a filter takes itself to be behind a closing marker: inside still, if the
marker is nothing but indentation. -/
def behindClosing (line : List Char) : Place :=
  if line.all isIndent then .inside else .outside

theorem behindClosing_of_marker (full : options.closing ≠ "")
    (marker : Place.inside.IsMarker options line) : behindClosing line = .outside := by
  refine if_neg fun all => full ?_
  have blank := (trim_eq_nil_iff line).mpr fun b hb =>
    isBlank_of_isIndent (List.all_eq_true.mp all b hb)
  exact String.toList_eq_nil_iff.mp (marker.symm.trans blank)

/-- The closing marker gives nothing. -/
theorem leads_closing (id : String) (breakless : '\n' ∉ line)
    (marker : Place.inside.IsMarker options line) :
    Leads (lineStart (Place.inside.fence options) id) (line ++ ['\n']) []
      (lineStart ((behindClosing line).fence options) id) := by
  unfold behindClosing
  cases all : line.all isIndent with
  | true =>
    obtain ⟨passed, behind⟩ := (between_feed (Place.inside.fence options) id breakless).indented
      (List.all_eq_true.mp all)
    have ended := leads_break (lineStart (Place.inside.fence options) id) line
    rw [passed, behind] at ended
    exact ended
  | false =>
    have seen : ∃ b ∈ line, isIndent b = false := by simpa using List.all_eq_false.mp all
    have ended := leads_inside id breakless fun _ : Place.inside.IsMarker options line => seen
    rw [Place.next, if_pos marker, Place.event?, if_pos (.inl marker)] at ended
    exact ended

/-- The opening marker gives nothing and opens the fence, if the line is held. -/
theorem leads_opening (id : String) {c : Char} (begins : options.opening.toList.head? = some c)
    (solid : isBlank c = false) (breakless : '\n' ∉ line)
    (marker : Place.outside.IsMarker options line)
    (indented : ∀ b ∈ line.takeWhile isBlank, isIndent b) (may : MayBegin c) :
    Leads (lineStart (Place.outside.fence options) id) (line ++ ['\n']) []
      (lineStart (Place.inside.fence options) id) := by
  obtain ⟨passed, behind⟩ := ((between_feed (Place.outside.fence options) id breakless).begins rfl
    (head?_of_isMarker begins solid marker indented)).1 may
  have ended := leads_break (lineStart (Place.outside.fence options) id) line
  rw [passed, behind, lineBreak_held, Place.read_of_isMarker marker] at ended
  exact ended

/-- An opening marker that does not begin like one goes out as prose. -/
theorem leads_unseen (id : String) {c : Char} (begins : options.opening.toList.head? = some c)
    (solid : isBlank c = false) (breakless : '\n' ∉ line)
    (marker : Place.outside.IsMarker options line)
    (indented : ∀ b ∈ line.takeWhile isBlank, isIndent b) (other : ¬ MayBegin c) :
    Leads (lineStart (Place.outside.fence options) id) (line ++ ['\n'])
      ((line ++ ['\n']).map .character) (lineStart (Place.outside.fence options) id) := by
  obtain ⟨passed, behind⟩ := ((between_feed (Place.outside.fence options) id breakless).begins rfl
    (head?_of_isMarker begins solid marker indented)).2 other
  have ended := leads_break (lineStart (Place.outside.fence options) id) line
  rw [passed, behind] at ended
  rw [List.map_append]
  exact ended

end PartFilter

/-! ## Blocks -/

/-- A block in a stream with prose: the opening marker, the lines inside, and the closing
marker. -/
structure Block (options : FenceOptions) where
  opening : List Char
  inner : List (List Char)
  closing : List Char
  breakless : ∀ line ∈ opening :: (inner ++ [closing]), '\n' ∉ line
  opens : Place.outside.IsMarker options opening
  indented : ∀ b ∈ opening.takeWhile isBlank, PartFilter.isIndent b
  stays : ∀ line ∈ inner, ¬ Place.inside.IsMarker options line
  closes : Place.inside.IsMarker options closing

namespace Block

variable {options : FenceOptions} (block : Block options)

/-- The lines of the block. -/
def lines : List (List Char) := block.opening :: (block.inner ++ [block.closing])

/-- The lines with their breaks. -/
def text : List Char := block.lines.flatMap (· ++ ['\n'])

/-- The patches between the markers. -/
def patches : List Patch := block.inner.filterMap patchOfLine?

/-- The automaton finds the patches, and is outside again. -/
theorem run_lines :
    Place.outside.events options block.lines = block.patches.map .patch ∧
      Place.outside.after options block.lines = .outside := by
  obtain ⟨events, after⟩ := Place.run_inside block.stays [block.closing]
  have opened : Place.outside.next options block.opening = .inside := if_pos block.opens
  have silent : Place.outside.event? options block.opening = none := if_pos (.inl block.opens)
  have closed : Place.inside.after options [block.closing] = .outside := if_pos block.closes
  have last : Place.inside.events options [block.closing] = [] := by
    rw [Place.events_cons, Place.event?, if_pos (.inl block.closes)]
    rfl
  rw [lines, Place.events_cons, Place.after_cons, opened, silent, events, after, closed, last]
  exact ⟨List.append_nil _, rfl⟩

end Block

namespace ChatReader

variable {options : FenceOptions}

/-- A reader makes the run of the automaton over lines that come with their breaks, in pieces. -/
theorem readText_fence (place : Place) {pieces lines : List (List Char)}
    (breakless : ∀ line ∈ lines, '\n' ∉ line)
    (text : pieces.flatten = lines.flatMap (· ++ ['\n'])) :
    ({ fence := place.fence options } : ChatReader).readText pieces =
      (place.events options lines, { fence := (place.after options lines).fence options }) := by
  rw [readText_eq _ rfl List.not_mem_nil, List.nil_append, text,
    LineBuffer.textLines_breaks breakless, Place.readLines_fence]

/-- A line with the opening marker opens the fence of a reader. -/
theorem readText_opening {pieces : List (List Char)} {line : List Char}
    (breakless : '\n' ∉ line) (marker : Place.outside.IsMarker options line)
    (text : pieces.flatten = line ++ ['\n']) :
    ({ fence := Place.outside.fence options } : ChatReader).readText pieces =
      ([], { fence := Place.inside.fence options }) := by
  have alone : ∀ l ∈ [line], '\n' ∉ l := List.forall_mem_singleton.mpr breakless
  have next : Place.outside.next options line = .inside := if_pos marker
  have silent : Place.outside.event? options line = none := if_pos (.inl marker)
  rw [readText_fence .outside alone (by simpa using text), Place.events_cons, Place.after_cons,
    next, silent]
  rfl

/-- A reader finds the patches of a block. -/
theorem readText_block {pieces : List (List Char)} (block : Block options)
    (text : pieces.flatten = block.text) :
    ({ fence := Place.outside.fence options } : ChatReader).readText pieces =
      (block.patches.map .patch, { fence := Place.outside.fence options }) := by
  obtain ⟨events, after⟩ := block.run_lines
  have read : _ = (Place.outside.events options block.lines,
    ({ fence := (Place.outside.after options block.lines).fence options } : ChatReader)) :=
    readText_fence .outside block.breakless text
  rw [read, events, after]

end ChatReader

namespace PartFilter

variable {options : FenceOptions}

/-- A block whose opening marker is held gives its patches. -/
theorem leads_block (id : String) {c : Char} (begins : options.opening.toList.head? = some c)
    (solid : isBlank c = false) (may : MayBegin c) (block : Block options) :
    Leads (lineStart (Place.outside.fence options) id) block.text (block.patches.map .patch)
      (lineStart ((behindClosing block.closing).fence options) id) := by
  obtain ⟨first, others⟩ := List.forall_mem_cons.mp block.breakless
  obtain ⟨inner, last⟩ := List.forall_mem_append.mp others
  have opening := leads_opening id begins solid first block.opens block.indented may
  have inside := leads_inner id inner block.stays
  have closing := leads_closing id (last _ (.head _)) block.closes
  have whole := opening.append (inside.append closing)
  have text : block.text = block.opening ++ ['\n'] ++
      (block.inner.flatMap (· ++ ['\n']) ++ (block.closing ++ ['\n'])) := by
    simp [Block.text, Block.lines]
  rw [List.nil_append, List.append_nil] at whole
  rw [text]
  exact whole

/-- Deltas that make up a text lead where the text leads. -/
theorem Leads.transformAll {parts : List StreamPart} (deltas : ∀ part ∈ parts, part.IsDelta)
    {filter next : PartFilter} {given : List Atom}
    (leads : Leads filter (parts.flatMap StreamPart.prose) given next) :
    (∃ id, (filter.transformAll parts).2 = next.named id) ∧
      (filter.transformAll parts).1.flatMap StreamPart.atoms = given ∧
      ∀ patches : List Patch, given = patches.map .patch →
        (filter.transformAll parts).1 = patches.map .patch := by
  obtain ⟨rfl, rfl⟩ := leads
  obtain ⟨state, atoms, full⟩ := transformAll_isDelta filter deltas
  exact ⟨state, atoms, fun _ h => StreamPart.eq_map_patch full (atoms.trans h)⟩

/-- **Which markers are seen.**  If the opening marker does not begin with a blank, then a reader
enters the fence at any line with this marker, and reports the patches of any block.  A filter that
takes the same deltas does so too, and gives out nothing else, if the marker begins with a brace
or a backtick; otherwise the line goes out as prose, and the fence stays closed.  Behind a block the
fence of the filter is closed, unless the closing marker is empty. -/
theorem custom_markers (options : FenceOptions) {c : Char}
    (begins : options.opening.toList.head? = some c) (solid : isBlank c = false) (before : String)
    {parts : List StreamPart} (deltas : ∀ part ∈ parts, part.IsDelta) :
    let outside := Place.outside.fence options
    let inside := Place.inside.fence options
    let text := parts.flatMap StreamPart.prose
    let read := ({ fence := outside } : ChatReader).readText (parts.map StreamPart.prose)
    let out := (lineStart outside before).transformAll parts
    (∀ line, '\n' ∉ line → Place.outside.IsMarker options line →
      (∀ b ∈ line.takeWhile isBlank, isIndent b) → text = line ++ ['\n'] →
        read = ([], { fence := inside }) ∧
        (MayBegin c → ∃ id, out = ([], lineStart inside id)) ∧
        (¬ MayBegin c → out.1.flatMap StreamPart.atoms = text.map .character ∧
          ∃ id, out.2 = lineStart outside id)) ∧
    ∀ block : Block options, text = block.text →
      read = (block.patches.map .patch, { fence := outside }) ∧
      (MayBegin c → ∃ id,
        out = (block.patches.map .patch,
          lineStart ((behindClosing block.closing).fence options) id)) ∧
      (options.closing ≠ "" → behindClosing block.closing = .outside) := by
  intro outside inside text read out
  have flat : (parts.map StreamPart.prose).flatten = text := List.flatMap_def.symm
  constructor
  · intro line breakless marker indented same
    refine ⟨ChatReader.readText_opening breakless marker (flat.trans same), fun may => ?_,
      fun other => ?_⟩
    · have leads := leads_opening before begins solid breakless marker indented may
      obtain ⟨⟨id, state⟩, -, given⟩ := Leads.transformAll deltas (same ▸ leads)
      exact ⟨id, Prod.ext (given [] rfl) state⟩
    · have leads := leads_unseen before begins solid breakless marker indented other
      obtain ⟨state, atoms, -⟩ := Leads.transformAll deltas (same ▸ leads)
      exact ⟨atoms.trans (by rw [same]), state⟩
  · intro block same
    refine ⟨ChatReader.readText_block block (flat.trans same), fun may => ?_, fun full => ?_⟩
    · have leads := leads_block before begins solid may block
      obtain ⟨⟨id, state⟩, -, given⟩ := Leads.transformAll deltas (same ▸ leads)
      exact ⟨id, Prod.ext (given _ rfl) state⟩
    · exact behindClosing_of_marker full block.closes

/-- A block with markers that begin with backticks, in two deltas, and a line with another opening
marker. -/
theorem custom_markers_quoted :
    let options : FenceOptions := { opening := "`patches", closing := "``" }
    let patch := "\x7b\"op\":\"remove\",\"path\":\"/a\"\x7d"
    let parts : List StreamPart :=
      [.textDelta "t" "\t`patc", .textDelta "u" ("hes 1\n" ++ patch ++ "\n``\n")]
    let other : FenceOptions := { opening := "<patches>" }
    let line : List StreamPart := [.textDelta "t" " <patches>\n"]
    (∃ id, (lineStart { options } "").transformAll parts =
      ([.patch (.remove "/a")], lineStart { options } id)) ∧
    ((lineStart { options := other } "").transformAll line).1.flatMap StreamPart.atoms =
      " <patches>\n".toList.map .character := by
  intro options patch parts other line
  let block : Block options :=
    { opening := "\t`patches 1".toList
      inner := [patch.toList]
      closing := "``".toList
      breakless := by decide +kernel
      opens := by decide +kernel
      indented := List.all_eq_true.mp (by decide +kernel)
      stays := by decide +kernel
      closes := by decide +kernel }
  have backtick : options.opening.toList.head? = some '`' := by decide +kernel
  have bracket : other.opening.toList.head? = some '<' := by decide +kernel
  have deltas : ∀ part ∈ parts, part.IsDelta := by decide +kernel
  have alone : ∀ part ∈ line, part.IsDelta := by decide +kernel
  have blocks := (custom_markers options backtick (by decide +kernel) "" deltas).2
  have lines := (custom_markers other bracket (by decide +kernel) "" alone).1
  obtain ⟨-, found, -⟩ := blocks block (by decide +kernel)
  obtain ⟨-, -, passes⟩ := lines " <patches>".toList (by decide +kernel) (by decide +kernel)
    (List.all_eq_true.mp (by decide +kernel)) (by decide +kernel)
  have patches : block.patches = [.remove "/a"] := by decide +kernel
  have behind : behindClosing block.closing = .outside := by decide +kernel
  rw [patches, behind] at found
  exact ⟨found (.inr rfl), (passes (by simp [MayBegin])).1⟩

/-- A marker that does not begin with a brace or a backtick opens the fence of a reader, and passes
a filter as prose. -/
theorem unseen_marker :
    let options : FenceOptions := { opening := "<patches>", closing := "</patches>" }
    let part : StreamPart := .textDelta "t" "<patches>\n"
    ({ fence := { options } } : ChatReader).readText [part.prose] =
        ([], { fence := { options, inside := true } }) ∧
      ({ fence := { options } } : PartFilter).transform part =
        ([part], { fence := { options }, textId := "t" }) := by
  decide +kernel

end PartFilter

end UiStream
