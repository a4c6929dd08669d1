import UiStream.Proofs.Stream.TextParts

/-!
# The filter of text parts beside a reader

A `PartFilter` that takes texts as parts and a `ChatReader` that takes the same texts agree on the
patches, and the prose that the filter lets through is the text without the lines that are taken
out: `Filtered` puts the two side by side, and `PartFilter.filtered` says that it holds of every
sequence of texts.

A text is fed line by line (`PartFilter.feed_text`); where it is cut into deltas does not show,
neither to the filter (`transformAll_deltas`) nor to the reader (`ChatReader.readText_eq`).
-/

namespace UiStream

open LineBuffer (cut textLines)

/-! ## Texts as parts -/

/-- A text in a stream of parts. -/
structure TextPart where
  id : String
  deltas : List String
deriving DecidableEq, Repr

namespace TextPart

/-- The text. -/
def text (part : TextPart) : List Char := part.deltas.flatMap String.toList

/-- The parts a text arrives in. -/
def stream (part : TextPart) : List StreamPart :=
  .textStart part.id :: (part.deltas.map (.textDelta part.id) ++ [.textEnd part.id])

end TextPart

namespace StreamPart

/-- A delta of the text with the identifier, or a patch. -/
def Within (id : String) : StreamPart → Prop
  | .textDelta of _ => of = id
  | .patch _ => True
  | .textStart _ | .textEnd _ | .other _ => False

/-- The prose of a part. -/
def prose : StreamPart → List Char
  | .textDelta _ delta => delta.toList
  | _ => []

/-- The patch of a part. -/
def patch? : StreamPart → Option Patch
  | .patch p => some p
  | _ => none

end StreamPart

/-- The patches of parts are those among their atoms. -/
theorem StreamPart.patches_atoms (parts : List StreamPart) :
    (parts.flatMap atoms).filterMap Atom.patch? = parts.filterMap patch? := by
  induction parts with
  | nil => rfl
  | cons part rest ih =>
    rw [List.flatMap_cons, List.filterMap_append, ih, List.filterMap_cons]
    cases part with
    | textDelta id delta => exact congrArg (· ++ _) (Atom.filterMap_patch?_map delta.toList)
    | _ => rfl

/-- The prose of parts are the characters among their atoms. -/
theorem StreamPart.characters_atoms (parts : List StreamPart) :
    (parts.flatMap atoms).filterMap Atom.character? = parts.flatMap prose := by
  induction parts with
  | nil => rfl
  | cons part rest ih =>
    rw [List.flatMap_cons, List.filterMap_append, ih, List.flatMap_cons]
    cases part with
    | textDelta id delta => exact congrArg (· ++ _) (Atom.filterMap_character?_map delta.toList)
    | _ => rfl

/-- Takes parts in order. -/
def PartFilter.transformAll : PartFilter → List StreamPart → List StreamPart × PartFilter
  | filter, [] => ([], filter)
  | filter, part :: rest =>
    let (now, filter) := filter.transform part
    let (later, filter) := transformAll filter rest
    (now ++ later, filter)

/-! ## A reader of texts -/

namespace ChatReader

/-- Takes a text in pieces and then its last line. -/
def readText (reader : ChatReader) : List (List Char) → List ChatEvent × ChatReader
  | [] => reader.flush
  | piece :: rest =>
    let (events, reader) := reader.push piece
    let (later, reader) := readText reader rest
    (events ++ later, reader)

/-- A reader reads the lines of a text, however it is cut, and is ready for the next one. -/
theorem readText_eq (reader : ChatReader) (held : reader.buffer.held = [])
    (pending : '\n' ∉ reader.buffer.pending) (pieces : List (List Char)) :
    reader.readText pieces =
      let read := readLines reader.fence (textLines (reader.buffer.pending ++ pieces.flatten))
      (read.1, { fence := read.2 }) := by
  induction pieces generalizing reader with
  | nil =>
    have rest : reader.buffer.restText = reader.buffer.pending := by
      rw [LineBuffer.restText, held]
      exact List.append_nil _
    have lines : reader.buffer.takeRest.1.toList = textLines reader.buffer.pending := by
      rw [LineBuffer.takeRest, rest, LineBuffer.textLines_eq_cut,
        LineBuffer.cut_of_not_mem pending]
      cases reader.buffer.pending <;> rfl
    rw [List.flatten_nil, List.append_nil, ← lines]
    rfl
  | cons piece rest ih =>
    have lines : textLines (reader.buffer.pending ++ (piece :: rest).flatten) =
        (reader.buffer.push piece).1 ++
          textLines ((reader.buffer.push piece).2.pending ++ rest.flatten) := by
      rw [List.flatten_cons, ← List.append_assoc]
      exact LineBuffer.textLines_append _ _
    have later := ih (reader.push piece).2 held (LineBuffer.not_mem_cut_snd _)
    rw [readText]
    dsimp only
    rw [later, lines, readLines_append]
    rfl

end ChatReader

namespace PartFilter

/-! ## A text as a whole -/

variable {fence : Fence} (id : String)

/-- The lines of a text, and what is behind the last break, are sifted one by one. -/
theorem feed_lines (spottable : fence.options.Spottable) {lines : List (List Char)}
    {rest : List Char} (breakless : ∀ line ∈ rest :: lines, '\n' ∉ line)
    (indented : ∀ line ∈ rest :: lines, Indented line) :
    let fed := (lineStart fence id).feed (lines.flatMap (· ++ ['\n']) ++ rest)
    let behind := (ChatReader.readLines fence lines).2
    { fed.2.flushLine.2 with atLineStart := true } = lineStart (behind.read rest).2 id ∧
      (fed.1 ++ fed.2.flushLine.1).flatMap Piece.atoms =
        sift fence (lines.map (· ++ ['\n'])) ++
          remains behind.inside rest (behind.read rest).1 := by
  have start (fence : Fence) : Between fence id [] (lineStart fence id) [] :=
    .indent fun _ h => nomatch h
  induction lines generalizing fence with
  | nil =>
    have whole := (start fence).feed (breakless rest (.head _))
    have ended := whole.flushLine spottable (indented rest (.head _))
    simpa [sift, ChatReader.readLines] using ended
  | cons line lines ih =>
    have last : line ∈ rest :: line :: lines := .tail _ (.head _)
    have others : ∀ l ∈ rest :: lines, l ∈ rest :: line :: lines := by simp; tauto
    have whole := (start fence).feed (breakless line last)
    have ended := whole.lineBreak spottable (indented line last)
    have options := (fence.reads_read line).options
    have still : (fence.read line).2.options.Spottable := options ▸ spottable
    have later := ih still
      (fun l hl => breakless l (others l hl)) (fun l hl => indented l (others l hl))
    have through : (lineStart fence id).feed
        ((line :: lines).flatMap (· ++ ['\n']) ++ rest) =
          let mid := (lineStart fence id).feed line
          let tail := mid.2.lineBreak.2.feed (lines.flatMap (· ++ ['\n']) ++ rest)
          (mid.1 ++ mid.2.lineBreak.1 ++ tail.1, tail.2) := by
      rw [List.flatMap_cons, List.append_assoc, List.append_assoc, feed_append,
        List.singleton_append, feed, step, if_pos rfl]
      simp only [List.append_assoc]
    rw [List.nil_append] at ended
    rw [through]
    dsimp only
    rw [ended.1]
    refine ⟨later.1, ?_⟩
    rw [List.append_assoc, List.flatMap_append, later.2, List.map_cons, sift, Fence.read_break,
      ← ended.2]
    simp [ChatReader.readLines]

/-- A text is sifted line by line. -/
theorem feed_text (spottable : fence.options.Spottable) {text : List Char}
    (indented : ∀ line ∈ splitOn '\n' text, Indented line) :
    let fed := (lineStart fence id).feed text
    { fed.2.flushLine.2 with atLineStart := true } =
        lineStart (ChatReader.readLines fence (textLines text)).2 id ∧
      (fed.1 ++ fed.2.flushLine.1).flatMap Piece.atoms = sift fence (rawLines text) := by
  have breakless : ∀ line ∈ (cut text).2 :: (cut text).1, '\n' ∉ line := by
    refine List.forall_mem_cons.mpr ⟨LineBuffer.not_mem_cut_snd text, fun line h => ?_⟩
    exact LineBuffer.not_mem_cut_fst h
  have among : ∀ line ∈ (cut text).2 :: (cut text).1, Indented line := by
    intro line h
    refine indented line ?_
    rw [LineBuffer.splitOn_eq_cut]
    simpa [or_comm] using h
  have fed := feed_lines id spottable breakless among
  rw [LineBuffer.flatMap_cut] at fed
  rw [LineBuffer.textLines_eq_cut, rawLines, ChatReader.readLines_append, sift_append]
  -- An empty rest is no line, and read as one it would be blank and leave nothing.
  generalize (cut text).2 = rest at fed
  generalize ended : (ChatReader.readLines fence (cut text).1).2 = behind at fed
  cases rest with
  | cons => simpa [sift, ChatReader.readLines] using fed
  | nil =>
    have options : behind.options = fence.options := ended ▸ fence.options_readLines _
    have blank : behind.read [] = (.blank, behind) :=
      Fence.read_of_blank (options ▸ spottable) rfl
    dsimp only at fed
    rw [blank] at fed
    simpa [sift, ChatReader.readLines, remains] using fed

/-! ## Parts -/

theorem transformAll_append (filter : PartFilter) (a b : List StreamPart) :
    filter.transformAll (a ++ b) =
      ((filter.transformAll a).1 ++ ((filter.transformAll a).2.transformAll b).1,
        ((filter.transformAll a).2.transformAll b).2) := by
  induction a generalizing filter with
  | nil => rfl
  | cons part a ih => simp only [List.cons_append, transformAll, ih, List.append_assoc]

/-- The filter in another text. -/
def named (filter : PartFilter) (id : String) : PartFilter := { filter with textId := id }

/-- The text has no part in what becomes of a character. -/
theorem step_named (filter : PartFilter) (id : String) (c : Char) :
    (filter.named id).step c = ((filter.step c).1, (filter.step c).2.named id) := by
  unfold named step lineBreak character
  dsimp only
  split_ifs <;> rfl

theorem feed_named (filter : PartFilter) (id : String) (text : List Char) :
    (filter.named id).feed text = ((filter.feed text).1, (filter.feed text).2.named id) := by
  induction text generalizing filter with
  | nil => rfl
  | cons c text ih => simp only [feed, step_named, ih]

theorem textId_feed (filter : PartFilter) (text : List Char) :
    (filter.feed text).2.textId = filter.textId :=
  congrArg (·.2.textId) (feed_named filter filter.textId text)

theorem within_emit (filter : PartFilter) (pieces : List Piece) :
    ∀ part ∈ filter.emit pieces, part.Within filter.textId := by
  intro part h
  obtain ⟨piece, _, rfl⟩ := List.mem_map.mp h
  cases piece with
  | prose text => exact rfl
  | patch p => exact trivial

/-- Where a text is cut into deltas does not show. -/
theorem transformAll_deltas (filter : PartFilter) (deltas : List String) :
    let out := filter.transformAll (deltas.map (.textDelta filter.textId))
    let fed := filter.feed (deltas.flatMap String.toList)
    out.2 = fed.2 ∧ out.1.flatMap StreamPart.atoms = fed.1.flatMap Piece.atoms ∧
      ∀ part ∈ out.1, part.Within filter.textId := by
  induction deltas generalizing filter with
  | nil => exact ⟨rfl, rfl, fun _ h => nomatch h⟩
  | cons delta rest ih =>
    have same := textId_feed filter delta.toList
    have later := ih (filter.feed delta.toList).2
    rw [same] at later
    have through : filter.transformAll ((delta :: rest).map (.textDelta filter.textId)) =
        let now := filter.feed delta.toList
        let later := now.2.transformAll (rest.map (.textDelta filter.textId))
        (filter.emit now.1 ++ later.1, later.2) := rfl
    rw [through, List.flatMap_cons, feed_append]
    dsimp only
    rw [List.flatMap_append, List.flatMap_append, atoms_emit, later.1, later.2.1]
    refine ⟨rfl, rfl, fun part h => ?_⟩
    rcases List.mem_append.mp h with h | h
    · exact within_emit _ _ part h
    · exact later.2.2 part h

/-- One text: what stands between its beginning and its end. -/
theorem transformAll_part (spottable : fence.options.Spottable) (part : TextPart)
    (indented : ∀ line ∈ splitOn '\n' part.text, Indented line) :
    ∃ body, (lineStart fence id).transformAll part.stream =
        (.textStart part.id :: (body ++ [.textEnd part.id]),
          lineStart (ChatReader.readLines fence (textLines part.text)).2 part.id) ∧
      (∀ p ∈ body, p.Within part.id) ∧
      body.flatMap StreamPart.atoms = sift fence (rawLines part.text) := by
  have through : (lineStart fence id).transformAll part.stream =
      let fed := (lineStart fence part.id).transformAll (part.deltas.map (.textDelta part.id))
      (.textStart part.id :: (fed.1 ++ (fed.2.emit fed.2.flushLine.1 ++ [.textEnd part.id])),
        { fed.2.flushLine.2 with atLineStart := true }) := by
    have deltas := transformAll_append (lineStart fence part.id)
      (part.deltas.map (.textDelta part.id)) [.textEnd part.id]
    change (_ :: ((lineStart fence part.id).transformAll _).1,
      ((lineStart fence part.id).transformAll _).2) = _
    rw [deltas]
    simp [transformAll, transform, flush]
  obtain ⟨state, atoms, within⟩ := transformAll_deltas (lineStart fence part.id) part.deltas
  obtain ⟨ended, left⟩ := feed_text part.id spottable indented
  have last := within_emit ((lineStart fence part.id).feed part.text).2
    ((lineStart fence part.id).feed part.text).2.flushLine.1
  rw [textId_feed] at last
  change ((lineStart fence part.id).transformAll (part.deltas.map (.textDelta part.id))).2 =
    ((lineStart fence part.id).feed part.text).2 at state
  rw [through]
  dsimp only
  rw [state, ended, ← List.append_assoc]
  refine ⟨_, rfl, fun p h => ?_, ?_⟩
  · rcases List.mem_append.mp h with h | h
    · exact within p h
    · exact last p h
  · rw [List.flatMap_append, atoms_emit, ← left, List.flatMap_append]
    exact congrArg (· ++ _) atoms

end PartFilter

/-- Parts that come out of texts, beside a reader of the same texts: between the beginning and the
end of each text stand its patches, which are those of the reader, and its prose, which is the text
without the lines that are taken out, in the order of the text. -/
inductive Filtered : ChatReader → List TextPart → List StreamPart → Prop
  | nil {reader : ChatReader} : Filtered reader [] []
  | cons {reader : ChatReader} {part : TextPart} {parts : List TextPart}
      {body rest : List StreamPart} (within : ∀ p ∈ body, p.Within part.id)
      (patches : body.filterMap StreamPart.patch? =
        (reader.readText (part.deltas.map String.toList)).1.filterMap ChatEvent.patch?)
      (prose : body.flatMap StreamPart.prose = keptText reader.fence (rawLines part.text))
      (order : body.flatMap StreamPart.atoms = sift reader.fence (rawLines part.text))
      (later : Filtered (reader.readText (part.deltas.map String.toList)).2 parts rest) :
      Filtered reader (part :: parts) (.textStart part.id :: (body ++ .textEnd part.id :: rest))

/-- **The filter agrees with the reader.**  If the markers can be told from prose and the lines with
a brace or a backtick in front are indented by spaces and tabs, then the filter gives out the
patches that the reader reports, among the prose that is not taken out. -/
theorem PartFilter.filtered (options : FenceOptions) (spottable : options.Spottable)
    (parts : List TextPart)
    (indented : ∀ part ∈ parts, ∀ line ∈ splitOn '\n' part.text, Indented line) :
    Filtered { fence := { options } } parts
      (transformAll { fence := { options } } (parts.flatMap TextPart.stream)).1 := by
  suffices ∀ (fence : Fence) (id : String), fence.options.Spottable →
      Filtered { fence } parts
        ((lineStart fence id).transformAll (parts.flatMap TextPart.stream)).1 from
    this { options } "" spottable
  induction parts with
  | nil => exact fun _ _ _ => .nil
  | cons part rest ih =>
    intro fence id spottable
    obtain ⟨body, out, within, order⟩ :=
      transformAll_part id spottable part (indented part (.head _))
    have text : (part.deltas.map String.toList).flatten = part.text := List.flatMap_def.symm
    have read := ChatReader.readText_eq { fence } rfl List.not_mem_nil
      (part.deltas.map String.toList)
    rw [text] at read
    have later := ih (fun p h => indented p (.tail _ h))
      (ChatReader.readLines fence (textLines part.text)).2 part.id
      ((fence.options_readLines _).symm ▸ spottable)
    rw [List.flatMap_cons, transformAll_append, out, List.cons_append, List.append_assoc]
    refine .cons within ?_ ?_ order ?_
    · rw [read, ← StreamPart.patches_atoms, order]
      exact patches_sift fence part.text
    · rw [← StreamPart.characters_atoms, order]
      exact characters_sift fence _
    · rw [read]
      exact later

/-- A fence that is open from one text to the next. -/
theorem PartFilter.filtered_open_fence :
    let parts : List TextPart := [⟨"t", ["Hi\n ```sp", "ec\nx\n"]⟩, ⟨"u", ["y\n```\nbye"]⟩]
    let out : List StreamPart :=
      [.textStart "t", .textDelta "t" "Hi\n", .textEnd "t",
        .textStart "u", .textDelta "u" "bye", .textEnd "u"]
    FenceOptions.Spottable {} ∧
      (∀ part ∈ parts, ∀ line ∈ splitOn '\n' part.text, Indented line) ∧
      (transformAll {} (parts.flatMap TextPart.stream)).1 = out ∧ Filtered {} parts out := by
  intro parts out
  have spottable : FenceOptions.Spottable {} := ⟨⟨'`', by decide, .inr rfl⟩, by decide⟩
  have first : splitOn '\n' (TextPart.text ⟨"t", ["Hi\n ```sp", "ec\nx\n"]⟩) =
      ["Hi".toList, " ```spec".toList, "x".toList, []] := by rfl
  have second : splitOn '\n' (TextPart.text ⟨"u", ["y\n```\nbye"]⟩) =
      ["y".toList, "```".toList, "bye".toList] := by rfl
  have unindented {line : List Char} (h : line.takeWhile isBlank = []) : Indented line :=
    indented_of_spaces (n := 0) h
  have indented : ∀ part ∈ parts, ∀ line ∈ splitOn '\n' part.text, Indented line := by
    simp only [parts, List.forall_mem_cons, first, second]
    refine ⟨⟨unindented rfl, indented_of_spaces (n := 1) rfl, unindented rfl, unindented rfl, ?_⟩,
      ⟨unindented rfl, unindented rfl, unindented rfl, ?_⟩, ?_⟩ <;>
      exact fun _ h => nomatch h
  have filtered := filtered {} spottable parts indented
  have given : (transformAll {} (parts.flatMap TextPart.stream)).1 = out := by rfl
  exact ⟨spottable, indented, given, given ▸ filtered⟩

end UiStream
