import UiStream.Proofs.Stream.Compilation
import UiStream.Proofs.Stream.Fence

/-!
# The automaton of a stream with prose

A stream with prose is read by an automaton of two states: a line stands outside the fence or
inside it, and a marker leads from the one to the other.  `Place.event?` says what a line gives at
its place.  `ChatReader.takeAll_eq_automaton` says that a reader which takes the stream in pieces
reports what the automaton gives over the lines of the whole text.

The two meet in `readLines`, the loop of a reader over its lines: one line is one step of the
automaton (`Place.read_fence`), and the pieces of a stream amount to its lines
(`ChatReader.takeAll_eq_readLines`).  That outside no line is lost or told twice is a fact about
the automaton alone (`Place.tells_prose`).
-/

namespace UiStream

open LineBuffer (textLines)

/-! ## The automaton -/

/-- Where a line of a stream stands. -/
inductive Place where
  | outside
  | inside
deriving DecidableEq, Repr

namespace Place

/-- Whether the fence is open. -/
def isInside : Place → Bool
  | outside => false
  | inside => true

/-- The other side of a marker. -/
def other : Place → Place
  | outside => inside
  | inside => outside

variable (options : FenceOptions)

/-- A line is the marker that is looked for at its place: outside one that begins with the opening
marker, inside the closing marker. -/
def IsMarker : Place → List Char → Prop
  | outside, line => options.opening.toList <+: trim line
  | inside, line => trim line = options.closing.toList

instance (place : Place) (line : List Char) : Decidable (place.IsMarker options line) :=
  match place with
  | outside => inferInstanceAs (Decidable (options.opening.toList <+: trim line))
  | inside => inferInstanceAs (Decidable (trim line = options.closing.toList))

/-- The place behind a line. -/
def next (place : Place) (line : List Char) : Place :=
  if place.IsMarker options line then place.other else place

/-- What a line gives: a marker and a blank line nothing, a line inside its patch, and a line
outside its patch, if it may have one there, or itself. -/
def event? (place : Place) (line : List Char) : Option ChatEvent :=
  if place.IsMarker options line ∨ trim line = [] then none
  else
    match place with
    | inside => (patchOfLine? line).map .patch
    | outside =>
      match options.heuristic, patchOfLine? line with
      | true, some patch => some (.patch patch)
      | _, _ => some (.text line)

/-- The lines of a stream, each with its place. -/
def visits : Place → List (List Char) → List (Place × List Char)
  | _, [] => []
  | place, line :: rest => (place, line) :: visits (place.next options line) rest

/-- The place behind lines. -/
def after (place : Place) (lines : List (List Char)) : Place := lines.foldl (next options) place

/-- What lines give that each stand at a place. -/
def eventsOf (visits : List (Place × List Char)) : List ChatEvent :=
  visits.filterMap fun visit => visit.1.event? options visit.2

/-- What lines give. -/
def events (place : Place) (lines : List (List Char)) : List ChatEvent :=
  eventsOf options (place.visits options lines)

theorem events_cons (place : Place) (line : List Char) (rest : List (List Char)) :
    place.events options (line :: rest) =
      (place.event? options line).toList ++ (place.next options line).events options rest := by
  rw [events, eventsOf, visits, List.filterMap_cons]
  cases place.event? options line <;> rfl

theorem after_cons (place : Place) (line : List Char) (rest : List (List Char)) :
    place.after options (line :: rest) = (place.next options line).after options rest := rfl

/-! ## Prose -/

/-- What lines outside the fence give. -/
def eventsOutside (place : Place) (lines : List (List Char)) : List ChatEvent :=
  eventsOf options ((place.visits options lines).filter (·.1 = outside))

/-- A line outside the fence that is no marker and not blank. -/
def IsProse (visit : Place × List Char) : Prop :=
  visit.1 = outside ∧ ¬ outside.IsMarker options visit.2 ∧ trim visit.2 ≠ []

instance (visit : Place × List Char) : Decidable (IsProse options visit) :=
  inferInstanceAs (Decidable (_ ∧ _ ∧ _))

/-- The lines of prose. -/
def prose (place : Place) (lines : List (List Char)) : List (List Char) :=
  ((place.visits options lines).filter (IsProse options)).map (·.2)

/-- An event that a line of prose is told by: the line itself, or the patch in it. -/
inductive Tells : List Char → ChatEvent → Prop
  | text (line : List Char) : Tells line (.text line)
  | patch {line : List Char} {patch : Patch} (allowed : options.heuristic = true)
      (found : patchOfLine? line = some patch) : Tells line (.patch patch)

variable {options} {line : List Char}

/-- A line of prose has its event. -/
theorem tells_of_isProse (prose : IsProse options (outside, line)) :
    ∃ event, outside.event? options line = some event ∧ Tells options line event := by
  obtain ⟨-, unmarked, full⟩ := prose
  rw [event?, if_neg (not_or.mpr ⟨unmarked, full⟩)]
  cases allowed : options.heuristic with
  | false => exact ⟨_, rfl, .text line⟩
  | true =>
    cases found : patchOfLine? line with
    | none => exact ⟨_, rfl, .text line⟩
    | some patch => exact ⟨_, rfl, .patch allowed found⟩

/-- Any other line outside has none. -/
theorem event?_of_not_isProse (other : ¬ IsProse options (outside, line)) :
    outside.event? options line = none := by
  refine if_pos ?_
  by_contra h
  exact other ⟨rfl, not_or.mp h⟩

/-- Each line of prose is told by one event, in the order of the lines, and nothing else is told
of what stands outside. -/
theorem tells_prose (place : Place) (lines : List (List Char)) :
    List.Forall₂ (Tells options) (place.prose options lines)
      (place.eventsOutside options lines) := by
  unfold prose eventsOutside eventsOf
  induction place.visits options lines with
  | nil => exact .nil
  | cons visit rest ih =>
    obtain ⟨place, line⟩ := visit
    cases place with
    | inside =>
      have unlisted : ¬ IsProse options (inside, line) := fun h => nomatch h.1
      simpa [List.filter_cons, unlisted] using ih
    | outside =>
      by_cases listed : IsProse options (outside, line)
      · obtain ⟨event, given, tells⟩ := tells_of_isProse listed
        simpa [List.filter_cons, listed, given] using And.intro tells ih
      · have silent := event?_of_not_isProse listed
        simpa [List.filter_cons, listed, silent] using ih

/-- Without the heuristic prose is told by itself. -/
theorem eq_of_tells (off : options.heuristic = false) {lines : List (List Char)}
    {events : List ChatEvent} (told : List.Forall₂ (Tells options) lines events) :
    events = lines.map .text := by
  induction told with
  | nil => rfl
  | cons tells _ ih =>
    cases tells with
    | text => rw [List.map_cons, ih]
    | patch allowed => rw [off] at allowed; cases allowed

/-! ## A reader as the automaton -/

/-- The fence at a place. -/
def fence (options : FenceOptions) (place : Place) : Fence := { options, inside := place.isInside }

section Lines

variable {options : FenceOptions} {place : Place} {line : List Char}

theorem opens_iff : Fence.opens options (trim line) = true ↔ outside.IsMarker options line :=
  List.isPrefixOf_iff_prefix

theorem closes_iff : Fence.closes options (trim line) = true ↔ inside.IsMarker options line :=
  beq_iff_eq

/-- A marker is read as one and leads to the other place. -/
theorem read_of_isMarker (marker : place.IsMarker options line) :
    (place.fence options).read line = (.marker, place.other.fence options) := by
  cases place with
  | outside => simp [Fence.read, fence, isInside, other, opens_iff.mpr marker]
  | inside => simp [Fence.read, fence, isInside, other, closes_iff.mpr marker]

/-- A line that is not the marker of its place is read by what is in it. -/
theorem read_of_not_isMarker (unmarked : ¬ place.IsMarker options line) :
    (place.fence options).read line =
      (if trim line = [] then .blank
        else
          match place with
          | inside => (patchOfLine? line).elim .dropped .patch
          | outside =>
            match options.heuristic, patchOfLine? line with
            | true, some patch => .patch patch
            | _, _ => .text,
        place.fence options) := by
  rw [Fence.read]
  simp only [patchOfLine?_trim, List.isEmpty_iff]
  cases place with
  | outside =>
    have unopened := Bool.eq_false_iff.mpr (mt opens_iff.mp unmarked)
    simp only [fence, isInside, unopened, Bool.and_false, Bool.false_and, Bool.false_eq_true,
      if_false]
    by_cases blank : trim line = []
    · rw [if_pos blank, if_pos blank]
    · rw [if_neg blank, if_neg blank]
      obtain ⟨opening, closing, heuristic⟩ := options
      cases heuristic <;> cases patchOfLine? line <;> rfl
  | inside =>
    have unclosed := Bool.eq_false_iff.mpr (mt closes_iff.mp unmarked)
    simp only [fence, isInside, unclosed, Bool.not_true, Bool.false_and, Bool.and_false,
      Bool.false_eq_true, if_false, if_true]
    by_cases blank : trim line = []
    · rw [if_pos blank, if_pos blank]
    · rw [if_neg blank, if_neg blank]
      cases patchOfLine? line <;> rfl

end Lines

/-- A line is read as a step of the automaton. -/
theorem read_fence (options : FenceOptions) (place : Place) (line : List Char) :
    ChatReader.eventOf line ((place.fence options).read line).1 = place.event? options line ∧
      ((place.fence options).read line).2 = (place.next options line).fence options := by
  unfold event? next
  by_cases marker : place.IsMarker options line
  · rw [read_of_isMarker marker, if_pos (.inl marker), if_pos marker]
    exact ⟨rfl, rfl⟩
  rw [read_of_not_isMarker marker, if_neg marker]
  refine ⟨?_, rfl⟩
  by_cases blank : trim line = []
  · rw [if_pos blank, if_pos (.inr blank)]
    rfl
  rw [if_neg blank, if_neg (not_or.mpr ⟨marker, blank⟩)]
  cases place with
  | inside => cases patchOfLine? line <;> rfl
  | outside => cases options.heuristic <;> cases patchOfLine? line <;> rfl

/-- Lines are read as a run of the automaton. -/
theorem readLines_fence (options : FenceOptions) (place : Place) (lines : List (List Char)) :
    ChatReader.readLines (place.fence options) lines =
      (place.events options lines, (place.after options lines).fence options) := by
  induction lines generalizing place with
  | nil => rfl
  | cons line rest ih =>
    obtain ⟨event, next⟩ := read_fence options place line
    rw [ChatReader.readLines]
    dsimp only
    rw [event, next, ih, events_cons, after_cons]

end Place

namespace ChatReader

/-- A reader that takes pieces reads the lines of all of them in one go. -/
theorem takeAll_eq_readLines (reader : ChatReader) (pieces : List (List UInt8)) :
    reader.takeAll pieces =
      let read := readLines reader.fence (reader.buffer.linesOf pieces)
      (read.1, { fence := read.2 }) := by
  induction pieces generalizing reader with
  | nil => rfl
  | cons piece rest ih =>
    rw [takeAll, LineBuffer.linesOf, readLines_append]
    dsimp only
    rw [ih]
    rfl

/-- Over a stream in pieces a reader makes the run of the automaton over its lines. -/
theorem takeAll_fence (options : FenceOptions) (pieces : List (List UInt8)) :
    ({ fence := Place.outside.fence options } : ChatReader).takeAll pieces =
      let lines := textLines (Utf8.decodeLossy pieces.flatten)
      (Place.outside.events options lines,
        { fence := (Place.outside.after options lines).fence options }) := by
  rw [takeAll_eq_readLines, LineBuffer.linesOf_eq _ List.not_mem_nil, LineBuffer.wholeText_empty]
  dsimp only
  rw [Place.readLines_fence]

/-- **A reader is the automaton.**  However a stream is cut, the reader reports what the automaton
gives over the lines of the text that its bytes stand for, and ends where the automaton ends.
Outside the fence each line of prose is told by one event, in order: by itself, or by its patch if
the heuristic allows that. -/
theorem takeAll_eq_automaton (options : FenceOptions) (pieces : List (List UInt8)) :
    let text := Utf8.decodeLossy pieces.flatten
    let lines := textLines text
    let ended := ({ fence := { options } } : ChatReader).takeAll pieces
    let prose := Place.outside.prose options lines
    let told := Place.outside.eventsOutside options lines
    Utf8.Lossy pieces.flatten text ∧
      ended.1 = Place.outside.events options lines ∧
      ended.2.fence.inside = (Place.outside.after options lines).isInside ∧
      List.Forall₂ (Place.Tells options) prose told ∧
      (options.heuristic = false → told = prose.map .text) := by
  intro text lines ended prose told
  have whole : ended = _ := takeAll_fence options pieces
  have each : List.Forall₂ (Place.Tells options) prose told := Place.tells_prose .outside lines
  rw [whole]
  exact ⟨Utf8.lossy_iff.mpr rfl, rfl, rfl, each, fun off => Place.eq_of_tells off each⟩

end ChatReader

end UiStream
