import UiStream.Proofs.Stream.Filtered

/-!
# Characters that come while the fence is open

What a filter gives out as prose are always the last characters that have come to it, so it can be
followed what becomes of each of them: an `Account` of a run lists the characters that have come,
each with the filter that it came to, and those that have gone out (`Account.give`).

A character that comes while the fence is open goes out just if it is adrift, that is, if its line
is neither held nor at its start (`PartFilter.escaped_eq_adrift`).  This happens where a flush comes
in the middle of a held line: it gives up the line, but not the place in it, and the rest of the
line goes out as prose (`PartFilter.leak_after_flush`).  If each flush comes where no line is held,
nothing goes out of an open fence.

`Account.Kept` is the invariant: what has come is settled or still held, and of what is settled
there have gone out from inside the fence the characters that were adrift.  A step holds one more
character (`Kept.hold`) or settles all there are, by dropping them (`Kept.drop`), by letting them go
(`Kept.release`), or by letting go the last of them only (`Kept.settle`).
-/

namespace UiStream

/-! ## Calls -/

/-- A call of a filter. -/
inductive FilterCall where
  | part (part : StreamPart)
  | flush
deriving DecidableEq, Repr

/-- The text that comes with a call. -/
def FilterCall.text : FilterCall → List Char
  | .part taken => taken.prose
  | .flush => []

namespace PartFilter

/-- Takes a call. -/
def call (filter : PartFilter) : FilterCall → List StreamPart × PartFilter
  | .part part => filter.transform part
  | .flush => filter.flush

/-- Takes calls in order. -/
def callAll : PartFilter → List FilterCall → List StreamPart × PartFilter
  | filter, [] => ([], filter)
  | filter, call :: rest =>
    ((filter.call call).1 ++ ((filter.call call).2.callAll rest).1,
      ((filter.call call).2.callAll rest).2)

/-- No flush comes while a line is held. -/
def FlushedBetweenLines : PartFilter → List FilterCall → Prop
  | _, [] => True
  | filter, call :: rest =>
    (call = .flush → filter.holding = false) ∧ (filter.call call).2.FlushedBetweenLines rest

instance decidableFlushedBetweenLines :
    (filter : PartFilter) → (calls : List FilterCall) → Decidable (filter.FlushedBetweenLines calls)
  | _, [] => .isTrue trivial
  | filter, call :: rest =>
    have := decidableFlushedBetweenLines (filter.call call).2 rest
    inferInstanceAs (Decidable (_ ∧ _))

end PartFilter

/-! ## Accounts -/

/-- A character, and the filter that it came to. -/
structure Arrival where
  character : Char
  filter : PartFilter
deriving DecidableEq, Repr

namespace Arrival

/-- The fence was open. -/
def isFenced (arrival : Arrival) : Bool := arrival.filter.fence.inside

/-- The fence was open, and the character belonged to a line that was neither held nor at its
start. -/
def isAdrift (arrival : Arrival) : Bool :=
  arrival.isFenced && !arrival.filter.holding && !arrival.filter.atLineStart &&
    arrival.character != '\n'

end Arrival

/-- What has come to a filter, and what of it has gone out as prose. -/
structure Account where
  filter : PartFilter
  came : List Arrival := []
  went : List Arrival := []
deriving DecidableEq, Repr

/-- The prose of a piece. -/
def Piece.text : Piece → List Char
  | .prose text => text
  | .patch _ => []

/-- The prose of pieces is that of the parts that are made of them. -/
theorem PartFilter.prose_emit (filter : PartFilter) (pieces : List Piece) :
    (filter.emit pieces).flatMap StreamPart.prose = pieces.flatMap Piece.text := by
  have one (piece : Piece) : piece.atoms.filterMap Atom.character? = piece.text := by
    cases piece with
    | prose text => exact Atom.filterMap_character?_map text
    | patch p => rfl
  rw [← StreamPart.characters_atoms, atoms_emit, List.filterMap_flatMap]
  exact List.flatMap_congr fun piece _ => one piece

namespace Account

/-- Characters come. -/
def receive (account : Account) (new : List Arrival) : Account :=
  { account with came := account.came ++ new }

/-- The filter moves on and gives out pieces.  Their prose are the last characters that came. -/
def give (account : Account) (move : List Piece × PartFilter) : Account :=
  { account with
    filter := move.2
    went := account.went ++ account.came.rtake (move.1.flatMap Piece.text).length }

/-- The filter moves on and gives out nothing. -/
def turn (account : Account) (filter : PartFilter) : Account := { account with filter }

/-- Takes a character. -/
def step (account : Account) (c : Char) : Account :=
  (account.receive [⟨c, account.filter⟩]).give (account.filter.step c)

/-- Takes characters in order. -/
def feed (account : Account) (text : List Char) : Account := text.foldl step account

/-- Gives out the held line. -/
def flush (account : Account) : Account := account.give account.filter.flushLine

/-- Takes a call. -/
def call (account : Account) : FilterCall → Account
  | .flush => account.flush
  | .part (.textDelta id delta) => (account.turn (account.filter.named id)).feed delta.toList
  | .part (.textEnd _) => account.flush.turn { account.flush.filter with atLineStart := true }
  | .part part => account.turn (account.filter.transform part).2

/-- Takes calls in order. -/
def callAll (account : Account) (calls : List FilterCall) : Account := calls.foldl call account

/-! ## The filter of an account -/

theorem filter_feed (account : Account) (text : List Char) :
    (account.feed text).filter = (account.filter.feed text).2 := by
  induction text generalizing account with
  | nil => rfl
  | cons c text ih => exact ih (account.step c)

theorem filter_call (account : Account) (call : FilterCall) :
    (account.call call).filter = (account.filter.call call).2 := by
  cases call with
  | flush => rfl
  | part part =>
    cases part with
    | textDelta id delta => exact filter_feed _ _
    | _ => rfl

theorem filter_callAll (account : Account) (calls : List FilterCall) :
    (account.callAll calls).filter = (account.filter.callAll calls).2 := by
  induction calls generalizing account with
  | nil => rfl
  | cons call rest ih =>
    refine (ih (account.call call)).trans ?_
    rw [filter_call]
    rfl

theorem came_feed (account : Account) (text : List Char) :
    (account.feed text).came.map Arrival.character =
      account.came.map Arrival.character ++ text := by
  induction text generalizing account with
  | nil => exact (List.append_nil _).symm
  | cons c text ih =>
    refine (ih (account.step c)).trans ?_
    simp [step, give, receive]

theorem came_callAll (account : Account) (calls : List FilterCall) :
    (account.callAll calls).came.map Arrival.character =
      account.came.map Arrival.character ++ calls.flatMap FilterCall.text := by
  have one (account : Account) (call : FilterCall) :
      (account.call call).came.map Arrival.character =
        account.came.map Arrival.character ++ call.text := by
    cases call with
    | flush => exact (List.append_nil _).symm
    | part part =>
      cases part with
      | textDelta id delta => exact came_feed _ _
      | _ => exact (List.append_nil _).symm
  induction calls generalizing account with
  | nil => exact (List.append_nil _).symm
  | cons call rest ih =>
    refine (ih (account.call call)).trans ?_
    rw [one, List.flatMap_cons, List.append_assoc]

/-! ## The invariant -/

/-- What has come is settled or held, in the line that the filter has.  Of what is settled there
have gone out from inside the fence the characters that were adrift. -/
structure Kept (account : Account) (settled held : List Arrival) : Prop where
  came : account.came = settled ++ held
  line : held.map Arrival.character = account.filter.line
  fence : ∀ a ∈ held, a.filter.fence = account.filter.fence
  moored : ∀ a ∈ held, a.isAdrift = false
  began : account.filter.holding = false → account.filter.atLineStart = false → held = []
  went : account.went.Sublist settled
  fenced : account.went.filter Arrival.isFenced = settled.filter Arrival.isAdrift

/-- The account is kept. -/
def Sound (account : Account) : Prop := ∃ settled held, account.Kept settled held

/-- An account goes on to another one, and a text has gone out in between. -/
structure Passes (before after : Account) (text : List Char) : Prop where
  sound : after.Sound
  went : after.went.map Arrival.character = before.went.map Arrival.character ++ text

theorem Passes.trans {first second third : Account} {a b : List Char}
    (now : Passes first second a) (later : Passes second third b) :
    Passes first third (a ++ b) :=
  ⟨later.sound, by rw [later.went, now.went, List.append_assoc]⟩

variable {account : Account} {settled held : List Arrival}

/-- What has come before and what comes now is settled, and the last of it goes out. -/
theorem Kept.settle (kept : account.Kept settled held) {new out : List Arrival}
    {move : List Piece × PartFilter} (line : move.2.line = []) (last : out <:+ held ++ new)
    (text : move.1.flatMap Piece.text = out.map Arrival.character)
    (fenced : out.filter Arrival.isFenced = (held ++ new).filter Arrival.isAdrift) :
    Passes account ((account.receive new).give move) (move.1.flatMap Piece.text) := by
  have given : (account.came ++ new).rtake (move.1.flatMap Piece.text).length = out := by
    obtain ⟨first, same⟩ := last
    rw [kept.came, List.append_assoc, ← same, text, List.length_map, ← List.append_assoc,
      List.rtake, List.length_append, Nat.add_sub_cancel, List.drop_left]
  refine ⟨⟨settled ++ (held ++ new), [], ?_⟩, ?_⟩
  · exact
      { came := by simp [give, receive, kept.came]
        line := line.symm
        fence := fun _ h => nomatch h
        moored := fun _ h => nomatch h
        began := fun _ _ => rfl
        went := by
          simp only [give, receive, given]
          exact kept.went.append last.sublist
        fenced := by
          simp only [give, receive, given, List.filter_append]
          rw [kept.fenced, fenced, List.filter_append] }
  · simp only [give, receive, given, List.map_append]
    rw [text]

/-- Nothing goes out. -/
theorem Kept.drop (kept : account.Kept settled held) {new : List Arrival}
    {move : List Piece × PartFilter} (line : move.2.line = [])
    (text : move.1.flatMap Piece.text = []) (moored : ∀ a ∈ new, a.isAdrift = false) :
    Passes account ((account.receive new).give move) (move.1.flatMap Piece.text) := by
  refine kept.settle line List.nil_suffix text (List.filter_eq_nil_iff.mpr ?_).symm
  simp only [Bool.not_eq_true]
  exact List.forall_mem_append.mpr ⟨kept.moored, moored⟩

/-- Outside the fence, everything that is held goes out. -/
theorem Kept.release (kept : account.Kept settled held) {new : List Arrival}
    {move : List Piece × PartFilter} (line : move.2.line = [])
    (text : move.1.flatMap Piece.text = account.filter.line ++ new.map Arrival.character)
    (outside : account.filter.fence.inside = false) (here : ∀ a ∈ new, a.filter = account.filter) :
    Passes account ((account.receive new).give move) (move.1.flatMap Piece.text) := by
  have unfenced : ∀ a ∈ held ++ new, a.isFenced = false := by
    refine List.forall_mem_append.mpr ⟨fun a h => ?_, fun a h => ?_⟩
    · rw [Arrival.isFenced, kept.fence a h, outside]
    · rw [Arrival.isFenced, here a h, outside]
  refine kept.settle line List.suffix_rfl ?_ ?_
  · rw [text, List.map_append, kept.line]
  · rw [List.filter_eq_nil_iff.mpr fun a h => by simp [unfenced a h],
      List.filter_eq_nil_iff.mpr fun a h => by simp [Arrival.isAdrift, unfenced a h]]

/-- A character is held. -/
theorem Kept.hold (kept : account.Kept settled held) {c : Char} {next : PartFilter}
    (line : next.line = account.filter.line ++ [c]) (fence : next.fence = account.filter.fence)
    (moored : account.filter.holding = true ∨ account.filter.atLineStart = true)
    (on : next.holding = true ∨ next.atLineStart = true) :
    Passes account ((account.receive [⟨c, account.filter⟩]).give ([], next)) [] := by
  have unmoved : ((account.receive [⟨c, account.filter⟩]).give ([], next)).went = account.went := by
    simp [give, receive]
  refine ⟨⟨settled, held ++ [⟨c, account.filter⟩], ?_⟩, ?_⟩
  · exact
      { came := by simp [give, receive, kept.came]
        line := by simp [give, kept.line, line]
        fence := by
          refine List.forall_mem_append.mpr
            ⟨fun a h => ?_, List.forall_mem_singleton.mpr fence.symm⟩
          exact (kept.fence a h).trans fence.symm
        moored := by
          refine List.forall_mem_append.mpr ⟨kept.moored, List.forall_mem_singleton.mpr ?_⟩
          rcases moored with h | h <;> simp [Arrival.isAdrift, h]
        began := fun unheld inner => by
          rcases on with h | h
          · exact absurd (h.symm.trans unheld) (by decide)
          · exact absurd (h.symm.trans inner) (by decide)
        went := unmoved ▸ kept.went
        fenced := unmoved ▸ kept.fenced }
  · rw [unmoved, List.append_nil]

/-- The filter moves on between characters, and its line is not adrift. -/
theorem Kept.turn (kept : account.Kept settled held) {next : PartFilter}
    (line : next.line = account.filter.line) (fence : next.fence = account.filter.fence)
    (began : next.holding = false → next.atLineStart = false →
      account.filter.holding = false ∧ account.filter.atLineStart = false) :
    Passes account (account.turn next) [] := by
  refine ⟨⟨settled, held, ?_⟩, (List.append_nil _).symm⟩
  exact
    { kept with
      line := kept.line.trans line.symm
      fence := fun a h => (kept.fence a h).trans fence.symm
      began := fun unheld inner => by
        obtain ⟨unheld, inner⟩ := began unheld inner
        exact kept.began unheld inner }

/-! ## Steps -/

/-- A character is held or goes out, with what is held if there is anything. -/
theorem Kept.step (kept : account.Kept settled held) (c : Char) :
    Passes account (account.step c) ((account.filter.step c).1.flatMap Piece.text) := by
  have here : ∀ a ∈ [(⟨c, account.filter⟩ : Arrival)], a.filter = account.filter :=
    List.forall_mem_singleton.mpr rfl
  have moored (same : c = '\n') : ∀ a ∈ [(⟨c, account.filter⟩ : Arrival)], a.isAdrift = false :=
    List.forall_mem_singleton.mpr (by simp [Arrival.isAdrift, same])
  have moves := account.filter.moves_step c
  unfold Account.step
  generalize account.filter.step c = move at moves
  obtain ⟨pieces, next⟩ := move
  dsimp only at moves
  cases moves with
  | complete _ reads =>
    cases reads with
    | opening | closing | patch | dropped => exact kept.drop rfl rfl (moored rfl)
    | text outside => exact kept.release rfl (List.append_nil _) outside here
    | blank =>
      cases inside : account.filter.fence.inside with
      | true => exact kept.drop rfl rfl (moored rfl)
      | false =>
        refine kept.settle rfl (List.suffix_append held _) rfl ?_
        have unfenced : (⟨'\n', account.filter⟩ : Arrival).isFenced = false := inside
        rw [List.filter_eq_nil_iff.mpr (by simp [unfenced]), List.filter_eq_nil_iff.mpr]
        simp only [Bool.not_eq_true]
        exact List.forall_mem_append.mpr ⟨kept.moored, moored rfl⟩
  | swallow => exact kept.drop rfl rfl (moored rfl)
  | pass _ outside => exact kept.release rfl (List.append_nil _) outside here
  | hold _ holding => exact kept.hold rfl rfl (.inl holding) (.inl holding)
  | flow other unheld inner =>
    -- Nothing is held, and the character goes out whether the fence is open or not.
    obtain rfl := kept.began unheld inner
    let arrival : Arrival := ⟨c, account.filter⟩
    have same : arrival.isAdrift = arrival.isFenced := by
      simp [arrival, Arrival.isAdrift, unheld, inner, other]
    refine kept.settle kept.line.symm List.suffix_rfl rfl ?_
    rw [List.nil_append, List.filter_singleton, List.filter_singleton, same]
  | indent _ start => exact kept.hold rfl rfl (.inr start) (.inr start)
  | grasp _ _ start => exact kept.hold rfl rfl (.inr start) (.inl rfl)
  | release _ _ _ _ outside => exact kept.release rfl (List.append_nil _) outside here

/-- What is held when a flush comes goes out or is dropped. -/
theorem Kept.flush (kept : account.Kept settled held) :
    Passes account account.flush (account.filter.flushLine.1.flatMap Piece.text) := by
  have moored : ∀ a ∈ ([] : List Arrival), a.isAdrift = false := fun _ h => nomatch h
  have here : ∀ a ∈ ([] : List Arrival), a.filter = account.filter := fun _ h => nomatch h
  have alone (line : List Char) : [Piece.prose line].flatMap Piece.text =
      line ++ ([] : List Arrival).map Arrival.character := rfl
  have same : account.flush = (account.receive []).give account.filter.flushLine := by
    rw [receive, List.append_nil]
    rfl
  rw [same]
  unfold PartFilter.flushLine
  split
  · next empty => exact kept.drop (List.isEmpty_iff.mp empty) rfl moored
  split
  · have reads := account.filter.fence.reads_read account.filter.line
    generalize account.filter.fence.read account.filter.line = read at reads ⊢
    obtain ⟨kind, next⟩ := read
    dsimp only at reads ⊢
    cases reads with
    | opening | closing | patch | dropped | blank => exact kept.drop rfl rfl moored
    | text outside => exact kept.release rfl (alone _) outside here
  · split
    · exact kept.drop rfl rfl moored
    · next outside => exact kept.release rfl (alone _) (Bool.eq_false_iff.mpr outside) here

theorem Sound.feed (sound : account.Sound) (text : List Char) :
    Passes account (account.feed text) ((account.filter.feed text).1.flatMap Piece.text) := by
  induction text generalizing account with
  | nil => exact ⟨sound, (List.append_nil _).symm⟩
  | cons c text ih =>
    obtain ⟨settled, held, kept⟩ := sound
    have now := kept.step c
    rw [PartFilter.feed, List.flatMap_append]
    exact now.trans (ih now.sound)

/-- The account stays right about every call. -/
theorem Sound.call (sound : account.Sound) (call : FilterCall) :
    Passes account (account.call call) ((account.filter.call call).1.flatMap StreamPart.prose) := by
  obtain ⟨settled, held, kept⟩ := sound
  cases call with
  | flush =>
    rw [PartFilter.call, PartFilter.flush, PartFilter.prose_emit]
    exact kept.flush
  | part part =>
    cases part with
    | textStart id => exact kept.turn rfl rfl fun _ inner => by cases inner
    | patch | other => exact kept.turn rfl rfl fun unheld inner => ⟨unheld, inner⟩
    | textDelta id delta =>
      have turned : Passes account (account.turn (account.filter.named id)) [] :=
        kept.turn rfl rfl fun unheld inner => ⟨unheld, inner⟩
      have fed := turned.trans (turned.sound.feed delta.toList)
      rw [PartFilter.call, PartFilter.transform, PartFilter.prose_emit]
      exact fed
    | textEnd id =>
      have flushed := kept.flush
      obtain ⟨_, _, still⟩ := flushed.sound
      have turned : Passes account.flush
          (account.flush.turn { account.flush.filter with atLineStart := true }) [] :=
        still.turn rfl rfl fun _ inner => by cases inner
      rw [PartFilter.call, PartFilter.transform, PartFilter.flush]
      dsimp only
      rw [List.flatMap_append, PartFilter.prose_emit]
      exact flushed.trans turned

theorem Sound.callAll (sound : account.Sound) (calls : List FilterCall) :
    Passes account (account.callAll calls)
      ((account.filter.callAll calls).1.flatMap StreamPart.prose) := by
  induction calls generalizing account with
  | nil => exact ⟨sound, (List.append_nil _).symm⟩
  | cons call rest ih =>
    have now := sound.call call
    have later := ih now.sound
    rw [filter_call] at later
    rw [PartFilter.callAll, List.flatMap_append]
    exact now.trans later

end Account

/-! ## Flushes between lines -/

namespace PartFilter

/-- Inside the fence the filter holds its line or stands at its start. -/
def Moored (filter : PartFilter) : Prop :=
  filter.fence.inside = true → filter.holding = true ∨ filter.atLineStart = true

variable {filter : PartFilter}

theorem Moored.isAdrift (moored : filter.Moored) (c : Char) :
    (⟨c, filter⟩ : Arrival).isAdrift = false := by
  rw [Bool.eq_false_iff]
  intro adrift
  simp only [Arrival.isAdrift, Arrival.isFenced, Bool.and_eq_true, Bool.not_eq_true'] at adrift
  rcases moored adrift.1.1.1 with h | h
  · exact absurd (h.symm.trans adrift.1.1.2) (by decide)
  · exact absurd (h.symm.trans adrift.1.2) (by decide)

/-- A character leaves a line held or at its start, unless it is outside. -/
theorem Moored.step (moored : filter.Moored) (c : Char) : (filter.step c).2.Moored := by
  have moves := filter.moves_step c
  generalize filter.step c = move at moves
  obtain ⟨pieces, next⟩ := move
  dsimp only at moves ⊢
  cases moves with
  | complete | swallow | pass => exact fun _ => .inr rfl
  | hold _ holding => exact fun _ => .inl holding
  | flow => exact moored
  | indent _ start => exact fun _ => .inr start
  | grasp => exact fun _ => .inl rfl
  | release _ _ _ _ outside => exact fun inside => absurd (outside.symm.trans inside) (by decide)

/-- A flush where no line is held leaves the filter at the start of its line. -/
theorem Moored.flushLine (moored : filter.Moored) (unheld : filter.holding = false) :
    filter.flushLine.2.Moored := by
  unfold PartFilter.flushLine
  split
  · exact moored
  split
  · next holding => exact absurd (unheld.symm.trans holding) (by decide)
  · split
    · next inside =>
      exact fun _ => .inr ((moored inside).resolve_left (ne_true_of_eq_false unheld))
    · exact fun inside => absurd inside ‹_›

end PartFilter

namespace Account

/-- The filter is moored, and nothing has come adrift. -/
structure Moored (account : Account) : Prop where
  filter : account.filter.Moored
  came : ∀ a ∈ account.came, a.isAdrift = false

variable {account : Account}

theorem Moored.step (moored : account.Moored) (c : Char) : (account.step c).Moored where
  filter := moored.filter.step c
  came := List.forall_mem_append.mpr
    ⟨moored.came, List.forall_mem_singleton.mpr (moored.filter.isAdrift c)⟩

theorem Moored.feed (moored : account.Moored) (text : List Char) : (account.feed text).Moored := by
  induction text generalizing account with
  | nil => exact moored
  | cons c text ih => exact ih (moored.step c)

theorem Moored.call (moored : account.Moored) {call : FilterCall}
    (between : call = .flush → account.filter.holding = false) : (account.call call).Moored := by
  cases call with
  | flush => exact ⟨moored.filter.flushLine (between rfl), moored.came⟩
  | part part =>
    cases part with
    | textStart => exact ⟨fun _ => .inr rfl, moored.came⟩
    | textEnd => exact ⟨fun _ => .inr rfl, moored.came⟩
    | patch | other => exact moored
    | textDelta id delta =>
      have turned : (account.turn (account.filter.named id)).Moored := ⟨moored.filter, moored.came⟩
      exact turned.feed delta.toList

theorem Moored.callAll (moored : account.Moored) {calls : List FilterCall}
    (between : account.filter.FlushedBetweenLines calls) : (account.callAll calls).Moored := by
  induction calls generalizing account with
  | nil => exact moored
  | cons call rest ih =>
    refine ih (moored.call between.1) ?_
    rw [filter_call]
    exact between.2

end Account

/-! ## What goes out of an open fence -/

namespace PartFilter

/-- **What escapes from the fence.**  Whatever calls come to a filter, the account of them is right
about the filter, about what has come and about the prose that has gone out.  Of the characters that
came while the fence was open, there have gone out just those that came adrift, and if each flush
comes where no line is held, none. -/
theorem escaped_eq_adrift (options : FenceOptions) (calls : List FilterCall) :
    let start : PartFilter := { fence := { options } }
    let account := ({ filter := start } : Account).callAll calls
    let out := start.callAll calls
    account.filter = out.2 ∧
      account.came.map Arrival.character = calls.flatMap FilterCall.text ∧
      account.went.map Arrival.character = out.1.flatMap StreamPart.prose ∧
      account.went.Sublist account.came ∧
      account.went.filter Arrival.isFenced = account.came.filter Arrival.isAdrift ∧
      (start.FlushedBetweenLines calls → ∀ a ∈ account.went, a.isFenced = false) := by
  intro start account out
  have kept : ({ filter := start } : Account).Kept [] [] :=
    { came := rfl
      line := rfl
      fence := fun _ h => nomatch h
      moored := fun _ h => nomatch h
      began := fun _ _ => rfl
      went := .slnil
      fenced := rfl }
  have passes := Account.Sound.callAll ⟨[], [], kept⟩ calls
  obtain ⟨settled, held, still⟩ := passes.sound
  have unheld : held.filter Arrival.isAdrift = [] :=
    List.filter_eq_nil_iff.mpr fun a h => ne_true_of_eq_false (still.moored a h)
  have escaped : account.went.filter Arrival.isFenced = account.came.filter Arrival.isAdrift := by
    rw [still.fenced, still.came, List.filter_append, unheld, List.append_nil]
  refine ⟨Account.filter_callAll _ _, Account.came_callAll _ _, passes.went, ?_, escaped, ?_⟩
  · rw [still.came]
    exact still.went.trans (List.sublist_append_left _ _)
  · intro between a gone
    have start : ({ filter := start } : Account).Moored :=
      ⟨fun _ => .inr rfl, fun _ h => nomatch h⟩
    have none : account.went.filter Arrival.isFenced = [] :=
      escaped.trans (List.filter_eq_nil_iff.mpr fun a h =>
        ne_true_of_eq_false ((start.callAll between).came a h))
    exact Bool.eq_false_iff.mpr (List.filter_eq_nil_iff.mp none a gone)

/-- A fence that stays open over a flush between two lines. -/
theorem escaped_eq_adrift_between :
    let delta (text : String) : FilterCall := .part (.textDelta "t" text)
    let calls := [delta "a\n```sp", delta "ec\nb", delta "c\n", .flush, delta "d"]
    let start : PartFilter := {}
    start.FlushedBetweenLines calls ∧
      (start.callAll calls).1 = [.textDelta "t" "a\n"] ∧
      ∀ a ∈ (({ filter := start } : Account).callAll calls).went, a.isFenced = false := by
  intro delta calls start
  have between : start.FlushedBetweenLines calls := by decide +kernel
  exact ⟨between, by decide +kernel, (escaped_eq_adrift {} calls).2.2.2.2.2 between⟩

/-- A flush in the middle of a line that is held inside the fence lets the rest of the line out. -/
theorem leak_after_flush :
    let delta (text : String) : FilterCall := .part (.textDelta "t" text)
    let calls := [delta "```spec\nnot a pa", .flush, delta "tch\n"]
    let start : PartFilter := {}
    (start.callAll calls).1 = [.textDelta "t" "tch"] ∧
      ((({ filter := start } : Account).callAll calls).went.filter Arrival.isFenced).map
        Arrival.character = "tch".toList := by
  decide +kernel

end PartFilter

end UiStream
