import UiStream.Proofs.Json.Spared

/-!
# Values in trimmed text

A text that is a value is the same value when it is trimmed (`Json.parse?_trim`), although the
blanks that are trimmed are more than those that JSON knows: blanks of another kind cannot stand in
front of a value (`Json.trimStart_of_parse?`), and behind one no blanks are read with it
(`Json.Parser.clips_value`).

`Clips` is what the reader of a value has and the readers of containers need of it.  The containers
are gone through round by round, where a round begins behind the blanks in front of it; that they
may be skipped is `spares_skipBlanks`, and rests on a round not beginning with blanks (`Starts`).
-/

namespace UiStream

namespace Json.Parser

/-! ## Blanks in front -/

theorem length_skipBlanks_le (s : List Char) : (skipBlanks s).length ≤ s.length :=
  (List.dropWhile_suffix _).length_le

theorem skipBlanks_append (s blanks : List Char) :
    skipBlanks (s ++ blanks) =
      if (skipBlanks s).isEmpty then skipBlanks blanks else skipBlanks s ++ blanks :=
  List.dropWhile_append

theorem skipBlanks_skipBlanks (s : List Char) : skipBlanks (skipBlanks s) = skipBlanks s :=
  List.dropWhile_idempotent ..

theorem blanks_skipBlanks {blanks : List Char} (blank : Blanks blanks) :
    Blanks (skipBlanks blanks) :=
  fun c mem => blank c ((List.dropWhile_sublist _).subset mem)

section

variable {α β : Type} {read : List Char → Except Fault (Read α)}

/-- Something is read of every text that is read, and not the blanks behind it. -/
def Clips (read : List Char → Except Fault (Read α)) : Prop :=
  ∀ blanks, Blanks blanks → ∀ s, Spares blanks s.length (read (s ++ blanks)) (read s)

/-- Nothing is read in blanks. -/
def Starts (read : List Char → Except Fault (Read α)) : Prop :=
  ∀ blanks, Blanks blanks → ∀ found, read blanks ≠ .ok found

theorem Clips.starts (clips : Clips read) : Starts read := by
  intro blanks blank found h
  -- Blanks are what stands behind the empty text, of which nothing is left.
  obtain ⟨left, -, shorter, -⟩ := (clips blanks blank []).spared found.1 found.2 h
  exact Nat.not_lt_zero _ shorter

/-- What is read first decides that nothing is read in blanks. -/
theorem Starts.bind (starts : Starts read) (onward : Read α → Except Fault (Read β)) :
    Starts fun s => read s >>= onward := by
  intro blanks blank found h
  cases first : read blanks with
  | error => simp only [first] at h; cases h
  | ok part => exact starts blanks blank part first

/-- What is read first leaves less than it was given. -/
theorem Clips.bind (clips : Clips read) {blanks : List Char} (blank : Blanks blanks)
    {onward onward' : Read α → Except Fault (Read β)} {s : List Char} {bound : Nat}
    (onwards : ∀ v left, left.length < bound →
      Spares blanks bound (onward (v, left ++ blanks)) (onward' (v, left)))
    (le : s.length ≤ bound) :
    Spares blanks bound (read (s ++ blanks) >>= onward) (read s >>= onward') :=
  (clips blanks blank s).bind fun v left less => onwards v left (Nat.lt_of_lt_of_le less le)

/-- Where nothing is read in blanks, the blanks in front of a text may be skipped. -/
theorem spares_skipBlanks {long short : List Char → Except Fault (Read α)} (starts : Starts long)
    {blanks : List Char} (blank : Blanks blanks) {bound : Nat} {s : List Char}
    (h : ∀ c rest, skipBlanks s = c :: rest →
      Spares blanks bound (long (c :: (rest ++ blanks))) (short (c :: rest))) :
    Spares blanks bound (long (skipBlanks (s ++ blanks))) (short (skipBlanks s)) := by
  rw [skipBlanks_append]
  cases here : skipBlanks s with
  | nil => exact ⟨fun v r found => (starts _ (blanks_skipBlanks blank) _ found).elim⟩
  | cons c rest => exact h c rest here

end

/-! ## Arrays -/

section Arrays

variable {item : List Char → Except Fault (Read Json)}
  {onward onward' : Read Json → Except Fault (Read Json)}

/-- An item behind a comma and the blanks behind it. -/
def laterItem (item : List Char → Except Fault (Read Json))
    (onward : Read Json → Except Fault (Read Json)) : List Char → Except Fault (Read Json)
  | [] => failBefore .endInValue []
  | c :: s => if c = ']' then failInto .trailingComma (c :: s) else item (c :: s) >>= onward

/-- A round over the items of an array, behind the blanks in front of it. -/
def itemsRound (item : List Char → Except Fault (Read Json))
    (onward : Read Json → Except Fault (Read Json)) (read : List Json) :
    List Char → Except Fault (Read Json)
  | [] => failBefore .endInArray []
  | c :: s =>
    if c = ']' then .ok (.array read.reverse, s)
    else if read.isEmpty then item (c :: s) >>= onward
    else if c = ',' then laterItem item onward (skipBlanks s)
    else failInto .expectedItemEnd (c :: s)

theorem items_succ (fuel : Nat) (read : List Json) (s : List Char) :
    items item (fuel + 1) read s =
      itemsRound item (fun found => items item fuel (found.1 :: read) found.2) read
        (skipBlanks s) := by
  rw [items]
  generalize skipBlanks s = s
  split
  · rfl
  · rfl
  · next s =>
    refine if_congr Iff.rfl rfl ?_
    rw [if_pos (c := (',' : Char) = ',') rfl]
    generalize skipBlanks s = s
    split
    · rfl
    · rfl
    · next none close =>
      cases s with
      | nil => exact (none rfl).elim
      | cons c s =>
        exact (if_neg (c := c = ']') fun same => close s (by rw [same])).symm
  · next none close comma =>
    cases s with
    | nil => exact (none rfl).elim
    | cons c s =>
      rw [itemsRound, if_neg (c := c = ']') fun same => close s (by rw [same]),
        if_neg (c := c = ',') fun same => comma s (by rw [same])]

variable (clips : Clips item)
include clips

theorem starts_laterItem : Starts (laterItem item onward) := by
  intro blanks blank found
  cases blanks with
  | nil => exact nofun
  | cons c rest =>
    rw [laterItem, if_neg (ne_of_isBlank (blank c (.head _)) (by decide))]
    exact clips.starts.bind onward _ blank found

theorem starts_itemsRound (read : List Json) : Starts (itemsRound item onward read) := by
  intro blanks blank found
  cases blanks with
  | nil => exact nofun
  | cons c rest =>
    have off {d : Char} (h : UiStream.isBlank d = false) := ne_of_isBlank (blank c (.head _)) h
    rw [itemsRound, if_neg (off (by decide)), if_neg (c := c = ',') (off (by decide))]
    split
    · exact clips.starts.bind onward _ blank found
    · exact nofun

variable {blanks : List Char} (blank : Blanks blanks)
include blank

theorem spares_itemsRound (read : List Json) {s : List Char}
    (onwards : ∀ v left, left.length < s.length →
      Spares blanks s.length (onward (v, left ++ blanks)) (onward' (v, left))) :
    Spares blanks s.length (itemsRound item onward read (skipBlanks (s ++ blanks)))
      (itemsRound item onward' read (skipBlanks s)) := by
  refine spares_skipBlanks (starts_itemsRound clips read) blank fun c rest here => ?_
  have shorter : (c :: rest).length ≤ s.length := here ▸ length_skipBlanks_le s
  refine spares_ite (fun _ => spares_ok shorter) fun _ => spares_ite (fun _ => ?_) fun _ =>
    spares_ite (fun _ => ?_) fun _ => spares_failInto ..
  · exact clips.bind blank onwards (s := c :: rest) shorter
  · refine spares_skipBlanks (starts_laterItem clips) blank fun d more next => ?_
    have fewer : (d :: more).length ≤ rest.length := next ▸ length_skipBlanks_le rest
    refine spares_ite (fun _ => spares_failInto ..) fun _ => ?_
    exact clips.bind blank onwards (s := d :: more) (fewer.trans (Nat.le_of_lt shorter))

theorem spares_items (fuel : Nat) {enough : Nat} (read : List Json) {s : List Char}
    (h : s.length < enough) :
    Spares blanks s.length (items item fuel read (s ++ blanks)) (items item enough read s) := by
  induction fuel generalizing enough read s with
  | zero => exact spares_failBefore ..
  | succ fuel ih =>
    obtain ⟨enough, rfl⟩ : ∃ n, enough = n + 1 := ⟨enough - 1, by omega⟩
    rw [items_succ, items_succ]
    refine spares_itemsRound clips blank read fun v left less => ?_
    exact (ih (v :: read) (by omega)).mono (Nat.le_of_lt less)

end Arrays

/-! ## Objects -/

section Objects

variable {item : List Char → Except Fault (Read Json)}
  {onward onward' : Read (String × Json) → Except Fault (Read Json)}

theorem colon_eq_ok_iff (s r : List Char) : colon s = .ok r ↔ skipBlanks s = ':' :: r := by
  unfold colon
  generalize skipBlanks s = s
  split
  · simp
  · exact ⟨nofun, nofun⟩
  · next other _ =>
    exact ⟨nofun, fun same => (other r same).elim⟩

variable (clips : Clips item) {blanks : List Char} (blank : Blanks blanks)
include blank

theorem colon_append {s r : List Char} (h : colon (s ++ blanks) = .ok r) :
    ∃ left, r = left ++ blanks ∧ left.length < s.length ∧ colon s = .ok left := by
  rw [colon_eq_ok_iff, skipBlanks_append] at h
  have shorter := length_skipBlanks_le s
  cases here : skipBlanks s with
  | nil =>
    rw [here] at h
    have mem : ':' ∈ skipBlanks blanks := by
      rw [show skipBlanks blanks = ':' :: r from h]
      exact .head _
    exact absurd rfl (ne_of_isBlank (blanks_skipBlanks blank _ mem) (by decide))
  | cons c rest =>
    rw [here] at h shorter
    obtain ⟨left, same, rfl⟩ := exists_cons blank (by decide) h
    rw [same] at shorter here
    exact ⟨left, rfl, shorter, (colon_eq_ok_iff _ _).mpr here⟩

omit blank
include clips

/-- A member is read alike with blanks behind it if its value is. -/
theorem clips_member : Clips (member item) := by
  intro blanks blank s
  refine (spares_stringBody blank s).bind fun key left shorter => ?_
  refine ⟨fun m r found => ?_⟩
  dsimp only at found ⊢
  cases parted : colon (left ++ blanks) with
  | error => rw [parted] at found; cases found
  | ok behind =>
    obtain ⟨rest, rfl, fewer, same⟩ := colon_append blank parted
    rw [parted] at found
    rw [same]
    have less : rest.length < s.length := by omega
    exact (((clips blanks blank rest).bind fun v left fewer => spares_ok (v := (key, v))
      (Nat.lt_trans fewer less))).spared m r found

omit clips

/-- A member behind a comma and the blanks behind it. -/
def laterMember (item : List Char → Except Fault (Read Json))
    (onward : Read (String × Json) → Except Fault (Read Json)) :
    List Char → Except Fault (Read Json)
  | [] => failBefore .endInValue []
  | c :: s =>
    if c = '"' then member item s >>= onward
    else failInto (if c = '}' then .trailingComma else .keyNotString) (c :: s)

/-- A round over the members of an object, behind the blanks in front of it. -/
def membersRound (item : List Char → Except Fault (Read Json))
    (onward : Read (String × Json) → Except Fault (Read Json)) (read : List (String × Json)) :
    List Char → Except Fault (Read Json)
  | [] => failBefore .endInObject []
  | c :: s =>
    if c = '}' then .ok (.object (Members.ofPairs read.reverse), s)
    else if read.isEmpty then
      if c = '"' then member item s >>= onward else failInto .keyNotString (c :: s)
    else if c = ',' then laterMember item onward (skipBlanks s)
    else failInto .expectedMemberEnd (c :: s)

theorem members_succ (fuel : Nat) (read : List (String × Json)) (s : List Char) :
    members item (fuel + 1) read s =
      membersRound item (fun found => members item fuel (found.1 :: read) found.2) read
        (skipBlanks s) := rfl

theorem starts_laterMember : Starts (laterMember item onward) := by
  intro blanks blank found
  cases blanks with
  | nil => exact nofun
  | cons c rest =>
    rw [laterMember, if_neg (ne_of_isBlank (blank c (.head _)) (by decide))]
    exact nofun

theorem starts_membersRound (read : List (String × Json)) :
    Starts (membersRound item onward read) := by
  intro blanks blank found
  cases blanks with
  | nil => exact nofun
  | cons c rest =>
    have off {d : Char} (h : UiStream.isBlank d = false) := ne_of_isBlank (blank c (.head _)) h
    rw [membersRound, if_neg (off (by decide)), if_neg (c := c = '"') (off (by decide)),
      if_neg (c := c = ',') (off (by decide))]
    split <;> exact nofun

include clips blank

theorem spares_membersRound (read : List (String × Json)) {s : List Char}
    (onwards : ∀ m left, left.length < s.length →
      Spares blanks s.length (onward (m, left ++ blanks)) (onward' (m, left))) :
    Spares blanks s.length (membersRound item onward read (skipBlanks (s ++ blanks)))
      (membersRound item onward' read (skipBlanks s)) := by
  refine spares_skipBlanks (starts_membersRound read) blank fun c rest here => ?_
  have shorter : (c :: rest).length ≤ s.length := here ▸ length_skipBlanks_le s
  have less : rest.length ≤ s.length := Nat.le_of_lt shorter
  refine spares_ite (fun _ => spares_ok shorter) fun _ => spares_ite (fun _ => ?_) fun _ =>
    spares_ite (fun _ => ?_) fun _ => spares_failInto ..
  · refine spares_ite (fun _ => ?_) fun _ => spares_failInto ..
    exact (clips_member clips).bind blank onwards less
  · refine spares_skipBlanks starts_laterMember blank fun d more next => ?_
    have fewer : (d :: more).length ≤ rest.length := next ▸ length_skipBlanks_le rest
    refine spares_ite (fun _ => ?_) fun _ => spares_failInto ..
    exact (clips_member clips).bind blank onwards ((Nat.le_of_lt fewer).trans less)

theorem spares_members (fuel : Nat) {enough : Nat} (read : List (String × Json)) {s : List Char}
    (h : s.length < enough) :
    Spares blanks s.length (members item fuel read (s ++ blanks)) (members item enough read s) := by
  induction fuel generalizing enough read s with
  | zero => exact spares_failBefore ..
  | succ fuel ih =>
    obtain ⟨enough, rfl⟩ : ∃ n, enough = n + 1 := ⟨enough - 1, by omega⟩
    rw [members_succ, members_succ]
    refine spares_membersRound clips blank read fun m left less => ?_
    exact (ih (m :: read) (by omega)).mono (Nat.le_of_lt less)

end Objects

/-! ## Values -/

/-- No value begins with a blank of any kind that is left in front of it. -/
theorem valueRound_blank (nesting : Nat) {c : Char} (blank : UiStream.isBlank c = true)
    (rest : List Char) (found : Read Json) : valueRound nesting (c :: rest) ≠ .ok found := by
  have off {d : Char} (h : UiStream.isBlank d = false) := ne_of_isBlank blank h
  rw [valueRound.eq_def]
  dsimp only
  rw [if_neg (c := c = 'n') (off (by decide)), if_neg (c := c = 't') (off (by decide)),
    if_neg (c := c = 'f') (off (by decide)), if_neg (c := c = '-') (off (by decide)),
    isDigit_of_isBlank blank, if_neg Bool.false_ne_true, if_neg (c := c = '"') (off (by decide)),
    if_neg]
  · exact nofun
  · simp only [Bool.or_eq_true, decide_eq_true_eq]
    exact not_or.mpr ⟨off (by decide), off (by decide)⟩

theorem starts_valueRound (nesting : Nat) : Starts (valueRound nesting) := by
  intro blanks blank found
  cases blanks with
  | nil => exact nofun
  | cons c rest => exact valueRound_blank nesting (blank c (.head _)) rest found

/-- A value is read alike with blanks behind it if those inside it are. -/
theorem clips_value_of {nesting : Nat}
    (inner : ∀ n, nesting = n + 1 → Clips (value n)) : Clips (value nesting) := by
  intro blanks blank s
  rw [value_eq, value_eq]
  refine spares_skipBlanks (starts_valueRound nesting) blank fun c rest here => ?_
  have shorter : (c :: rest).length ≤ s.length := here ▸ length_skipBlanks_le s
  have leaf {long short : Except Fault (Read Json)}
      (h : Spares blanks (rest.length + 1) long short) : Spares blanks s.length long short :=
    h.mono shorter
  refine spares_ite (fun _ => leaf (spares_literal blank _ (by decide) rest)) fun _ => ?_
  refine spares_ite (fun _ => leaf (spares_literal blank _ (by decide) rest)) fun _ => ?_
  refine spares_ite (fun _ => leaf (spares_literal blank _ (by decide) rest)) fun _ => ?_
  refine spares_ite (fun _ => leaf ((spares_number blank true rest).mono (Nat.le_succ _)))
    fun _ => ?_
  refine spares_ite (fun _ => leaf (spares_number blank false (c :: rest))) fun _ => ?_
  refine spares_ite (fun _ => leaf ((spares_stringBody blank rest).bind fun text left less =>
    spares_ok less)) fun _ => ?_
  refine spares_ite (fun _ => ?_) fun _ => spares_failInto ..
  cases nesting with
  | zero => exact spares_failInto ..
  | succ nesting =>
    refine spares_ite (fun _ => leaf ?_) fun _ => leaf ?_
    · exact (spares_items (inner nesting rfl) blank _ [] (Nat.lt_succ_self _)).mono (Nat.le_succ _)
    · exact (spares_members (inner nesting rfl) blank _ [] (Nat.lt_succ_self _)).mono
        (Nat.le_succ _)

/-- Values are read alike with blanks behind them. -/
theorem clips_value (nesting : Nat) : Clips (value nesting) := by
  induction nesting with
  | zero => exact clips_value_of fun _ h => absurd h (Nat.zero_ne_add_one _)
  | succ nesting ih => exact clips_value_of fun n h => Nat.succ.inj h ▸ ih

end Json.Parser

namespace Json

/-- The text of a value begins with no other blanks than those of JSON. -/
theorem trimStart_of_parse? {s : List Char} {v : Json} (h : parse? (String.ofList s) = some v) :
    trimStart s = Parser.skipBlanks s ∧ Parser.skipBlanks s ≠ [] := by
  obtain ⟨left, found, -⟩ := (parse?_eq_some_iff _ v).mp h
  rw [String.toList_ofList, Parser.value_eq] at found
  have split : s.takeWhile Parser.isBlank ++ Parser.skipBlanks s = s :=
    List.takeWhile_append_dropWhile
  have front : Blanks (s.takeWhile Parser.isBlank) := by
    intro c mem
    have blank := List.mem_takeWhile_imp mem
    simp only [Parser.isBlank, Bool.or_eq_true, beq_iff_eq] at blank
    rcases blank with ((rfl | rfl) | rfl) | rfl <;> decide
  cases here : Parser.skipBlanks s with
  | nil => rw [here] at found; cases found
  | cons c rest =>
    rw [here] at found split
    refine ⟨?_, nofun⟩
    have plain : ¬ isBlank c = true := fun blank =>
      Parser.valueRound_blank _ blank rest _ found
    rw [← split, trimStart, List.dropWhile_append_of_pos front, List.dropWhile_cons_of_neg plain]

/-- The text of an object begins with a brace. -/
theorem head?_trimStart_of_parse? {s : List Char} {members : Members}
    (h : parse? (String.ofList s) = some (.object members)) :
    (trimStart s).head? = some '{' := by
  obtain ⟨begins, nonempty⟩ := trimStart_of_parse? h
  obtain ⟨left, found, -⟩ := (parse?_eq_some_iff _ _).mp h
  rw [String.toList_ofList, Parser.value_eq] at found
  rw [begins]
  cases here : Parser.skipBlanks s with
  | nil => exact (nonempty here).elim
  | cons c rest =>
    rw [here] at found
    rw [Parser.eq_of_valueRound_object found]
    rfl

/-- **A value stays the same when its text is trimmed.** -/
theorem parse?_trim {s : List Char} {v : Json} (h : parse? (String.ofList s) = some v) :
    parse? (String.ofList (trim s)) = some v := by
  obtain ⟨begins, -⟩ := trimStart_of_parse? h
  obtain ⟨left, found, ended⟩ := (parse?_eq_some_iff _ v).mp h
  have split : trim s ++ (Parser.skipBlanks s).rtakeWhile isBlank = Parser.skipBlanks s := by
    rw [trim, begins]
    exact List.rdropWhile_append_rtakeWhile ..
  have behind : Blanks ((Parser.skipBlanks s).rtakeWhile isBlank) :=
    fun c mem => List.mem_rtakeWhile_imp mem
  rw [parse?_eq_some_iff]
  rw [String.toList_ofList] at found ⊢
  have skipped : Parser.value nestingLimit (Parser.skipBlanks s) = .ok (v, left) := by
    rw [← found, Parser.value_eq, Parser.value_eq, Parser.skipBlanks_skipBlanks]
  rw [← split] at skipped
  obtain ⟨left, rfl, -, same⟩ := (Parser.clips_value _ _ behind _).spared v _ skipped
  refine ⟨left, same, ?_⟩
  rw [Parser.skipBlanks, List.dropWhile_eq_nil_iff] at ended ⊢
  exact fun c mem => ended c (List.mem_append_left _ mem)

end Json

end UiStream
