import UiStream.Patch.Apply
import UiStream.Proofs.Pointer.Written

/-!
# Writes and the check in front of them

Before a write changes anything, its pointer is checked against the document as it is, and then the
write goes its way through containers that it may have to make first.  The check is right about this
way (`Json.writes_as_checked`): a write fails just at the first token that has a `Fault`, and one
that does not fail goes by the rules of `Leaves`.

`grounds` is what the check sees: for each token the array, the object or the bare place that the
old document has for it.  `Leaves` is what the write does, token by token: in which container the
token acts (`Acts`), which index it stands for there (`Names`), and what is left in the container's
place.  No rule lets a token that is no index act on an array, but for the append token, and none
lets an array grow by more than one item behind the padding.

Both are shown to be the functions, by induction on the tokens: `checkWritable_eq_error_iff` and
`leaves_iff`.
-/

namespace UiStream

namespace Pointer

/-! ## What the check sees -/

/-- What a token finds: an array of some length, an object, or a bare place, where there is nothing
or nothing that has places in it. -/
inductive Ground where
  | array (length : Nat)
  | object
  | bare
deriving DecidableEq, Repr

/-- The ground that a value is. -/
def Ground.of : Option Json → Ground
  | some (.array items) => .array items.length
  | some (.object _) => .object
  | _ => .bare

/-- The tokens, each with what it finds. -/
def grounds : List String → Option Json → List (String × Ground)
  | [], _ => []
  | token :: rest, found => (token, .of found) :: grounds rest (found.bind (Json.child? token))

/-- What is wrong with a token where it is applied: an array takes no other token than an index that
is not too far behind its end, and the append token, and a number is an index of the array that it
asks for. -/
inductive Fault (pointer : String) : String × Ground → PointerError → Prop
  | notIndex {token : String} {length : Nat} (fixed : token ≠ append)
      (unfit : index? token = none) :
      Fault pointer (token, .array length) (.invalidIndex pointer token)
  | far {token : String} {i length : Nat} (index : index? token = some i)
      (far : length + maxPadding < i) :
      Fault pointer (token, .array length) (.indexOutOfRange pointer i)
  | tooLarge {token : String} (numeric : isNumeric token = true) (unfit : index? token = none) :
      Fault pointer (token, .bare) (.invalidIndex pointer token)
  | farInNew {token : String} {i : Nat} (index : index? token = some i) (far : maxPadding < i) :
      Fault pointer (token, .bare) (.indexOutOfRange pointer i)

/-- The first fault of tokens. -/
inductive FirstFault (pointer : String) : List (String × Ground) → PointerError → Prop
  | here {visit : String × Ground} {rest : List (String × Ground)} {error : PointerError}
      (fault : Fault pointer visit error) : FirstFault pointer (visit :: rest) error
  | behind {visit : String × Ground} {rest : List (String × Ground)} {error : PointerError}
      (sound : ∀ other, ¬ Fault pointer visit other) (first : FirstFault pointer rest error) :
      FirstFault pointer (visit :: rest) error

/-- There is a first fault if there is any. -/
theorem exists_firstFault_iff {pointer : String} {visits : List (String × Ground)} :
    (∃ error, FirstFault pointer visits error) ↔
      ∃ visit ∈ visits, ∃ error, Fault pointer visit error := by
  induction visits with
  | nil =>
    constructor
    · rintro ⟨_, ⟨⟩⟩
    · rintro ⟨_, ⟨⟩, _⟩
  | cons visit rest ih =>
    constructor
    · rintro ⟨error, fault | ⟨-, first⟩⟩
      · exact ⟨visit, .head _, error, fault⟩
      · obtain ⟨other, among, faults⟩ := ih.mp ⟨error, first⟩
        exact ⟨other, .tail _ among, faults⟩
    · rintro ⟨other, among, faults⟩
      by_cases faulty : ∃ error, Fault pointer visit error
      · obtain ⟨error, fault⟩ := faulty
        exact ⟨error, .here fault⟩
      · obtain rfl | among := List.mem_cons.mp among
        · exact absurd faults faulty
        · obtain ⟨error, first⟩ := ih.mpr ⟨other, among, faults⟩
          exact ⟨error, .behind (fun e fault => faulty ⟨e, fault⟩) first⟩

section Check

variable {pointer token : String} {found : Option Json}

/-- The check of one token. -/
def checkGround (pointer token : String) : Ground → Except PointerError Unit
  | .array length => checkIndex pointer token length
  | .object => .ok ()
  | .bare => if isNumeric token then checkIndex pointer token 0 else .ok ()

theorem checkWritable_ground (pointer token : String) (rest : List String) (found : Option Json) :
    checkWritable pointer (token :: rest) found = (do
      checkGround pointer token (.of found)
      checkWritable pointer rest (found.bind (Json.child? token))) := by
  have bare : checkWritable pointer (token :: rest) none = (do
      checkGround pointer token .bare
      checkWritable pointer rest none) := by
    cases numeric : isNumeric token with
    | true => simp [checkWritable, checkGround, numeric]
    | false =>
      simp [checkWritable, checkGround, numeric]
      rfl
  cases found with
  | none => exact bare
  | some doc =>
    cases doc with
    | array items => rfl
    | object members => rfl
    | null | bool | number | string => exact bare

/-- What speaks against a token where there is an array. -/
theorem checkIndex_eq_error_iff {length : Nat} {error : PointerError} :
    checkIndex pointer token length = .error error ↔
      token ≠ append ∧ index? token = none ∧ error = .invalidIndex pointer token ∨
        ∃ i, index? token = some i ∧ length + maxPadding < i ∧
          error = .indexOutOfRange pointer i := by
  rw [checkIndex]
  split
  · next same => simp [same, index?_append]
  · next fixed =>
    cases index? token with
    | none => simp [fixed, eq_comm]
    | some i =>
      by_cases far : length + maxPadding < i
      · simp [far, eq_comm]
      · simp [far]

theorem isNumeric_of_index? {i : Nat} (index : index? token = some i) :
    isNumeric token = true := by
  rw [index?] at index
  split at index
  · next both => exact (Bool.and_eq_true_iff.mp both).1
  · cases index

theorem ne_append_of_isNumeric (numeric : isNumeric token = true) : token ≠ append := by
  rintro rfl
  cases numeric

/-- The check of one token finds its fault. -/
theorem checkGround_eq_error_iff {ground : Ground} {error : PointerError} :
    checkGround pointer token ground = .error error ↔ Fault pointer (token, ground) error := by
  cases ground with
  | array length =>
    rw [checkGround, checkIndex_eq_error_iff]
    constructor
    · rintro (⟨fixed, unfit, rfl⟩ | ⟨i, index, far, rfl⟩)
      · exact .notIndex fixed unfit
      · exact .far index far
    · rintro (⟨fixed, unfit⟩ | ⟨index, far⟩)
      · exact .inl ⟨fixed, unfit, rfl⟩
      · exact .inr ⟨_, index, far, rfl⟩
  | object => exact ⟨fun h => (by cases h), fun h => (by cases h)⟩
  | bare =>
    rw [checkGround]
    constructor
    · intro h
      split at h
      · next numeric =>
        obtain ⟨-, unfit, rfl⟩ | ⟨i, index, far, rfl⟩ := checkIndex_eq_error_iff.mp h
        · exact .tooLarge numeric unfit
        · exact .farInNew index (by omega)
      · cases h
    · rintro (_ | _ | ⟨numeric, unfit⟩ | ⟨index, far⟩)
      · rw [if_pos numeric]
        exact checkIndex_eq_error_iff.mpr (.inl ⟨ne_append_of_isNumeric numeric, unfit, rfl⟩)
      · rw [if_pos (isNumeric_of_index? index)]
        exact checkIndex_eq_error_iff.mpr (.inr ⟨_, index, by omega, rfl⟩)

theorem checkGround_eq_ok_iff {ground : Ground} :
    checkGround pointer token ground = .ok () ↔ ∀ error, ¬ Fault pointer (token, ground) error := by
  constructor
  · intro sound error fault
    rw [checkGround_eq_error_iff.mpr fault] at sound
    cases sound
  · intro sound
    cases checked : checkGround pointer token ground with
    | ok _ => rfl
    | error e => exact absurd (checkGround_eq_error_iff.mp checked) (sound e)

/-- The check finds the first fault. -/
theorem checkWritable_eq_error_iff {tokens : List String} {error : PointerError} :
    checkWritable pointer tokens found = .error error ↔
      FirstFault pointer (grounds tokens found) error := by
  induction tokens generalizing found with
  | nil => exact ⟨fun h => (by rw [checkWritable] at h; cases h), fun h => (by cases h)⟩
  | cons token rest ih =>
    rw [checkWritable_ground, grounds]
    cases checked : checkGround pointer token (.of found) with
    | error e =>
      have fault := checkGround_eq_error_iff.mp checked
      constructor
      · rintro ⟨⟩
        exact .here fault
      · rintro (fault' | ⟨sound, -⟩)
        · rw [checkGround_eq_error_iff.mpr fault'] at checked
          exact checked.symm
        · exact absurd fault (sound e)
    | ok _ =>
      have sound := checkGround_eq_ok_iff.mp checked
      refine ih.trans ⟨.behind sound, ?_⟩
      rintro (fault | ⟨-, first⟩)
      · exact absurd fault (sound error)
      · exact first

end Check

/-! ## What the write does -/

/-- The index that a token stands for in an array of some length. -/
inductive Names (token : String) (length : Nat) : Nat → Prop
  | index {i : Nat} (index : index? token = some i) (near : i ≤ length + maxPadding) :
      Names token length i
  | behind (last : token = append) : Names token length length

/-- The container in which a token acts: the array or object that it finds, or an empty one that is
made on bare ground, an array if the token asks for one. -/
inductive Acts (token : String) : Option Json → Json → Prop
  | array (items : List Json) : Acts token (some (.array items)) (.array items)
  | object (members : Members) : Acts token (some (.object members)) (.object members)
  | newArray {found : Option Json} (bare : Ground.of found = .bare)
      (asks : isArrayToken token = true) : Acts token found (.array [])
  | newObject {found : Option Json} (bare : Ground.of found = .bare)
      (asks : isArrayToken token = false) : Acts token found (.object [])

/-- What a write leaves of what tokens find.  `last` is what the last token may do to the items of
an array. -/
inductive Leaves (last : String → List Json → List Json → Prop) (value : Json) :
    List String → Option Json → Json → Prop
  | value {found : Option Json} : Leaves last value [] found value
  | lastItem {token : String} {found : Option Json} {items left : List Json}
      (acts : Acts token found (.array items)) (done : last token items left)
      (grown : left.length ≤ items.length + (maxPadding + 1)) :
      Leaves last value [token] found (.array left)
  | item {token : String} {rest : List String} {found : Option Json} {items left : List Json}
      {i : Nat} {inner : Json} (acts : Acts token found (.array items)) (more : rest ≠ [])
      (names : Names token items.length i)
      (leaves : Leaves last value rest (found.bind (Json.child? token)) inner)
      (put : left = (padTo (i + 1) items).set i inner)
      (grown : left.length ≤ items.length + (maxPadding + 1)) :
      Leaves last value (token :: rest) found (.array left)
  | member {token : String} {rest : List String} {found : Option Json} {members : Members}
      {inner : Json} (acts : Acts token found (.object members))
      (leaves : Leaves last value rest (found.bind (Json.child? token)) inner) :
      Leaves last value (token :: rest) found (.object (Members.insert token inner members))

/-- The last token puts the value in the place of its index, behind `null`s if that is past the
end. -/
def Overwrites (value : Json) (token : String) (items left : List Json) : Prop :=
  ∃ i, Names token items.length i ∧ left = (padTo (i + 1) items).set i value

/-- The last token inserts the value at its index, or at the end if the index is past it. -/
def Inserts (value : Json) (token : String) (items left : List Json) : Prop :=
  ∃ i, Names token items.length i ∧ left = items.insertIdx (min i items.length) value

section Write

variable {token : String} {found : Option Json} {doc : Json} {items : List Json}

theorem Names.slot_eq {length i : Nat} (names : Names token length i) : slot token length = i := by
  cases names with
  | index index => rw [slot, index]; rfl
  | behind last => rw [slot, last, index?_append]; rfl

theorem exists_names_iff {length : Nat} (pointer : String) :
    (∃ i, Names token length i) ↔ checkIndex pointer token length = .ok () := by
  by_cases last : token = append
  · exact ⟨fun _ => if_pos last, fun _ => ⟨length, .behind last⟩⟩
  · rw [checkIndex_eq_ok_iff last]
    constructor
    · rintro ⟨i, ⟨index, near⟩ | same⟩
      · exact ⟨i, index, near⟩
      · exact absurd same last
    · rintro ⟨i, index, near⟩
      exact ⟨i, .index index near⟩

/-- What a value is as ground. -/
theorem ground_cases (found : Option Json) :
    (∃ items, found = some (.array items)) ∨ (∃ members, found = some (.object members)) ∨
      Ground.of found = .bare := by
  cases found with
  | none => exact .inr (.inr rfl)
  | some doc =>
    cases doc with
    | array items => exact .inl ⟨items, rfl⟩
    | object members => exact .inr (.inl ⟨members, rfl⟩)
    | null | bool | number | string => exact .inr (.inr rfl)

/-- On bare ground a token gets the container that it asks for. -/
theorem vivify_bare (bare : Ground.of found = .bare) (token : String) :
    vivify token (found.getD .null) =
      if isArrayToken token then .array [] else .object [] := by
  match found with
  | some (.array items) => cases bare
  | some (.object members) => cases bare
  | none | some .null | some (.bool _) | some (.number _) | some (.string _) => rfl

theorem acts_iff {container : Json} :
    Acts token found container ↔ vivify token (found.getD .null) = container := by
  constructor
  · rintro (_ | _ | ⟨bare, asks⟩ | ⟨bare, asks⟩)
    · rfl
    · rfl
    · rw [vivify_bare bare, asks]; rfl
    · rw [vivify_bare bare, asks]; rfl
  · rintro rfl
    obtain ⟨items, rfl⟩ | ⟨members, rfl⟩ | bare := ground_cases found
    · exact .array items
    · exact .object members
    · rw [vivify_bare bare]
      cases asks : isArrayToken token with
      | true => exact .newArray bare asks
      | false => exact .newObject bare asks

/-- The check of a token asks for an index of the array in which it acts, if it acts in one. -/
theorem checkGround_eq_ok_iff_names (pointer : String) :
    checkGround pointer token (.of found) = .ok () ↔
      ∀ items, Acts token found (.array items) → ∃ i, Names token items.length i := by
  simp only [exists_names_iff pointer]
  constructor
  · intro sound items acts
    cases acts with
    | array => exact sound
    | newArray bare asks =>
      rw [bare, checkGround] at sound
      split at sound
      · exact sound
      · next other =>
        have last : token = append := by simpa [isArrayToken, other] using asks
        exact if_pos last
  · intro named
    obtain ⟨items, rfl⟩ | ⟨members, rfl⟩ | bare := ground_cases found
    · exact named items (.array items)
    · rfl
    · rw [bare, checkGround]
      split
      · next numeric =>
        have asks : isArrayToken token = true := by simp [isArrayToken, numeric]
        exact named [] (.newArray bare asks)
      · rfl

/-- A token acts in one container. -/
theorem Acts.unique {container other : Json} (acts : Acts token found container)
    (acts' : Acts token found other) : container = other :=
  (acts_iff.mp acts).symm.trans (acts_iff.mp acts')

/-- A token that names an index of one array in which it acts does so of all. -/
theorem Acts.named (acts : Acts token found (.array items))
    (named : ∃ i, Names token items.length i) (other : List Json)
    (acts' : Acts token found (.array other)) : ∃ i, Names token other.length i := by
  cases acts.unique acts'
  exact named

/-- What a token and those behind it may write. -/
theorem checkWritable_cons_eq_ok_iff {pointer : String} {rest : List String} :
    checkWritable pointer (token :: rest) found = .ok () ↔
      (∀ items, Acts token found (.array items) → ∃ i, Names token items.length i) ∧
        checkWritable pointer rest (found.bind (Json.child? token)) = .ok () := by
  rw [← checkGround_eq_ok_iff_names pointer, checkWritable_ground]
  cases checkGround pointer token (.of found) with
  | ok _ => exact ⟨fun h => ⟨rfl, h⟩, And.right⟩
  | error e => exact ⟨fun h => (by cases h), fun h => (by cases h.1)⟩

theorem under_getD (token : String) (found : Option Json) :
    (found.getD .null).under token = (found.bind (Json.child? token)).getD .null := by
  cases found <;> rfl

/-- A write past a token of an object sets the member, whatever tokens come after it. -/
theorem writeTokens_object {place : String → Json → List Json → List Json} {members : Members}
    (made : vivify token doc = .object members) (value : Json) (rest : List String) :
    writeTokens place value (token :: rest) doc =
      .object (Members.insert token (writeTokens place value rest (doc.under token)) members) := by
  cases rest with
  | nil =>
    have whole : writeTokens place value [] (doc.under token) = value := by rw [writeTokens]
    rw [whole, writeTokens, made]
  | cons next rest =>
    rw [writeTokens_cons place value (List.cons_ne_nil next rest), put_object made]

/-- A write past a token of an array puts what it makes of the item at the index. -/
theorem writeTokens_array {place : String → Json → List Json → List Json} {i : Nat}
    (made : vivify token doc = .array items) (names : Names token items.length i) (value : Json)
    {rest : List String} (more : rest ≠ []) :
    writeTokens place value (token :: rest) doc =
      .array ((padTo (i + 1) items).set i (writeTokens place value rest (doc.under token))) := by
  rw [writeTokens_cons place value more, put_array made, names.slot_eq]

/-- An array grows by one item at most behind the padding. -/
theorem Names.length_le {i : Nat} (names : Names token items.length i) (inner : Json) :
    ((padTo (i + 1) items).set i inner).length ≤ items.length + (maxPadding + 1) := by
  have near : i ≤ items.length + maxPadding := by
    cases names with
    | index _ near => exact near
    | behind => exact Nat.le_add_right ..
  rw [List.length_set, padTo, List.length_append, List.length_replicate]
  omega

end Write

/-- What the last token may do to an array is what `place` does, and an array that it may act on
does not grow by much. -/
structure Describes (place : String → Json → List Json → List Json) (value : Json)
    (last : String → List Json → List Json → Prop) : Prop where
  iff (token : String) (items left : List Json) :
    last token items left ↔ (∃ i, Names token items.length i) ∧ place token value items = left
  grown {token : String} {items left : List Json} (done : last token items left) :
    left.length ≤ items.length + (maxPadding + 1)

section Leaves

variable {place : String → Json → List Json → List Json} {value : Json}
  {last : String → List Json → List Json → Prop}

/-- A write that the check lets through goes by the rules, and no other does. -/
theorem leaves_iff (describes : Describes place value last) (pointer : String)
    {tokens : List String} {found : Option Json} {left : Json} :
    Leaves last value tokens found left ↔
      checkWritable pointer tokens found = .ok () ∧
        writeTokens place value tokens (found.getD .null) = left := by
  induction tokens generalizing found left with
  | nil =>
    rw [checkWritable, writeTokens]
    exact ⟨fun h => (by cases h; exact ⟨rfl, rfl⟩), fun h => h.2 ▸ .value⟩
  | cons token rest ih =>
    rw [checkWritable_cons_eq_ok_iff]
    constructor
    · rintro (_ | ⟨acts, done, -⟩ | ⟨acts, more, names, leaves, rfl, -⟩ | ⟨acts, leaves⟩)
      · obtain ⟨named, rfl⟩ := (describes.iff token _ _).mp done
        refine ⟨⟨acts.named named, rfl⟩, ?_⟩
        rw [writeTokens, acts_iff.mp acts]
      · obtain ⟨writable, rfl⟩ := ih.mp leaves
        refine ⟨⟨acts.named ⟨_, names⟩, writable⟩, ?_⟩
        rw [writeTokens_array (acts_iff.mp acts) names value more, under_getD]
      · obtain ⟨writable, rfl⟩ := ih.mp leaves
        refine ⟨⟨fun items array => (by cases acts.unique array), writable⟩, ?_⟩
        rw [writeTokens_object (acts_iff.mp acts), under_getD]
    · rintro ⟨⟨named, writable⟩, rfl⟩
      have leaves := ih.mpr ⟨writable, rfl⟩
      rw [← under_getD] at leaves
      obtain ⟨items, made, -⟩ | ⟨members, made, -⟩ := vivify_cases token (found.getD .null)
      · have acts := acts_iff.mpr made
        obtain ⟨i, names⟩ := named items acts
        by_cases more : rest = []
        · subst more
          have done := (describes.iff token items _).mpr ⟨⟨i, names⟩, rfl⟩
          rw [writeTokens, made]
          exact .lastItem acts done (describes.grown done)
        · rw [writeTokens_array made names value more]
          exact .item acts more names leaves rfl (names.length_le _)
      · rw [writeTokens_object made]
        exact .member (acts_iff.mpr made) leaves

/-- Setting the last token overwrites. -/
theorem describes_setItem (value : Json) : Describes setItem value (Overwrites value) where
  iff token items left := by
    constructor
    · rintro ⟨i, names, rfl⟩
      rw [setItem_eq_set, names.slot_eq]
      exact ⟨⟨i, names⟩, rfl⟩
    · rintro ⟨⟨i, names⟩, rfl⟩
      refine ⟨i, names, ?_⟩
      rw [setItem_eq_set, names.slot_eq]
  grown done := by
    obtain ⟨i, names, rfl⟩ := done
    exact names.length_le value

/-- An item is added at its index, or at the end. -/
theorem addItem_eq_insertIdx (token : String) (value : Json) (items : List Json) :
    addItem token value items =
      items.insertIdx (min (slot token items.length) items.length) value := by
  have last : items ++ [value] = items.insertIdx items.length value :=
    List.insertIdx_length_self.symm
  rw [addItem, slot]
  cases index? token with
  | none =>
    rw [Option.getD_none, Nat.min_self]
    exact last
  | some i =>
    dsimp only [Option.getD_some]
    split
    · next inside => rw [Nat.min_eq_left inside]
    · next outside => rw [Nat.min_eq_right (by omega), last]

/-- Adding at the last token inserts. -/
theorem describes_addItem (value : Json) : Describes addItem value (Inserts value) where
  iff token items left := by
    constructor
    · rintro ⟨i, names, rfl⟩
      rw [addItem_eq_insertIdx, names.slot_eq]
      exact ⟨⟨i, names⟩, rfl⟩
    · rintro ⟨⟨i, names⟩, rfl⟩
      refine ⟨i, names, ?_⟩
      rw [addItem_eq_insertIdx, names.slot_eq]
  grown done := by
    obtain ⟨i, names, rfl⟩ := done
    rw [List.length_insertIdx_of_le_length (Nat.min_le_right ..)]
    omega

end Leaves

/-! ## Writes -/

/-- What became of a write at a pointer is what the check says.  `last` is what the last token may
do to the items of an array. -/
structure GoesAsChecked (pointer : String) (doc value : Json)
    (last : String → List Json → List Json → Prop) (written : Except PointerError Json) : Prop where
  /-- It fails if a token has a fault. -/
  fails : (∃ error, written = .error error) ↔
    ∃ visit ∈ grounds (tokens pointer) (some doc), ∃ error, Fault pointer visit error
  /-- The error is the first fault. -/
  error (error : PointerError) : written = .error error ↔
    FirstFault pointer (grounds (tokens pointer) (some doc)) error
  /-- If it succeeds, every token did what its rule says. -/
  ok (after : Json) : written = .ok after ↔ Leaves last value (tokens pointer) (some doc) after

/-- A walk that starts with the check goes as checked. -/
theorem goesAsChecked {place : String → Json → List Json → List Json} {value : Json}
    {last : String → List Json → List Json → Prop} (describes : Describes place value last)
    (pointer : String) (doc : Json) :
    GoesAsChecked pointer doc value last (do
      checkWritable pointer (tokens pointer) (some doc)
      return writeTokens place value (tokens pointer) doc) := by
  have first (error : PointerError) :
      (do checkWritable pointer (tokens pointer) (some doc)
          return writeTokens place value (tokens pointer) doc) = Except.error error ↔
        FirstFault pointer (grounds (tokens pointer) (some doc)) error := by
    rw [← checkWritable_eq_error_iff]
    cases checkWritable pointer (tokens pointer) (some doc) <;>
      simp [bind, Except.bind, pure, Except.pure]
  refine ⟨(exists_congr first).trans exists_firstFault_iff, first, fun after => ?_⟩
  rw [leaves_iff describes pointer]
  cases checkWritable pointer (tokens pointer) (some doc) <;>
    simp [bind, Except.bind, pure, Except.pure]

end Pointer

open Pointer

namespace Json

variable (doc value : Json) (pointer : String)

/-- Adding a value is a walk that starts with the check, as setting one is. -/
theorem addAt_eq_checked : doc.addAt pointer value = (do
    checkWritable pointer (tokens pointer) (some doc)
    return writeTokens addItem value (tokens pointer) doc) := by
  unfold addAt
  cases tokens pointer with
  | nil => rw [checkWritable, writeTokens]; rfl
  | cons token rest => rfl

/-- Writes go as their check says: one fails with its first fault, and then the document stays as it
is, and one that has none goes by the rules. -/
theorem writes_as_checked :
    GoesAsChecked pointer doc value (Overwrites value) (doc.setAt pointer value) ∧
      GoesAsChecked pointer doc value (Inserts value) (doc.addAt pointer value) ∧
      (∀ error, (Patch.replace pointer value).apply doc = .failed doc (.pointer error) ↔
        FirstFault pointer (grounds (tokens pointer) (some doc)) error) ∧
      ∀ error, (Patch.add pointer value).apply doc = .failed doc (.pointer error) ↔
        FirstFault pointer (grounds (tokens pointer) (some doc)) error := by
  have sets : GoesAsChecked pointer doc value (Overwrites value) (doc.setAt pointer value) := by
    rw [setAt_eq_checked]
    exact goesAsChecked (describes_setItem value) pointer doc
  have adds : GoesAsChecked pointer doc value (Inserts value) (doc.addAt pointer value) := by
    rw [addAt_eq_checked]
    exact goesAsChecked (describes_addItem value) pointer doc
  have unchanged (written : Except PointerError Json) (error : PointerError) :
      Applied.ofWrite doc written = .failed doc (.pointer error) ↔ written = .error error := by
    cases written <;> simp [Applied.ofWrite, Applied.done, Applied.failed]
  exact ⟨sets, adds, fun error => (unchanged _ error).trans (sets.error error),
    fun error => (unchanged _ error).trans (adds.error error)⟩

end Json

end UiStream
