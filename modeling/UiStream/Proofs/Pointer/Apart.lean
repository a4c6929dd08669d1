import UiStream.Proofs.Pointer.Passing

/-!
# Changes in different places

Two lists of tokens are `Apart` if they part at two keys of one object.  A change at the one neither
sees nor touches what is at the other: whether it can be made does not depend on the other change
(`Change.check_run`), and it does not matter which comes first (`Change.run_comm`).

Both are shown by following the tokens that are shared.  Where one change has passed a token, the
other can pass as well and finds what the first has left there (`Change.reaches_put`,
`Passable.under_put`), so that under the token the same question arises about the values there.
Where the tokens part, the two change members of one object under different keys.
-/

namespace UiStream

open Json (Alike alike_self)

namespace Pointer

/-- The tokens part at two keys of one object. -/
inductive Apart : List String → List String → Prop
  | here {key other : String} {rest more : List String} (differ : key ≠ other)
      (named : isArrayToken key = false) (named' : isArrayToken other = false) :
      Apart (key :: rest) (other :: more)
  | deeper {token : String} {rest more : List String} (fixed : token ≠ append)
      (apart : Apart rest more) : Apart (token :: rest) (token :: more)

theorem Apart.symm {a b : List String} (h : Apart a b) : Apart b a := by
  induction h with
  | here differ named named' => exact .here differ.symm named' named
  | deeper fixed _ ih => exact .deeper fixed ih

/-- Tokens that part lead somewhere. -/
theorem Apart.ne_nil {a b : List String} (h : Apart a b) : a ≠ [] := by
  cases h <;> exact List.cons_ne_nil _ _

/-! ## Changes -/

/-- A change at the end of tokens: a value is written, in an array as `place` says, or what is there
is taken away. -/
inductive Change where
  | write (place : String → Json → List Json → List Json) (value : Json)
  | erase

namespace Change

/-- What speaks against a change. -/
def check (change : Change) (pointer : String) (tokens : List String) (doc : Json) :
    Except PointerError Unit :=
  match change with
  | write _ _ => checkWritable pointer tokens (some doc)
  | erase => .ok ()

/-- The document after a change. -/
def run (change : Change) (tokens : List String) (doc : Json) : Json :=
  match change with
  | write place value => writeTokens place value tokens doc
  | erase => ((removeTokens? tokens doc).map (·.2)).getD doc

/-- A change goes on below a token: a write always does, a removal if something is there. -/
def Reaches (change : Change) (token : String) (doc : Json) : Prop :=
  match change with
  | write _ _ => True
  | erase => (doc.child? token).isSome = true

/-- A change keeps documents alike, and its value repeats no keys. -/
def Respectful (change : Change) : Prop :=
  match change with
  | write place value => Pointer.Respectful place ∧ value.Distinct
  | erase => True

section Below

variable {change : Change} {token pointer : String} {rest : List String} {doc : Json}

/-- Where a change goes on, the token can be passed. -/
theorem Reaches.passable (reaches : change.Reaches token doc) (fixed : token ≠ append)
    (checked : change.check pointer (token :: rest) doc = .ok ()) : Passable token doc := by
  cases change with
  | write place value => exact passable_of_checkWritable fixed checked
  | erase =>
    obtain ⟨inner, found⟩ := Option.isSome_iff_exists.mp reaches
    exact passable_of_child? found

/-- What speaks against a change past a token speaks against it under the token. -/
theorem check_cons (passable : Passable token doc) (fixed : token ≠ append) :
    change.check pointer (token :: rest) doc = change.check pointer rest (doc.under token) := by
  cases change with
  | write place value => exact passable.checkWritable fixed pointer rest
  | erase => rfl

/-- A change goes on where something was put. -/
theorem reaches_put (passable : Passable token doc) (value : Json) :
    change.Reaches token (put token value doc) := by
  cases change with
  | write place value => exact trivial
  | erase => rw [Reaches, passable.child?_put]; rfl

/-- A change that goes on below a token puts there what it makes of the value there. -/
theorem run_cons (reaches : change.Reaches token doc) (passable : Passable token doc)
    (more : rest ≠ []) :
    change.run (token :: rest) doc = put token (change.run rest (doc.under token)) doc := by
  cases change with
  | write place value => exact writeTokens_cons place value more token doc
  | erase =>
    obtain ⟨inner, found⟩ := Option.isSome_iff_exists.mp reaches
    have under : doc.under token = inner := by rw [Json.under, found]; rfl
    obtain ⟨next, rest, rfl⟩ := List.exists_cons_of_ne_nil more
    rw [under, run, run]
    cases doc with
    | array items =>
      obtain ⟨i, place, found⟩ := Option.bind_eq_some_iff.mp found
      obtain ⟨inside, same⟩ := List.getElem?_eq_some_iff.mp found
      rw [removeTokens?, place, Option.bind_some, found, Option.bind_some, put, vivify]
      simp only [slot, place, Option.getD_some, padTo_of_le (Nat.succ_le_of_lt inside)]
      cases removeTokens? (next :: rest) inner with
      | none => simp [← same]
      | some taken => rfl
    | object members =>
      rw [Json.child?] at found
      rw [removeTokens?, found, Option.bind_some, put, vivify]
      dsimp only
      cases removeTokens? (next :: rest) inner with
      | none => simp [Members.insert_of_find? found]
      | some taken => rfl
    | null | bool | number | string => cases found

/-- A change that does not go on below a token does nothing. -/
theorem run_of_not_reaches (stuck : ¬ change.Reaches token doc) (rest : List String) :
    change.run (token :: rest) doc = doc := by
  cases change with
  | write place value => exact absurd trivial stuck
  | erase =>
    have absent : doc.child? token = none := Option.not_isSome_iff_eq_none.mp stuck
    rw [run, removeTokens?_of_child? absent]
    rfl

/-- A change that does not go on below a token would do nothing there. -/
theorem run_under_of_not_reaches (stuck : ¬ change.Reaches token doc) (more : rest ≠ []) :
    change.run rest (doc.under token) = doc.under token := by
  cases change with
  | write place value => exact absurd trivial stuck
  | erase =>
    have absent : doc.child? token = none := Option.not_isSome_iff_eq_none.mp stuck
    have under : doc.under token = .null := by rw [Json.under, absent]; rfl
    obtain ⟨next, rest, rfl⟩ := List.exists_cons_of_ne_nil more
    have stuck : ¬ erase.Reaches next .null := Bool.false_ne_true
    rw [under, run_of_not_reaches stuck rest]

/-- Changes keep the keys of a document distinct. -/
theorem distinct_run (respectful : change.Respectful) (distinct : doc.Distinct)
    (tokens : List String) : (change.run tokens doc).Distinct := by
  have same := alike_self.mpr distinct
  cases change with
  | write place value =>
    have value := alike_self.mpr respectful.2
    exact (writeTokens_alike respectful.1 value tokens same).distinct
  | erase =>
    rw [run]
    obtain ⟨absent, -⟩ | ⟨_, _, found, -, taken⟩ := (removeTokens?_alike tokens same).none_or_some
    · rw [absent]
      exact distinct
    · rw [found]
      exact taken.2.distinct

end Below

/-! ## Changes of an object -/

section Object

variable (change : Change) (key : String) (rest : List String)

/-- What a change leaves of a member, of which only what is below the key is changed. -/
def member (old : Option Json) : Option Json :=
  match change, rest with
  | write place value, rest => some (writeTokens place value rest (old.getD .null))
  | erase, [] => none
  | erase, rest => old.map (erase.run rest)

/-- What a change makes of the members of an object. -/
def onMembers (members : Members) : Members :=
  match change.member rest (Members.find? key members) with
  | some value => Members.insert key value members
  | none => Members.erase key members

/-- Nothing is removed from members without the key. -/
theorem onMembers_erase {members : Members} (absent : Members.find? key members = none) :
    erase.onMembers key rest members = members := by
  rw [onMembers, absent]
  cases rest <;> exact Members.erase_of_find?_none absent

/-- A change of an object changes its members. -/
theorem run_object (members : Members) :
    change.run (key :: rest) (.object members) = .object (change.onMembers key rest members) := by
  cases change with
  | write place value => cases rest <;> rfl
  | erase =>
    cases found : Members.find? key members with
    | none =>
      have absent : (Json.object members).child? key = none := found
      rw [run, removeTokens?_of_child? absent, onMembers_erase key rest found]
      rfl
    | some inner =>
      cases rest with
      | nil => rw [run, onMembers, removeTokens?, found]; rfl
      | cons next rest =>
        rw [run, onMembers, removeTokens?, found, Option.bind_some]
        dsimp only [member, Option.map_some]
        rw [run]
        cases removeTokens? (next :: rest) inner with
        | none => exact congrArg Json.object (Members.insert_of_find? found).symm
        | some taken => rfl

/-- A change of members keeps their keys distinct. -/
theorem nodup_onMembers {members : Members} (nodup : (Members.keys members).Nodup) :
    (Members.keys (change.onMembers key rest members)).Nodup := by
  unfold onMembers
  cases change.member rest (Members.find? key members) with
  | none => exact Members.nodup_erase nodup key
  | some value => exact Members.nodup_insert nodup key value

/-- A change of members changes the one under its key. -/
theorem find?_onMembers {members : Members} (nodup : (Members.keys members).Nodup)
    (other : String) :
    Members.find? other (change.onMembers key rest members) =
      if key = other then change.member rest (Members.find? key members)
      else Members.find? other members := by
  unfold onMembers
  cases change.member rest (Members.find? key members) with
  | none => exact Members.find?_erase nodup key other
  | some value => exact Members.find?_insert key other value members

end Object

/-! ## Keys -/

section Named

variable {change : Change} {key : String} {rest : List String} {doc : Json}

/-- The members that a value has as an object, or would have as one. -/
def membersOf (doc : Json) : Members := doc.members?.getD []

/-- A key is no append token. -/
theorem ne_append_of_named (named : isArrayToken key = false) : key ≠ append := by
  rintro rfl
  cases named

/-- A key makes an object of anything but an array. -/
theorem vivify_of_named (named : isArrayToken key = false) (object : ∀ items, doc ≠ .array items) :
    vivify key doc = .object (membersOf doc) := by
  cases doc with
  | array items => exact absurd rfl (object items)
  | object members => rfl
  | null | bool | number | string => simp [vivify, named, membersOf, Json.members?]

/-- A key leads past anything but an array. -/
theorem passable_iff_of_named (named : isArrayToken key = false) :
    Passable key doc ↔ ∀ items, doc ≠ .array items := by
  constructor
  · rintro passable items rfl
    obtain ⟨i, place, -⟩ := passable items rfl
    have numeric : isNumeric key = false := (Bool.or_eq_false_iff.mp named).2
    simp [index?, numeric] at place
  · intro object items made
    rw [vivify_of_named named object] at made
    cases made

/-- A key leads to the member. -/
theorem child?_of_named (object : ∀ items, doc ≠ .array items) (key : String) :
    doc.child? key = Members.find? key (membersOf doc) := by
  cases doc with
  | array items => exact absurd rfl (object items)
  | object members | null | bool | number | string => rfl

/-- A key leads to the value of the member. -/
theorem under_of_named (object : ∀ items, doc ≠ .array items) (key : String) :
    doc.under key = (Members.find? key (membersOf doc)).getD .null := by
  rw [Json.under, child?_of_named object]

theorem nodup_membersOf (distinct : doc.Distinct) : (Members.keys (membersOf doc)).Nodup := by
  cases doc with
  | object members => exact distinct.keys
  | array | null | bool | number | string => exact List.nodup_nil

/-- A change that goes on at a key changes the members. -/
theorem run_of_named (named : isArrayToken key = false) (object : ∀ items, doc ≠ .array items)
    (reaches : change.Reaches key doc) :
    change.run (key :: rest) doc = .object (change.onMembers key rest (membersOf doc)) := by
  rw [← run_object]
  cases change with
  | write place value =>
    have same : vivify key doc = vivify key (.object (membersOf doc)) :=
      vivify_of_named named object
    cases rest <;> simp only [run, writeTokens, same]
  | erase =>
    cases doc with
    | object members => rfl
    | array items => exact absurd rfl (object items)
    | null | bool | number | string => cases reaches

/-- A change that does not go on at a key would not change the members. -/
theorem onMembers_of_not_reaches (object : ∀ items, doc ≠ .array items)
    (stuck : ¬ change.Reaches key doc) (rest : List String) :
    change.onMembers key rest (membersOf doc) = membersOf doc := by
  cases change with
  | write place value => exact absurd trivial stuck
  | erase =>
    have absent : doc.child? key = none := Option.not_isSome_iff_eq_none.mp stuck
    rw [child?_of_named object] at absent
    exact onMembers_erase key rest absent

end Named

/-! ## Two changes -/

section Two

variable {change other : Change} {a b : List String} {doc : Json}

/-- Of two changes below a token of which one goes on there, the one makes something of what the
other has made. -/
theorem run_run_cons {token : String} (reaches : change.Reaches token doc)
    (passable : Passable token doc) (more : a ≠ []) (more' : b ≠ []) :
    change.run (token :: a) (other.run (token :: b) doc) =
        put token (change.run a (other.run b (doc.under token))) doc ∧
      other.run (token :: b) (change.run (token :: a) doc) =
        put token (other.run b (change.run a (doc.under token))) doc := by
  have again (value : Json) : Passable token (put token value doc) :=
    passable_of_child? (passable.child?_put value)
  have under (value : Json) := passable.under_put value
  have put (value old : Json) := passable.put_put value old
  constructor
  · by_cases onward : other.Reaches token doc
    · rw [run_cons onward passable more', run_cons (reaches_put passable _) (again _) more,
        under, put]
    · rw [run_of_not_reaches onward, run_under_of_not_reaches onward more',
        run_cons reaches passable more]
  · rw [run_cons reaches passable more, run_cons (reaches_put passable _) (again _) more', under,
      put]

/-- Of two changes at keys of which one goes on there, the one makes something of the members that
the other has made. -/
theorem run_run_of_named {key name : String} {rest more : List String}
    (named : isArrayToken key = false) (named' : isArrayToken name = false)
    (object : ∀ items, doc ≠ .array items) (reaches : change.Reaches key doc) :
    change.run (key :: rest) (other.run (name :: more) doc) =
        .object (change.onMembers key rest (other.onMembers name more (membersOf doc))) ∧
      other.run (name :: more) (change.run (key :: rest) doc) =
        .object (other.onMembers name more (change.onMembers key rest (membersOf doc))) := by
  constructor
  · by_cases onward : other.Reaches name doc
    · rw [run_of_named named' object onward, run_object]
    · rw [run_of_not_reaches onward, onMembers_of_not_reaches object onward,
        run_of_named named object reaches]
  · rw [run_of_named named object reaches, run_object]

/-- Two changes of members commute under different keys, but for the order of members. -/
theorem find?_onMembers_comm {key name : String} (differ : key ≠ name) (rest more : List String)
    {members : Members} (nodup : (Members.keys members).Nodup) (k : String) :
    Members.find? k (change.onMembers key rest (other.onMembers name more members)) =
      Members.find? k (other.onMembers name more (change.onMembers key rest members)) := by
  rw [find?_onMembers _ _ _ (nodup_onMembers _ _ _ nodup),
    find?_onMembers _ _ _ (nodup_onMembers _ _ _ nodup), find?_onMembers _ _ _ nodup,
    find?_onMembers _ _ _ nodup, find?_onMembers _ _ _ nodup, find?_onMembers _ _ _ nodup,
    if_neg differ, if_neg differ.symm]
  by_cases first : key = k
  · rw [if_pos first, if_pos first, if_neg (first ▸ differ.symm)]
  · rw [if_neg first, if_neg first]

/-- Whether a change can be made does not depend on another one elsewhere. -/
theorem check_run (apart : Apart a b) (pointer : String) {pointer' : String}
    (distinct : doc.Distinct) (allowed : other.check pointer' b doc = .ok ()) :
    change.check pointer a (other.run b doc) = change.check pointer a doc := by
  induction apart generalizing doc with
  | @deeper token rest more fixed apart ih =>
    by_cases onward : other.Reaches token doc
    · have passable := onward.passable fixed allowed
      have again := passable_of_child? (passable.child?_put (other.run more (doc.under token)))
      rw [check_cons passable fixed] at allowed
      rw [run_cons onward passable apart.symm.ne_nil, check_cons again fixed, passable.under_put,
        check_cons passable fixed]
      exact ih (distinct.under token) allowed
    · rw [run_of_not_reaches onward]
  | @here key name rest more differ named named' =>
    have fixed := ne_append_of_named named
    by_cases onward : other.Reaches name doc
    · have object := (passable_iff_of_named named').mp
        (onward.passable (ne_append_of_named named') allowed)
      have object' (items : List Json) :
          Json.object (other.onMembers name more (membersOf doc)) ≠ .array items := Json.noConfusion
      rw [run_of_named named' object onward,
        check_cons ((passable_iff_of_named named).mpr object') fixed,
        check_cons ((passable_iff_of_named named).mpr object) fixed, under_of_named object' key,
        under_of_named object key]
      exact congrArg (fun found => change.check pointer rest (found.getD .null))
        ((find?_onMembers other name more (nodup_membersOf distinct) key).trans
          (if_neg differ.symm))
    · rw [run_of_not_reaches onward]

/-- Two changes in different places can be made in any order. -/
theorem run_comm (apart : Apart a b) {pointer pointer' : String} (distinct : doc.Distinct)
    (respectful : change.Respectful) (respectful' : other.Respectful)
    (allowed : change.check pointer a doc = .ok ())
    (allowed' : other.check pointer' b doc = .ok ()) :
    Alike (change.run a (other.run b doc)) (other.run b (change.run a doc)) := by
  induction apart generalizing doc with
  | @deeper token rest more fixed apart ih =>
    by_cases onward : change.Reaches token doc ∨ other.Reaches token doc
    · have passable : Passable token doc :=
        onward.elim (·.passable fixed allowed) (·.passable fixed allowed')
      have below := ih (distinct.under token) (check_cons passable fixed ▸ allowed)
        (check_cons passable fixed ▸ allowed')
      obtain ⟨one, two⟩ :
          change.run (token :: rest) (other.run (token :: more) doc) =
              put token (change.run rest (other.run more (doc.under token))) doc ∧
            other.run (token :: more) (change.run (token :: rest) doc) =
              put token (other.run more (change.run rest (doc.under token))) doc := by
        rcases onward with onward | onward
        · exact run_run_cons onward passable apart.ne_nil apart.symm.ne_nil
        · exact (run_run_cons onward passable apart.symm.ne_nil apart.ne_nil).symm
      rw [one, two]
      exact passable.put_alike distinct below
    · obtain ⟨stuck, stuck'⟩ := not_or.mp onward
      rw [run_of_not_reaches stuck', run_of_not_reaches stuck, run_of_not_reaches stuck']
      exact alike_self.mpr distinct
  | @here key name rest more differ named named' =>
    by_cases onward : change.Reaches key doc ∨ other.Reaches name doc
    · have object : ∀ items, doc ≠ .array items := onward.elim
        (fun h => (passable_iff_of_named named).mp (h.passable (ne_append_of_named named) allowed))
        (fun h => (passable_iff_of_named named').mp
          (h.passable (ne_append_of_named named') allowed'))
      obtain ⟨one, two⟩ :
          change.run (key :: rest) (other.run (name :: more) doc) =
              .object (change.onMembers key rest (other.onMembers name more (membersOf doc))) ∧
            other.run (name :: more) (change.run (key :: rest) doc) =
              .object (other.onMembers name more (change.onMembers key rest (membersOf doc))) := by
        rcases onward with onward | onward
        · exact run_run_of_named named named' object onward
        · exact (run_run_of_named named' named object onward).symm
      have distinct₁ := distinct_run respectful (distinct_run respectful' distinct (name :: more))
        (key :: rest)
      have distinct₂ := distinct_run respectful' (distinct_run respectful distinct (key :: rest))
        (name :: more)
      rw [one] at distinct₁ ⊢
      rw [two] at distinct₂ ⊢
      exact Json.alike_of_find? distinct₁ distinct₂
        (find?_onMembers_comm differ rest more (nodup_membersOf distinct))
    · obtain ⟨stuck, stuck'⟩ := not_or.mp onward
      rw [run_of_not_reaches stuck', run_of_not_reaches stuck, run_of_not_reaches stuck']
      exact alike_self.mpr distinct

end Two

end Change
end Pointer
end UiStream
