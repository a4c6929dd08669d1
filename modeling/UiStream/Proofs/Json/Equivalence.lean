import UiStream.Proofs.Json.Alike
import UiStream.Proofs.Number.Rounding
import Mathlib.Data.List.Perm.Subperm

/-!
# Equality as an equivalence

The equality of values is reflexive and symmetric (`equal_refl`, `equal_comm`), which for objects
rests on distinct keys: only one of two objects is searched for the members of the other one.  It
is not transitive.  Two integers are compared exactly, and an integer with a double as doubles, so
that a double can be equal to two integers that are rounded to it (`Number.Rounded`).  Of three
values, each equal to the next, the outer two differ exactly where this happens in one place of them
(`equal_equivalence`).  It does not happen to integers up to `2 ^ 53` (`Json.Exact`).
-/

namespace UiStream

/-! ## Numbers -/

namespace Number

theorem numEq_refl (n : Number) : n.numEq n = true := by
  cases n <;> exact beq_self_eq_true _

theorem numEq_comm (a b : Number) : a.numEq b = b.numEq a := by
  cases a <;> cases b <;> exact BEq.comm

/-- Two integers that are one double, but not one integer. -/
inductive Rounded : Number → Number → Number → Prop
  | mk {m n : Int} (hm : Integral m) (hn : Integral n) {x : Double} (apart : m ≠ n)
      (left : (Double.ofInt m).numEq x = true) (right : x.numEq (Double.ofInt n) = true) :
      Rounded (.integer m hm) (.double x) (.integer n hn)

/-- The number is a double, or an integer that is small enough not to be rounded. -/
def Exact : Number → Prop
  | .integer n _ => n.natAbs ≤ 2 ^ 53
  | .double _ => True

theorem Rounded.numEq_eq_false {a b c : Number} (h : Rounded a b c) : a.numEq c = false := by
  obtain ⟨hm, hn, apart, -, -⟩ := h
  exact beq_false_of_ne apart

/-- Rounding is all that keeps the equality of numbers from being transitive. -/
theorem numEq_trans {a b c : Number} (ab : a.numEq b = true) (bc : b.numEq c = true)
    (exactly : ¬ Rounded a b c) : a.numEq c = true := by
  match a, b, c with
  | .integer m hm, .double x, .integer n hn =>
    exact beq_iff_eq.mpr (Classical.byContradiction fun apart => exactly (.mk hm hn apart ab bc))
  | .integer _ _, .integer _ _, _ =>
    cases eq_of_beq ab
    exact bc
  | .double _, .integer _ _, .integer _ _ =>
    cases eq_of_beq bc
    exact ab
  | .integer _ _, .double _, .double _ | .double _, .double _, .integer _ _
  | .double _, .integer _ _, .double _ | .double _, .double _, .double _ =>
    exact beq_iff_eq.mpr ((eq_of_beq ab).trans (eq_of_beq bc))

/-- Two integers that are small enough are not rounded to one double. -/
theorem not_rounded_of_exact {a b c : Number} (ha : a.Exact) (hc : c.Exact) :
    ¬ Rounded a b c := by
  rintro ⟨hm, hn, apart, left, right⟩
  exact apart (Double.ofInt_inj ha hc ((eq_of_beq left).trans (eq_of_beq right)))

end Number

/-! ## Arrays and objects -/

namespace Json

/-- Arrays of one length are equal item by item. -/
theorem equal_array {items others : List Json} :
    equal (.array items) (.array others) = true ↔
      items.length = others.length ∧
        ∀ i : Nat, Option.Rel (equal · · = true) items[i]? others[i]? := by
  rw [equal, equalItems_eq]
  exact and_congr_right fun length => (Option.Rel.getElem?_iff length).symm

/-- Objects are equal key by key. -/
theorem equal_object {members others : Members} (nodup : (Members.keys members).Nodup)
    (nodup' : (Members.keys others).Nodup) :
    equal (.object members) (.object others) = true ↔
      ∀ key, Option.Rel (equal · · = true) (Members.find? key members)
        (Members.find? key others) := by
  have lengths : members.length = others.length ↔
      (Members.keys members).length = (Members.keys others).length := by
    rw [Members.keys, Members.keys, List.length_map, List.length_map]
  rw [equal, Bool.and_eq_true, beq_iff_eq, membersWithin_iff, lengths]
  constructor
  · rintro ⟨length, within⟩ key
    -- no key is left over on the right: the keys on the left are as many, and all among them
    have among : Members.keys members ⊆ Members.keys others := fun k mem => by
      obtain ⟨v, found⟩ := Option.isSome_iff_exists.mp (Members.isSome_find?_iff.mpr mem)
      obtain ⟨w, found', -⟩ := within k v (Members.mem_of_find? found)
      exact Members.isSome_find?_iff.mp (found' ▸ rfl)
    have perm := (nodup.subperm among).perm_of_length_le length.ge
    cases found : Members.find? key members with
    | some v =>
      obtain ⟨w, found', same⟩ := within key v (Members.mem_of_find? found)
      rw [found']
      exact .some same
    | none =>
      have absent := mt perm.mem_iff.mpr (Members.find?_eq_none_iff.mp found)
      rw [Members.find?_eq_none_iff.mpr absent]
      exact .none
  · intro each
    have perm := Members.perm_keys nodup nodup' fun key => (each key).isSome_eq
    refine ⟨perm.length_eq, fun k v mem => ?_⟩
    have related := each k
    rw [Members.find?_of_mem nodup mem] at related
    exact related.exists_of_some

/-- Every value with distinct keys is equal to itself. -/
theorem equal_refl {v : Json} (distinct : v.Distinct) : equal v v = true := by
  induction v using Json.induct with
  | null => rfl
  | bool b => exact beq_self_eq_true b
  | number n => exact n.numEq_refl
  | string s => exact beq_self_eq_true s
  | array items ih =>
    refine equal_array.mpr ⟨rfl, fun i => ?_⟩
    cases found : items[i]? with
    | none => exact .none
    | some v => exact .some (ih v (List.mem_of_getElem? found) (distinct.item found))
  | object members ih =>
    refine (equal_object distinct.keys distinct.keys).mpr fun key => ?_
    cases found : Members.find? key members with
    | none => exact .none
    | some v => exact .some (ih key v (Members.mem_of_find? found) (distinct.member found))

/-- It does not matter which of two values is searched for what the other one has. -/
theorem equal_symm {a b : Json} (ha : a.Distinct) (hb : b.Distinct) (ab : equal a b = true) :
    equal b a = true := by
  induction a using Json.induct generalizing b with
  | null =>
    cases b with
    | null => rfl
    | _ => cases ab
  | bool x =>
    cases b with
    | bool y => exact BEq.symm ab
    | _ => cases ab
  | number n =>
    cases b with
    | number m => exact (Number.numEq_comm m n).trans ab
    | _ => cases ab
  | string s =>
    cases b with
    | string t => exact BEq.symm ab
    | _ => cases ab
  | array items ih =>
    cases b with
    | array others =>
      obtain ⟨length, each⟩ := equal_array.mp ab
      refine equal_array.mpr ⟨length.symm, fun i => (each i).swap fun v w found found' => ?_⟩
      exact ih v (List.mem_of_getElem? found) (ha.item found) (hb.item found')
    | _ => cases ab
  | object members ih =>
    cases b with
    | object others =>
      have each := (equal_object ha.keys hb.keys).mp ab
      refine (equal_object hb.keys ha.keys).mpr fun key => (each key).swap fun v w found found' => ?_
      exact ih key v (Members.mem_of_find? found) (ha.member found) (hb.member found')
    | _ => cases ab

/-! ## Rounded integers -/

/-- In one place of three values are two different integers and between them a double that both
are rounded to. -/
inductive Rounded : Json → Json → Json → Prop
  | number {a b c : Number} : Number.Rounded a b c → Rounded (.number a) (.number b) (.number c)
  | item {as bs cs : List Json} {a b c : Json} (i : Nat) : as[i]? = some a → bs[i]? = some b →
      cs[i]? = some c → Rounded a b c → Rounded (.array as) (.array bs) (.array cs)
  | member {as bs cs : Members} {a b c : Json} (key : String) : Members.find? key as = some a →
      Members.find? key bs = some b → Members.find? key cs = some c → Rounded a b c →
      Rounded (.object as) (.object bs) (.object cs)

/-- All integers in the value are small enough not to be rounded. -/
inductive Exact : Json → Prop
  | null : Exact .null
  | bool (b : Bool) : Exact (.bool b)
  | number {n : Number} : n.Exact → Exact (.number n)
  | string (s : String) : Exact (.string s)
  | array {items : List Json} : (∀ (i : Nat) v, items[i]? = some v → Exact v) →
      Exact (.array items)
  | object {members : Members} : (∀ key v, Members.find? key members = some v → Exact v) →
      Exact (.object members)

/-- Values with different integers in one place are not equal. -/
theorem Rounded.not_equal {a b c : Json} (h : Rounded a b c) : ¬ equal a c = true := by
  induction h with
  | number h =>
    rw [equal, h.numEq_eq_false]
    exact Bool.false_ne_true
  | item i ha hb hc _ ih =>
    rw [equal, equalItems_eq]
    exact fun same => ih (same.2 i _ _ ha hc)
  | member key ha hb hc _ ih =>
    rw [equal, Bool.and_eq_true, membersWithin_iff]
    rintro ⟨-, within⟩
    obtain ⟨w, found, same⟩ := within key _ (Members.mem_of_find? ha)
    cases hc.symm.trans found
    exact ih same

/-- Values that are equal to one between them are equal, if no two integers in one place are
rounded. -/
theorem equal_trans {a b c : Json} (ha : a.Distinct) (hb : b.Distinct) (hc : c.Distinct)
    (ab : equal a b = true) (bc : equal b c = true) (exactly : ¬ Rounded a b c) :
    equal a c = true := by
  induction a using Json.induct generalizing b c with
  | null =>
    cases b with
    | null => exact bc
    | _ => cases ab
  | bool x =>
    cases b with
    | bool y =>
      cases eq_of_beq ab
      exact bc
    | _ => cases ab
  | number l =>
    cases b with
    | number m =>
      cases c with
      | number n => exact Number.numEq_trans ab bc fun rounded => exactly (.number rounded)
      | _ => cases bc
    | _ => cases ab
  | string s =>
    cases b with
    | string t =>
      cases eq_of_beq ab
      exact bc
    | _ => cases ab
  | array as ih =>
    cases b with
    | array bs =>
      cases c with
      | array cs =>
        obtain ⟨length, left⟩ := equal_array.mp ab
        obtain ⟨length', right⟩ := equal_array.mp bc
        refine equal_array.mpr ⟨length.trans length', fun i => (left i).chain (right i) ?_⟩
        intro x y z hx hy hz xy yz
        exact ih x (List.mem_of_getElem? hx) (ha.item hx) (hb.item hy) (hc.item hz) xy yz
          fun rounded => exactly (.item i hx hy hz rounded)
      | _ => cases bc
    | _ => cases ab
  | object as ih =>
    cases b with
    | object bs =>
      cases c with
      | object cs =>
        have left := (equal_object ha.keys hb.keys).mp ab
        have right := (equal_object hb.keys hc.keys).mp bc
        refine (equal_object ha.keys hc.keys).mpr fun key => (left key).chain (right key) ?_
        intro x y z hx hy hz xy yz
        exact ih key x (Members.mem_of_find? hx) (ha.member hx) (hb.member hy) (hc.member hz) xy yz
          fun rounded => exactly (.member key hx hy hz rounded)
      | _ => cases bc
    | _ => cases ab

/-- Nothing is rounded where all integers are small enough. -/
theorem not_rounded_of_exact {a b c : Json} (ha : a.Exact) (hc : c.Exact) : ¬ Rounded a b c := by
  intro h
  induction h with
  | number h =>
    cases ha with | number ha => cases hc with | number hc =>
    exact Number.not_rounded_of_exact ha hc h
  | item i ha' _ hc' _ ih =>
    cases ha with | array ha => cases hc with | array hc =>
    exact ih (ha i _ ha') (hc i _ hc')
  | member key ha' _ hc' _ ih =>
    cases ha with | object ha => cases hc with | object hc =>
    exact ih (ha key _ ha') (hc key _ hc')

theorem equal_comm {a b : Json} (ha : a.Distinct) (hb : b.Distinct) : equal a b = equal b a :=
  Bool.eq_iff_iff.mpr ⟨equal_symm ha hb, equal_symm hb ha⟩

/-- **Equality is an equivalence up to the rounding of integers.**  Every value is equal to itself,
and of two values each is equal to the other or neither is.  Two values that are equal to one
between them are equal, unless somewhere in them two different integers are rounded to one double,
which does not happen where all integers are at most `2 ^ 53` in magnitude. -/
theorem equal_equivalence {a b c : Json} (ha : a.Distinct) (hb : b.Distinct) (hc : c.Distinct) :
    equal a a = true ∧ equal a b = equal b a ∧
      (equal a b = true → equal b c = true →
        (equal a c = true ↔ ¬ Rounded a b c) ∧ (a.Exact → c.Exact → equal a c = true)) := by
  refine ⟨equal_refl ha, equal_comm ha hb, fun ab bc => ⟨⟨?_, ?_⟩, fun exactly exactly' => ?_⟩⟩
  · exact fun ac rounded => rounded.not_equal ac
  · exact equal_trans ha hb hc ab bc
  · exact equal_trans ha hb hc ab bc (not_rounded_of_exact exactly exactly')

/-- Three spellings of an object, with its members in any order, and its numbers as integers and as
doubles. -/
theorem equal_equivalence_spellings :
    let one : Double := ⟨false, 0x3FF0000000000000, by decide⟩
    let a : Json := .object [("n", .ofInt 1), ("list", .array [.number (.double one)])]
    let b : Json := .object [("list", .array [.ofInt 1]), ("n", .number (.double one))]
    let c : Json := .object [("list", .array [.number (.double one)]), ("n", .ofInt 1)]
    a.Distinct ∧ b.Distinct ∧ c.Distinct ∧ equal a b = true ∧ equal b c = true ∧
      equal b a = true ∧ equal a c = true ∧ ¬ Rounded a b c := by
  intro one a b c
  have ha : a.Distinct := by
    simp [a, Distinct, DistinctMembers, DistinctItems, ofInt]
  have hb : b.Distinct := by
    simp [b, Distinct, DistinctMembers, DistinctItems, ofInt]
  have hc : c.Distinct := by
    simp [c, Distinct, DistinctMembers, DistinctItems, ofInt]
  have ab : equal a b = true := by decide +kernel
  have bc : equal b c = true := by decide +kernel
  have ac : equal a c = true := by decide +kernel
  obtain ⟨-, comm, trans⟩ := equal_equivalence ha hb hc
  exact ⟨ha, hb, hc, ab, bc, comm.symm.trans ab, ac, (trans ab bc).1.mp ac⟩

/-- The least positive integer that is no double, the double it is rounded to, and the integer that
this double is. -/
theorem equal_not_transitive :
    let a : Json := .ofInt 9007199254740993
    let b : Json := .number (.double ⟨false, 0x4340000000000000, by decide⟩)
    let c : Json := .ofInt 9007199254740992
    equal a b = true ∧ equal b c = true ∧ equal a c = false := by
  intro a b c
  have ab : equal a b = true := by decide +kernel
  have bc : equal b c = true := by decide +kernel
  have ac : equal a c = false := by decide +kernel
  exact ⟨ab, bc, ac⟩

end Json

end UiStream
