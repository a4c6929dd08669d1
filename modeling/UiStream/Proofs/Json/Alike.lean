import UiStream.Json.Equal
import UiStream.Proofs.Json.Members

/-!
# Values that differ in the order of members

`Json.Alike` relates values in which no object repeats a key, if they are equal but for the order
in which objects have their members.  Each value with distinct keys is alike itself and nothing
else is (`alike_self`), so that what is shown of all pairs of alike values holds of all values
with distinct keys: an operation that takes alike values to alike values keeps keys distinct.

`alike_array` and `alike_object` are the forms in which the relation is used: what two values have
at an index or under a key is alike, or absent from both.  The lemmas on `set`, `insertIdx`,
`eraseIdx`, `insert` and `erase` follow from them.

`equal_alike` says that the equality of values inside a test does not see the difference.
-/

/-! ## Absent values -/

namespace Option.Rel

variable {α β γ δ : Type} {r : α → β → Prop} {q : γ → δ → Prop} {a : Option α} {b : Option β}
  {c : Option γ}

theorem isSome_eq (h : Option.Rel r a b) : a.isSome = b.isSome := by
  cases h <;> rfl

/-- Related values are both absent or both there. -/
theorem none_or_some (h : Option.Rel r a b) :
    (a = Option.none ∧ b = Option.none) ∨
      ∃ x y, a = Option.some x ∧ b = Option.some y ∧ r x y := by
  cases h with
  | none => exact .inl ⟨rfl, rfl⟩
  | some h => exact .inr ⟨_, _, rfl, rfl, h⟩

/-- What is there is related to something that is there. -/
theorem exists_of_some {x : α} (h : Option.Rel r (Option.some x) b) :
    ∃ y, b = Option.some y ∧ r x y := by
  obtain ⟨absent, -⟩ | ⟨_, y, found, found', related⟩ := h.none_or_some
  · cases absent
  · cases found
    exact ⟨y, found', related⟩

/-- Related values stay related under functions that keep the relation. -/
theorem bind (h : Option.Rel r a b) {f : α → Option γ} {g : β → Option δ}
    (fg : ∀ x y, r x y → Option.Rel q (f x) (g y)) : Option.Rel q (a.bind f) (b.bind g) := by
  cases h with
  | some h => exact fg _ _ h
  | none => exact .none

theorem map (h : Option.Rel r a b) {f : α → γ} {g : β → δ} (fg : ∀ x y, r x y → q (f x) (g y)) :
    Option.Rel q (a.map f) (b.map g) := by
  cases h with
  | some h => exact .some (fg _ _ h)
  | none => exact .none

/-- Functions that do not tell related values apart give the same. -/
theorem map_congr (h : Option.Rel r a b) {f : α → γ} {g : β → γ} (fg : ∀ x y, r x y → f x = g y) :
    a.map f = b.map g := by
  cases h with
  | some h => exact congrArg Option.some (fg _ _ h)
  | none => rfl

theorem bind_congr (h : Option.Rel r a b) {f : α → Option γ} {g : β → Option γ}
    (fg : ∀ x y, r x y → f x = g y) : a.bind f = b.bind g := by
  cases h with
  | some h => exact fg _ _ h
  | none => rfl

/-- Related values are related the other way round, if what they are is. -/
theorem swap {q : β → α → Prop} (h : Option.Rel r a b)
    (rq : ∀ x y, a = Option.some x → b = Option.some y → r x y → q y x) : Option.Rel q b a := by
  cases h with
  | some h => exact .some (rq _ _ rfl rfl h)
  | none => exact .none

/-- Values that are related to one between them are related, if what they are is. -/
theorem chain {q : β → γ → Prop} {t : α → γ → Prop} (h : Option.Rel r a b) (h' : Option.Rel q b c)
    (rq : ∀ x y z, a = Option.some x → b = Option.some y → c = Option.some z → r x y → q y z →
      t x z) : Option.Rel t a c := by
  cases h with
  | some h =>
    obtain ⟨z, rfl, related⟩ := h'.exists_of_some
    exact .some (rq _ _ z rfl rfl rfl h related)
  | none =>
    cases h'
    exact .none

/-- Items of lists of one length that are related where both are there are related at all indices. -/
theorem getElem?_iff {items : List α} {others : List β} (length : items.length = others.length) :
    (∀ i : Nat, Option.Rel r items[i]? others[i]?) ↔
      ∀ (i : Nat) (x : α) (y : β), items[i]? = Option.some x → others[i]? = Option.some y →
        r x y := by
  constructor
  · intro h i x y hx hy
    have related := h i
    rw [hx, hy] at related
    cases related
    assumption
  · intro each i
    cases hx : items[i]? with
    | none =>
      have absent : others[i]? = Option.none := by
        rw [List.getElem?_eq_none_iff] at hx ⊢
        omega
      rw [absent]
      exact .none
    | some x =>
      have inside : i < others.length := length ▸ (List.getElem?_eq_some_iff.mp hx).1
      rw [List.getElem?_eq_getElem inside]
      exact .some (each i x _ hx (List.getElem?_eq_getElem inside))

end Option.Rel

namespace UiStream

namespace Json

/-- A property of all values holds if it holds of containers whose contents have it. -/
theorem induct {motive : Json → Prop} (null : motive .null) (bool : ∀ b, motive (.bool b))
    (number : ∀ n, motive (.number n)) (string : ∀ s, motive (.string s))
    (array : ∀ items, (∀ v ∈ items, motive v) → motive (.array items))
    (object : ∀ members, (∀ k v, (k, v) ∈ members → motive v) → motive (.object members))
    (v : Json) : motive v :=
  @Json.rec motive (fun items => ∀ v ∈ items, motive v)
    (fun members => ∀ member ∈ members, motive member.2) (fun member => motive member.2)
    null bool number string array (fun members ih => object members fun _ _ h => ih _ h)
    (fun _ h => nomatch h)
    (fun _ _ head tail v h => (List.mem_cons.mp h).elim (fun h => h ▸ head) (tail v))
    (fun _ h => nomatch h)
    (fun _ _ head tail v h => (List.mem_cons.mp h).elim (fun h => h ▸ head) (tail v))
    (fun _ _ h => h) v

/-! ## The relation -/

/-- The values repeat no keys and are equal but for the order of members in objects. -/
inductive Alike : Json → Json → Prop
  | null : Alike .null .null
  | bool (b : Bool) : Alike (.bool b) (.bool b)
  | number (n : Number) : Alike (.number n) (.number n)
  | string (s : String) : Alike (.string s) (.string s)
  | array {items others : List Json} (length : items.length = others.length)
      (each : ∀ (i : Nat) (a b : Json), items[i]? = some a → others[i]? = some b → Alike a b) :
      Alike (.array items) (.array others)
  | object {members others : Members} (nodup : (Members.keys members).Nodup)
      (nodup' : (Members.keys others).Nodup)
      (keys : ∀ key, (Members.find? key members).isSome = (Members.find? key others).isSome)
      (each : ∀ (key : String) (a b : Json), Members.find? key members = some a →
        Members.find? key others = some b → Alike a b) :
      Alike (.object members) (.object others)

/-- Arrays are alike item by item. -/
theorem alike_array {items others : List Json} :
    Alike (.array items) (.array others) ↔
      items.length = others.length ∧ ∀ i : Nat, Option.Rel Alike items[i]? others[i]? := by
  constructor
  · rintro (_ | _ | _ | _ | ⟨length, each⟩ | _)
    exact ⟨length, (Option.Rel.getElem?_iff length).mpr each⟩
  · rintro ⟨length, h⟩
    exact .array length ((Option.Rel.getElem?_iff length).mp h)

/-- Objects are alike key by key. -/
theorem alike_object {members others : Members} :
    Alike (.object members) (.object others) ↔
      (Members.keys members).Nodup ∧ (Members.keys others).Nodup ∧
        ∀ key, Option.Rel Alike (Members.find? key members) (Members.find? key others) := by
  constructor
  · rintro (_ | _ | _ | _ | _ | ⟨nodup, nodup', keys, each⟩)
    refine ⟨nodup, nodup', fun key => ?_⟩
    have both := keys key
    cases ha : Members.find? key members <;> cases hb : Members.find? key others <;>
      rw [ha, hb] at both
    · exact .none
    · cases both
    · cases both
    · exact .some (each key _ _ ha hb)
  · rintro ⟨nodup, nodup', h⟩
    refine .object nodup nodup' (fun key => (h key).isSome_eq) fun key a b ha hb => ?_
    have := h key
    rw [ha, hb] at this
    cases this
    assumption

namespace Alike

theorem symm {a b : Json} (h : Alike a b) : Alike b a := by
  induction h with
  | null => exact .null
  | bool b => exact .bool b
  | number n => exact .number n
  | string s => exact .string s
  | array length _ ih => exact .array length.symm fun i a b ha hb => ih i b a hb ha
  | object nodup nodup' keys _ ih =>
    exact .object nodup' nodup (fun key => (keys key).symm) fun k a b ha hb => ih k b a hb ha

theorem trans {a b c : Json} (h : Alike a b) (h' : Alike b c) : Alike a c := by
  induction h generalizing c with
  | null | bool | number | string => exact h'
  | array length _ ih =>
    obtain _ | _ | _ | _ | ⟨length', each'⟩ | _ := h'
    refine .array (length.trans length') fun i a c ha hc => ?_
    have inside := length ▸ (List.getElem?_eq_some_iff.mp ha).1
    have hb := List.getElem?_eq_getElem inside
    exact ih i a _ ha hb (each' i _ c hb hc)
  | object nodup _ keys _ ih =>
    obtain _ | _ | _ | _ | _ | ⟨_, nodup', keys', each'⟩ := h'
    refine .object nodup nodup' (fun key => (keys key).trans (keys' key)) fun key a c ha hc => ?_
    have found := keys key
    rw [ha] at found
    obtain ⟨b, hb⟩ := Option.isSome_iff_exists.mp found.symm
    exact ih key a b ha hb (each' key b c hb hc)

/-- Alike values have distinct keys. -/
theorem distinct {a b : Json} (h : Alike a b) : a.Distinct := by
  induction h with
  | null | bool | number | string => trivial
  | @array items others length each ih =>
    refine (distinct_array items).mpr fun v hv => ?_
    obtain ⟨i, inside, rfl⟩ := List.mem_iff_getElem.mp hv
    have inside' : i < others.length := length ▸ inside
    exact ih i _ _ (List.getElem?_eq_getElem inside) (List.getElem?_eq_getElem inside')
  | @object members others nodup nodup' keys each ih =>
    refine (distinct_object members).mpr ⟨nodup, fun k v hv => ?_⟩
    have found := Members.find?_of_mem nodup hv
    have found' := keys k
    rw [found] at found'
    obtain ⟨w, hw⟩ := Option.isSome_iff_exists.mp found'.symm
    exact ih k v w found hw

end Alike

/-- A value is alike itself exactly if no object in it repeats a key. -/
theorem alike_self {v : Json} : Alike v v ↔ v.Distinct := by
  refine ⟨Alike.distinct, fun distinct => ?_⟩
  induction v using Json.induct with
  | null => exact .null
  | bool b => exact .bool b
  | number n => exact .number n
  | string s => exact .string s
  | array items ih =>
    refine .array rfl fun i a b ha hb => ?_
    cases ha.symm.trans hb
    exact ih a (List.mem_of_getElem? ha) (distinct.item ha)
  | object members ih =>
    refine .object distinct.keys distinct.keys (fun _ => rfl) fun key a b ha hb => ?_
    cases ha.symm.trans hb
    exact ih key a (Members.mem_of_find? ha) (distinct.member ha)

/-! ## Arrays -/

section Arrays

variable {items others : List Json} {v w : Json}

theorem alike_nil : Alike (.array []) (.array []) :=
  .array rfl fun _ _ _ h => nomatch h

theorem alike_append {more more' : List Json} (h : Alike (.array items) (.array others))
    (h' : Alike (.array more) (.array more')) :
    Alike (.array (items ++ more)) (.array (others ++ more')) := by
  obtain ⟨length, each⟩ := alike_array.mp h
  obtain ⟨length', each'⟩ := alike_array.mp h'
  refine alike_array.mpr ⟨by simp [length, length'], fun i => ?_⟩
  rw [List.getElem?_append, List.getElem?_append, length]
  split
  · exact each i
  · exact each' _

theorem alike_singleton (h : Alike v w) : Alike (.array [v]) (.array [w]) := by
  refine .array rfl fun i a b ha hb => ?_
  cases i with
  | zero => cases ha; cases hb; exact h
  | succ i => cases ha

theorem alike_replicate (n : Nat) (h : Alike v w) :
    Alike (.array (List.replicate n v)) (.array (List.replicate n w)) := by
  refine alike_array.mpr ⟨by simp, fun i => ?_⟩
  rw [List.getElem?_replicate, List.getElem?_replicate]
  split
  · exact .some h
  · exact .none

theorem alike_set (h : Alike (.array items) (.array others)) (i : Nat) (hv : Alike v w) :
    Alike (.array (items.set i v)) (.array (others.set i w)) := by
  obtain ⟨length, each⟩ := alike_array.mp h
  refine alike_array.mpr ⟨by simp [length], fun j => ?_⟩
  rw [List.getElem?_set, List.getElem?_set, length]
  split
  · split
    · exact .some hv
    · exact .none
  · exact each j

theorem alike_modify (h : Alike (.array items) (.array others)) (i : Nat) {f g : Json → Json}
    (fg : ∀ a b, Alike a b → Alike (f a) (g b)) :
    Alike (.array (items.modify i f)) (.array (others.modify i g)) := by
  obtain ⟨length, each⟩ := alike_array.mp h
  refine alike_array.mpr ⟨by simp [length], fun j => ?_⟩
  rw [List.getElem?_modify, List.getElem?_modify]
  refine (each j).map fun a b hab => ?_
  split
  · exact fg a b hab
  · exact hab

theorem alike_eraseIdx (h : Alike (.array items) (.array others)) (i : Nat) :
    Alike (.array (items.eraseIdx i)) (.array (others.eraseIdx i)) := by
  obtain ⟨length, each⟩ := alike_array.mp h
  refine alike_array.mpr ⟨by simp [List.length_eraseIdx, length], fun j => ?_⟩
  rw [List.getElem?_eraseIdx, List.getElem?_eraseIdx]
  split
  · exact each j
  · exact each (j + 1)

theorem alike_insertIdx (h : Alike (.array items) (.array others)) (i : Nat) (hv : Alike v w) :
    Alike (.array (items.insertIdx i v)) (.array (others.insertIdx i w)) := by
  obtain ⟨length, each⟩ := alike_array.mp h
  refine alike_array.mpr ⟨by simp [List.length_insertIdx, length], fun j => ?_⟩
  rw [List.getElem?_insertIdx, List.getElem?_insertIdx, length]
  split
  · exact each j
  · split
    · split
      · exact .some hv
      · exact .none
    · exact each (j - 1)

end Arrays

/-! ## Objects -/

section Objects

variable {members others : Members} {v w : Json}

theorem alike_emptyObject : Alike (.object []) (.object []) :=
  alike_object.mpr ⟨List.nodup_nil, List.nodup_nil, fun _ => .none⟩

/-- Objects in which the same is found are alike. -/
theorem alike_of_find? (distinct : (Json.object members).Distinct)
    (distinct' : (Json.object others).Distinct)
    (same : ∀ key, Members.find? key members = Members.find? key others) :
    Alike (.object members) (.object others) := by
  obtain ⟨nodup, -, each⟩ := alike_object.mp (alike_self.mpr distinct)
  exact alike_object.mpr ⟨nodup, distinct'.keys, fun key => same key ▸ each key⟩

theorem alike_insert (h : Alike (.object members) (.object others)) (key : String)
    (hv : Alike v w) :
    Alike (.object (Members.insert key v members)) (.object (Members.insert key w others)) := by
  obtain ⟨nodup, nodup', each⟩ := alike_object.mp h
  refine alike_object.mpr
    ⟨Members.nodup_insert nodup key v, Members.nodup_insert nodup' key w, fun other => ?_⟩
  rw [Members.find?_insert, Members.find?_insert]
  split
  · exact .some hv
  · exact each other

theorem alike_erase (h : Alike (.object members) (.object others)) (key : String) :
    Alike (.object (Members.erase key members)) (.object (Members.erase key others)) := by
  obtain ⟨nodup, nodup', each⟩ := alike_object.mp h
  refine alike_object.mpr
    ⟨Members.nodup_erase nodup key, Members.nodup_erase nodup' key, fun other => ?_⟩
  rw [Members.find?_erase nodup, Members.find?_erase nodup']
  split
  · exact .none
  · exact each other

/-- Alike objects have the same keys. -/
theorem keys_perm (h : Alike (.object members) (.object others)) :
    (Members.keys members).Perm (Members.keys others) := by
  obtain ⟨nodup, nodup', each⟩ := alike_object.mp h
  exact Members.perm_keys nodup nodup' fun key => (each key).isSome_eq

/-- Moving a member to the end of its object gives an object alike. -/
theorem alike_moved_last (h : Distinct (.object members)) {key : String}
    (found : Members.find? key members = some v) :
    Alike (.object members) (.object (Members.erase key members ++ [(key, v)])) := by
  have erased := Members.nodup_erase h.keys key
  rw [← Members.insert_erase h.keys]
  refine alike_object.mpr ⟨h.keys, Members.nodup_insert erased key v, fun other => ?_⟩
  rw [Members.find?_insert, Members.find?_erase h.keys]
  split
  · next same =>
    rw [← same, found]
    exact .some (alike_self.mpr (h.member found))
  · exact (alike_object.mp (alike_self.mpr h)).2.2 other

end Objects

/-! ## Equality -/

theorem equalItems_eq (items others : List Json) :
    equalItems items others = true ↔
      items.length = others.length ∧
        ∀ (i : Nat) (a b : Json), items[i]? = some a → others[i]? = some b → equal a b = true := by
  induction items generalizing others with
  | nil => cases others <;> simp [equalItems]
  | cons v rest ih =>
    cases others with
    | nil => simp [equalItems]
    | cons w others =>
      rw [equalItems, Bool.and_eq_true, ih]
      constructor
      · rintro ⟨head, length, tail⟩
        refine ⟨congrArg (· + 1) length, fun i a b ha hb => ?_⟩
        cases i with
        | zero => cases ha; cases hb; exact head
        | succ i => exact tail i a b ha hb
      · rintro ⟨length, each⟩
        exact ⟨each 0 v w rfl rfl, Nat.succ.inj length, fun i => each (i + 1)⟩

theorem membersWithin_iff (members others : Members) :
    membersWithin members others = true ↔
      ∀ k v, (k, v) ∈ members → ∃ w, Members.find? k others = some w ∧ equal v w = true := by
  induction members with
  | nil => simp [membersWithin]
  | cons member rest ih =>
    obtain ⟨key, a⟩ := member
    rw [membersWithin, Bool.and_eq_true, ih]
    constructor
    · rintro ⟨head, tail⟩ k v h
      rcases List.mem_cons.mp h with h | h
      · cases h
        cases found : Members.find? key others with
        | none => rw [found] at head; cases head
        | some w => rw [found] at head; exact ⟨w, rfl, head⟩
      · exact tail k v h
    · intro h
      obtain ⟨w, found, same⟩ := h key a (.head _)
      refine ⟨?_, fun k v hv => h k v (.tail _ hv)⟩
      rw [found]
      exact same

/-- Alike values are equal to the same values. -/
theorem equal_of_alike {a b : Json} (h : Alike a b) {c : Json} (hc : equal a c = true) :
    equal b c = true := by
  induction h generalizing c with
  | null | bool | number | string => exact hc
  | @array items others length each ih =>
    cases c with
    | array third =>
      rw [equal, equalItems_eq] at hc ⊢
      refine ⟨length.symm.trans hc.1, fun i b c hb hc' => ?_⟩
      have inside := length.symm ▸ (List.getElem?_eq_some_iff.mp hb).1
      have ha := List.getElem?_eq_getElem inside
      exact ih i _ b ha hb (hc.2 i _ c ha hc')
    | _ => cases hc
  | @object members others nodup nodup' keys each ih =>
    cases c with
    | object third =>
      rw [equal, Bool.and_eq_true, membersWithin_iff, beq_iff_eq] at hc ⊢
      obtain ⟨length, within⟩ := hc
      have perm := (keys_perm (.object nodup nodup' keys each)).length_eq
      rw [Members.keys, Members.keys, List.length_map, List.length_map] at perm
      refine ⟨perm.symm.trans length, fun k w hw => ?_⟩
      have found := Members.find?_of_mem nodup' hw
      have found' := keys k
      rw [found] at found'
      obtain ⟨v, hv⟩ := Option.isSome_iff_exists.mp found'
      obtain ⟨x, hx, same⟩ := within k v (Members.mem_of_find? hv)
      exact ⟨x, hx, ih k v w hv found same⟩
    | _ => cases hc

/-- The equality of values does not see the order of members. -/
theorem equal_alike {a b : Json} (h : Alike a b) (c : Json) : equal a c = equal b c :=
  Bool.eq_iff_iff.mpr ⟨equal_of_alike h, equal_of_alike h.symm⟩

theorem equal?_alike {a b : Option Json} (h : Option.Rel Alike a b) (c : Option Json) :
    equal? a c = equal? b c := by
  cases h with
  | none => rfl
  | some h =>
    cases c with
    | none => rfl
    | some c => exact equal_alike h c

end Json

end UiStream
