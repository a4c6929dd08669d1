import UiStream.Json.Basic

/-!
# Members of objects

What `Members.find?` gives after `insert` and `erase`, and how these keep the keys of an object
distinct.  `Json.distinct_array` and `Json.distinct_object` are the natural forms of
`Json.Distinct`.
-/

namespace UiStream

namespace Members

variable {key other : String} {v w : Json} {members : Members}

/-! ## Finding members -/

theorem find?_cons (k : String) (v : Json) (members : Members) :
    find? key ((k, v) :: members) = if k = key then some v else find? key members := rfl

/-- A member that is found is a member. -/
theorem mem_of_find? (h : find? key members = some v) : (key, v) ∈ members := by
  induction members with
  | nil => cases h
  | cons member rest ih =>
    obtain ⟨k, x⟩ := member
    rw [find?_cons] at h
    split at h
    · next hk => cases h; rw [hk]; exact .head _
    · exact .tail _ (ih h)

/-- Nothing is found under a key that no member has. -/
theorem find?_eq_none_iff : find? key members = none ↔ key ∉ keys members := by
  induction members with
  | nil => simp [find?, keys]
  | cons member rest ih =>
    obtain ⟨k, x⟩ := member
    rw [find?_cons]
    by_cases hk : k = key
    · simp [hk, keys]
    · rw [if_neg hk, ih]
      simp [keys, Ne.symm hk]

theorem isSome_find?_iff : (find? key members).isSome ↔ key ∈ keys members := by
  rw [Option.isSome_iff_ne_none, ne_eq, find?_eq_none_iff, Decidable.not_not]

/-- A member of an object with distinct keys is found under its key. -/
theorem find?_of_mem (nodup : (keys members).Nodup) (h : (key, v) ∈ members) :
    find? key members = some v := by
  induction members with
  | nil => cases h
  | cons member rest ih =>
    obtain ⟨k, x⟩ := member
    obtain ⟨fresh, nodup⟩ := List.nodup_cons.mp nodup
    rw [find?_cons]
    rcases List.mem_cons.mp h with h | h
    · cases h; rw [if_pos rfl]
    · have known : key ∈ keys rest := List.mem_map_of_mem (f := Prod.fst) h
      have : k ≠ key := fun hk => fresh (hk ▸ known)
      rw [if_neg this, ih nodup h]

/-- Objects in which something is found under the same keys have the same keys. -/
theorem perm_keys {others : Members} (nodup : (keys members).Nodup) (nodup' : (keys others).Nodup)
    (same : ∀ key, (find? key members).isSome = (find? key others).isSome) :
    (keys members).Perm (keys others) := by
  refine (List.perm_ext_iff_of_nodup nodup nodup').mpr fun key => ?_
  rw [← isSome_find?_iff, ← isSome_find?_iff, same]

theorem lookup_eq_find? (key : String) (members : Members) :
    members.lookup key = find? key members := by
  induction members with
  | nil => rfl
  | cons member rest ih =>
    obtain ⟨k, x⟩ := member
    rw [List.lookup_cons, find?_cons, ih]
    by_cases hk : k = key
    · rw [if_pos hk, beq_iff_eq.mpr hk.symm]
    · rw [if_neg hk, beq_false_of_ne (Ne.symm hk)]

/-! ## Setting a member -/

/-- A member that was set is found, and no other one changes. -/
theorem find?_insert (key other : String) (v : Json) (members : Members) :
    find? other (insert key v members) = if key = other then some v else find? other members := by
  induction members with
  | nil => rfl
  | cons member rest ih =>
    obtain ⟨k, x⟩ := member
    rw [insert]
    by_cases hk : k = key
    · subst hk
      rw [if_pos rfl, find?_cons, find?_cons]
      split <;> rfl
    · rw [if_neg hk, find?_cons, find?_cons, ih]
      by_cases ho : k = other
      · rw [if_pos ho, if_pos ho, if_neg (ho ▸ Ne.symm hk)]
      · rw [if_neg ho, if_neg ho]

@[simp] theorem find?_insert_self (key : String) (v : Json) (members : Members) :
    find? key (insert key v members) = some v := by
  rw [find?_insert, if_pos rfl]

/-- Setting a member again forgets what it was set to before. -/
@[simp] theorem insert_insert (key : String) (v w : Json) (members : Members) :
    insert key v (insert key w members) = insert key v members := by
  induction members with
  | nil => simp [insert]
  | cons member rest ih =>
    obtain ⟨k, x⟩ := member
    rw [insert, insert]
    split
    · next hk => simp [insert, hk]
    · next hk => simp [insert, hk, ih]

/-- Setting a member to what it is changes nothing. -/
theorem insert_of_find? (h : find? key members = some v) : insert key v members = members := by
  induction members with
  | nil => cases h
  | cons member rest ih =>
    obtain ⟨k, x⟩ := member
    rw [find?_cons] at h
    rw [insert]
    split
    · next hk => rw [if_pos hk] at h; cases h; rfl
    · next hk => rw [if_neg hk] at h; rw [ih h]

/-- A new member goes last. -/
theorem insert_of_find?_none (h : find? key members = none) :
    insert key v members = members ++ [(key, v)] := by
  induction members with
  | nil => rfl
  | cons member rest ih =>
    obtain ⟨k, x⟩ := member
    rw [find?_cons] at h
    rw [insert]
    split
    · next hk => rw [if_pos hk] at h; cases h
    · next hk => rw [if_neg hk] at h; rw [ih h]; rfl

/-- A member that is set again keeps its place among the keys. -/
theorem keys_insert_of_find? (h : find? key members = some w) :
    keys (insert key v members) = keys members := by
  induction members with
  | nil => cases h
  | cons member rest ih =>
    obtain ⟨k, x⟩ := member
    rw [find?_cons] at h
    rw [insert]
    split
    · next hk => rfl
    · next hk => rw [if_neg hk] at h; exact congrArg (k :: ·) (ih h)

/-- Members keep their order when one is set, and a new one goes last. -/
theorem keys_insert (key : String) (v : Json) (members : Members) :
    keys (insert key v members) =
      if key ∈ keys members then keys members else keys members ++ [key] := by
  cases h : find? key members with
  | some w => rw [keys_insert_of_find? h, if_pos (isSome_find?_iff.mp (by rw [h]; rfl))]
  | none =>
    rw [insert_of_find?_none h, if_neg (find?_eq_none_iff.mp h), keys, List.map_append]
    rfl

/-- Setting a member keeps the keys distinct. -/
theorem nodup_insert (nodup : (keys members).Nodup) (key : String) (v : Json) :
    (keys (insert key v members)).Nodup := by
  cases h : find? key members with
  | some w => rw [keys_insert_of_find? h]; exact nodup
  | none =>
    rw [insert_of_find?_none h, keys, List.map_append, List.nodup_append]
    refine ⟨nodup, by simp, fun k known l new same => ?_⟩
    have : k = key := same.trans (List.mem_singleton.mp new)
    exact find?_eq_none_iff.mp h (this ▸ known)

/-- The members after one is set: that one, and some of those before. -/
theorem mem_insert {k : String} {x : Json} (h : (k, x) ∈ insert key v members) :
    (k, x) = (key, v) ∨ (k, x) ∈ members := by
  induction members with
  | nil => exact .inl (List.mem_singleton.mp h)
  | cons member rest ih =>
    obtain ⟨l, y⟩ := member
    rw [insert] at h
    split at h
    · next hl =>
      rcases List.mem_cons.mp h with h | h
      · exact .inl (by rw [h, hl])
      · exact .inr (.tail _ h)
    · rcases List.mem_cons.mp h with h | h
      · exact .inr (h ▸ .head _)
      · exact (ih h).imp_right (.tail _)

/-! ## Removing a member -/

/-- What is left of an object is a part of it, in order. -/
theorem erase_sublist (key : String) (members : Members) : (erase key members).Sublist members := by
  induction members with
  | nil => exact .slnil
  | cons member rest ih =>
    obtain ⟨k, x⟩ := member
    rw [erase]
    split
    · exact .cons _ (List.Sublist.refl rest)
    · exact .cons_cons _ ih

/-- Removing a member keeps the keys distinct. -/
theorem nodup_erase (nodup : (keys members).Nodup) (key : String) :
    (keys (erase key members)).Nodup :=
  nodup.sublist ((erase_sublist key members).map _)

/-- A member that was removed is not found, and no other one changes. -/
theorem find?_erase (nodup : (keys members).Nodup) (key other : String) :
    find? other (erase key members) = if key = other then none else find? other members := by
  induction members with
  | nil => split <;> rfl
  | cons member rest ih =>
    obtain ⟨k, x⟩ := member
    obtain ⟨fresh, nodup⟩ := List.nodup_cons.mp nodup
    rw [erase, find?_cons]
    by_cases hk : k = key
    · subst hk
      rw [if_pos rfl]
      split
      · next ho => exact find?_eq_none_iff.mpr (ho ▸ fresh)
      · rfl
    · rw [if_neg hk, find?_cons, ih nodup]
      by_cases ho : k = other
      · rw [if_pos ho, if_pos ho, if_neg (ho ▸ Ne.symm hk)]
      · rw [if_neg ho, if_neg ho]

/-- Removing a member that is not there changes nothing. -/
theorem erase_of_find?_none (h : find? key members = none) : erase key members = members := by
  induction members with
  | nil => rfl
  | cons member rest ih =>
    obtain ⟨k, x⟩ := member
    rw [find?_cons] at h
    rw [erase]
    split
    · next hk => rw [if_pos hk] at h; cases h
    · next hk => rw [if_neg hk] at h; rw [ih h]

/-- A member that is removed and set again goes last. -/
theorem insert_erase (nodup : (keys members).Nodup) (key : String) (v : Json) :
    insert key v (erase key members) = erase key members ++ [(key, v)] := by
  refine insert_of_find?_none ?_
  rw [find?_erase nodup, if_pos rfl]

/-- Without a member are all the others. -/
theorem erase_eq_filter (nodup : (keys members).Nodup) (key : String) :
    erase key members = members.filter (·.1 != key) := by
  induction members with
  | nil => rfl
  | cons member rest ih =>
    obtain ⟨k, x⟩ := member
    obtain ⟨fresh, nodup⟩ := List.nodup_cons.mp nodup
    rw [erase, List.filter_cons]
    by_cases hk : k = key
    · subst hk
      have others : rest.filter (·.1 != k) = rest := by
        refine List.filter_eq_self.mpr fun member mem => bne_iff_ne.mpr fun same => fresh ?_
        exact List.mem_map.mpr ⟨member, mem, same⟩
      rw [if_pos rfl, if_neg (by simp), others]
    · rw [if_neg hk, if_pos (by simpa using hk), ih nodup]

/-! ## Members by their place, by their keys, and several at a time -/

@[simp] theorem find?_append (key : String) (a b : Members) :
    find? key (a ++ b) = (find? key a).or (find? key b) := by
  induction a with
  | nil => rfl
  | cons member a ih =>
    obtain ⟨k, v⟩ := member
    rw [List.cons_append, find?, find?, ih]
    split <;> rfl

/-- A member that is found has a place, and setting it changes the value in that place. -/
theorem exists_place_of_find? (h : find? key members = some v) :
    ∃ front back, members = front ++ (key, v) :: back ∧ find? key front = none ∧
      ∀ w, insert key w members = front ++ (key, w) :: back := by
  induction members with
  | nil => cases h
  | cons member rest ih =>
    obtain ⟨k, x⟩ := member
    rw [find?_cons] at h
    by_cases hk : k = key
    · rw [if_pos hk] at h
      cases h
      subst hk
      exact ⟨[], rest, rfl, rfl, fun w => by rw [insert, if_pos rfl]; rfl⟩
    · rw [if_neg hk] at h
      obtain ⟨front, back, rfl, fresh, set⟩ := ih h
      refine ⟨(k, x) :: front, back, rfl, ?_, fun w => by rw [insert, if_neg hk, set]; rfl⟩
      rw [find?_cons, if_neg hk, fresh]

/-- What is found where one member has a place. -/
theorem find?_place (front back : Members) (fresh : find? key front = none) :
    find? other (front ++ (key, v) :: back) =
      if key = other then some v else find? other (front ++ back) := by
  rw [find?_append, find?_append, find?_cons]
  split
  · next same => rw [← same, fresh, Option.none_or]
  · rfl

/-- What is found among the members whose keys pass a test. -/
theorem find?_filter (test : String → Bool) (members : Members) :
    find? key (members.filter (test ·.1)) =
      if test key then find? key members else none := by
  induction members with
  | nil => rw [List.filter_nil, find?, ite_self]
  | cons member rest ih =>
    obtain ⟨k, x⟩ := member
    rw [List.filter_cons, find?_cons]
    by_cases hk : k = key
    · subst hk
      by_cases passed : test k = true
      · simp [passed, find?_cons]
      · simpa [passed] using ih
    · rw [if_neg hk, ← ih]
      by_cases passed : test k = true
      · rw [if_pos passed, find?_cons, if_neg hk]
      · rw [if_neg passed]

/-- Members that are changed or dropped one by one get no new keys. -/
theorem keys_filterMap_sublist (f : Json → Option Json) (members : Members) :
    (keys (members.filterMap fun (k, v) => (f v).map fun u => (k, u))).Sublist (keys members) := by
  induction members with
  | nil => exact .slnil
  | cons member rest ih =>
    obtain ⟨k, x⟩ := member
    rw [List.filterMap_cons]
    dsimp only
    cases f x with
    | none => exact ih.cons _
    | some u => exact ih.cons_cons _

/-- What is found of members that are changed or dropped one by one. -/
theorem find?_filterMap (f : Json → Option Json) (nodup : (keys members).Nodup) :
    find? key (members.filterMap fun (k, v) => (f v).map fun u => (k, u)) =
      (find? key members).bind f := by
  induction members with
  | nil => rfl
  | cons member rest ih =>
    obtain ⟨k, x⟩ := member
    obtain ⟨fresh, nodup⟩ := List.nodup_cons.mp nodup
    have ih := ih nodup
    rw [find?_cons]
    by_cases hk : k = key
    · rw [find?_eq_none_iff.mpr fun mem => fresh (hk ▸ mem)] at ih
      rw [if_pos hk, Option.bind_some]
      cases image : f x with
      | none => rwa [List.filterMap_cons_none (by simp only [image, Option.map_none])]
      | some u =>
        rw [List.filterMap_cons_some (by simp only [image, Option.map_some]; rfl), find?_cons,
          if_pos hk]
    · rw [if_neg hk]
      cases image : f x with
      | none => rwa [List.filterMap_cons_none (by simp only [image, Option.map_none])]
      | some u =>
        rwa [List.filterMap_cons_some (by simp only [image, Option.map_some]; rfl), find?_cons,
          if_neg hk]

/-- The members with the given keys, in the order of the keys. -/
def select (names : List String) (members : Members) : Members :=
  names.filterMap fun name => (find? name members).map (name, ·)

theorem keys_select (names : List String) (members : Members) :
    keys (select names members) = names.filter (has · members) := by
  induction names with
  | nil => rfl
  | cons name names ih =>
    rw [select, List.filterMap_cons, List.filter_cons, has, ← ih]
    cases find? name members <;> rfl

theorem find?_select (names : List String) (members : Members) :
    find? key (select names members) = if key ∈ names then find? key members else none := by
  induction names with
  | nil => rfl
  | cons name names ih =>
    rw [select, List.filterMap_cons]
    by_cases same : name = key
    · subst same
      rw [if_pos List.mem_cons_self]
      cases found : find? name members with
      | none => exact ih.trans (by rw [found, ite_self])
      | some v => simp [find?_cons]
    · have others : (key ∈ name :: names) ↔ key ∈ names := by simp [Ne.symm same]
      simp only [others, ← ih]
      cases find? name members with
      | none => rfl
      | some v => rw [Option.map_some]; exact (find?_cons ..).trans (if_neg same)

/-- Sets several members, one after another. -/
def insertAll (pairs members : Members) : Members :=
  pairs.foldl (fun members (key, v) => insert key v members) members

/-- Of several members that were set each is found, and no other one changes. -/
theorem find?_insertAll {pairs : Members} (nodup : (keys pairs).Nodup) (members : Members) :
    find? key (insertAll pairs members) = (find? key pairs).or (find? key members) := by
  induction pairs generalizing members with
  | nil => rfl
  | cons pair pairs ih =>
    obtain ⟨k, x⟩ := pair
    obtain ⟨fresh, nodup⟩ := List.nodup_cons.mp nodup
    rw [insertAll, List.foldl_cons, ← insertAll, ih nodup, find?_insert, find?_cons]
    split
    · next hk => rw [find?_eq_none_iff.mpr (hk ▸ fresh)]; rfl
    · rfl

/-- Members keep their order when several are set, and new ones go last, in their own order. -/
theorem keys_insertAll {pairs : Members} (nodup : (keys pairs).Nodup) (members : Members) :
    keys (insertAll pairs members) =
      keys members ++ (keys pairs).filter (!has · members) := by
  induction pairs generalizing members with
  | nil => exact (List.append_nil _).symm
  | cons pair pairs ih =>
    obtain ⟨k, x⟩ := pair
    obtain ⟨fresh, nodup⟩ := List.nodup_cons.mp nodup
    have later : (keys pairs).filter (!has · (insert k x members)) =
        (keys pairs).filter (!has · members) := by
      refine List.filter_congr fun l listed => ?_
      have other : k ≠ l := fun same => fresh (same ▸ listed)
      rw [has, find?_insert, if_neg other, ← has]
    have own : (k ∈ keys members) ↔ has k members = true := isSome_find?_iff.symm
    rw [insertAll, List.foldl_cons, ← insertAll, ih nodup, later, keys_insert]
    change _ = _ ++ (k :: keys pairs).filter _
    by_cases there : k ∈ keys members
    · rw [if_pos there, List.filter_cons_of_neg (by simpa using own.mp there)]
    · rw [if_neg there, List.filter_cons_of_pos (by simpa using mt own.mpr there),
        List.append_assoc]
      rfl

end Members

namespace Json

/-! ## Distinct keys -/

theorem distinctItems_iff (items : List Json) : DistinctItems items ↔ ∀ v ∈ items, Distinct v := by
  induction items with
  | nil => simp [DistinctItems]
  | cons v rest ih => simp [DistinctItems, ih]

theorem distinctMembers_iff (members : Members) :
    DistinctMembers members ↔ ∀ k v, (k, v) ∈ members → Distinct v := by
  induction members with
  | nil => simp [DistinctMembers]
  | cons member rest ih =>
    obtain ⟨k, v⟩ := member
    simp only [DistinctMembers, ih, List.mem_cons, Prod.mk.injEq]
    constructor
    · rintro ⟨hv, hrest⟩ l w (⟨rfl, rfl⟩ | h)
      · exact hv
      · exact hrest l w h
    · exact fun h => ⟨h k v (.inl ⟨rfl, rfl⟩), fun l w hw => h l w (.inr hw)⟩

/-- `Distinct` of an array, item by item. -/
theorem distinct_array (items : List Json) :
    Distinct (.array items) ↔ ∀ v ∈ items, Distinct v := distinctItems_iff items

/-- `Distinct` of an object: its own keys, and its members one by one. -/
theorem distinct_object (members : Members) :
    Distinct (.object members) ↔
      (Members.keys members).Nodup ∧ ∀ k v, (k, v) ∈ members → Distinct v :=
  and_congr_right fun _ => distinctMembers_iff members

/-- An item of a value with distinct keys has distinct keys. -/
theorem Distinct.item {items : List Json} (h : Distinct (.array items)) {i : Nat} {v : Json}
    (hv : items[i]? = some v) : Distinct v :=
  (distinct_array items).mp h v (List.mem_of_getElem? hv)

/-- A member of a value with distinct keys has distinct keys. -/
theorem Distinct.member {members : Members} (h : Distinct (.object members)) {key : String}
    {v : Json} (hv : Members.find? key members = some v) : Distinct v :=
  ((distinct_object members).mp h).2 key v (Members.mem_of_find? hv)

theorem Distinct.keys {members : Members} (h : Distinct (.object members)) :
    (Members.keys members).Nodup := ((distinct_object members).mp h).1

/-- Setting a member keeps the keys of a value distinct. -/
theorem distinct_insert {members : Members} (h : Distinct (.object members)) (key : String)
    {v : Json} (hv : Distinct v) : Distinct (.object (Members.insert key v members)) := by
  refine (distinct_object _).mpr ⟨Members.nodup_insert h.keys key v, fun k x hx => ?_⟩
  rcases Members.mem_insert hx with hx | hx
  · cases hx; exact hv
  · exact ((distinct_object members).mp h).2 k x hx

end Json

end UiStream
