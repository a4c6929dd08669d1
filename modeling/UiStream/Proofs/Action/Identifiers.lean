import UiStream.Action.Identifiers
import UiStream.Proofs.Pointer.Joined
import Mathlib.Data.List.Basic
import Mathlib.Data.List.Nodup

/-!
# Identifiers in values

An identifier ends in its number, and no digit is the dash in front of it, so identifiers with
different numbers differ whatever the clock says (`IdSource.idOf_injective`).

`Json.Filled` says that a value is another one with identifiers in the places of the outermost
requests, in the order of the document.  `Json.withIds` fills a value with the identifiers that come
next and takes as many as there are requests (`Json.filled_withIds`), and leaves no request behind
(`Json.Filled.answered`).  What is filled in can be read off the two values
(`Json.Filled.ids_unique`), so a run of a source issues the identifiers of as many numbers in a row
(`IdSource.Issues.eq_upcoming`), and no two of them are the same.
-/

namespace UiStream

/-! ## Numbers make identifiers different -/

namespace IdSource

variable (source : IdSource)

theorem dash_not_mem_position (n : Nat) : '-' ∉ (toString n).toList := fun inside =>
  absurd (Pointer.isDigit_of_mem_position inside) (by decide)

/-- Identifiers with different numbers differ. -/
theorem idOf_injective : Function.Injective source.idOf := by
  intro m n same
  have texts := congrArg String.toList same
  simp only [idOf, String.toList_append, List.append_assoc] at texts
  have numbers : (toString m).toList = (toString n).toList :=
    ((List.append_cons_inj_of_notMem (dash_not_mem_position _) (dash_not_mem_position _)).mp
      texts).2.2
  rw [← Pointer.digitsValue_position m, numbers, Pointer.digitsValue_position]

/-- No identifier looks like a request. -/
theorem idOf_ne_idRequest (n : Nat) : source.idOf n ≠ idRequest := by
  intro same
  have inside : '-' ∈ (source.idOf n).toList := by simp [idOf]
  rw [same] at inside
  exact absurd inside (by decide)

/-- The source behind some more identifiers. -/
def after (n : Nat) : IdSource := { source with issued := source.issued + n }

/-- The identifiers that come next. -/
def upcoming (n : Nat) : List String := (List.range' (source.issued + 1) n).map source.idOf

theorem upcoming_succ (n : Nat) :
    source.upcoming (n + 1) = source.next.1 :: source.next.2.upcoming n := rfl

theorem upcoming_add (m n : Nat) :
    source.upcoming (m + n) = source.upcoming m ++ (source.after m).upcoming n := by
  have start : source.issued + 1 + m = source.issued + m + 1 := by omega
  rw [upcoming, ← List.range'_append_1, List.map_append, start]
  rfl

theorem after_add (m n : Nat) : source.after (m + n) = (source.after m).after n := by
  simp [after, Nat.add_assoc]

theorem after_succ (n : Nat) : source.after (n + 1) = source.next.2.after n := by
  rw [Nat.add_comm, after_add]
  rfl

theorem nodup_upcoming (n : Nat) : (source.upcoming n).Nodup :=
  (List.nodup_range' 1).map source.idOf_injective

end IdSource

/-! ## Requests -/

namespace Json

/-- A value asks for an identifier: it is the text `$id`, or an object whose only key is `$id`. -/
def IsRequest : Json → Prop
  | .string s => s = idRequest
  | .object members => Members.keys members = [idRequest]
  | _ => False

instance : DecidablePred IsRequest
  | .string s => inferInstanceAs (Decidable (s = idRequest))
  | .object members => inferInstanceAs (Decidable (Members.keys members = [idRequest]))
  | .null | .bool _ | .number _ | .array _ => inferInstanceAs (Decidable False)

mutual

/-- The number of requests in a value that are not inside another one. -/
def requests : Json → Nat
  | .array items => requestsInItems items
  | .object members => if IsRequest (.object members) then 1 else requestsInMembers members
  | v => if IsRequest v then 1 else 0

/-- `requests` through the items of an array. -/
def requestsInItems : List Json → Nat
  | [] => 0
  | v :: rest => requests v + requestsInItems rest

/-- `requests` through the members of an object. -/
def requestsInMembers : List (String × Json) → Nat
  | [] => 0
  | (_, v) :: rest => requests v + requestsInMembers rest
end

/-- A value stands inside another one, at any depth, or is it. -/
inductive Inside (w : Json) : Json → Prop
  | here : Inside w w
  | item {v : Json} {items : List Json} (mem : v ∈ items) (deeper : Inside w v) :
      Inside w (.array items)
  | member {key : String} {v : Json} {members : Members} (mem : (key, v) ∈ members)
      (deeper : Inside w v) : Inside w (.object members)

mutual

/-- A value with identifiers in the places of its outermost requests, in the order of the document,
is another value. -/
inductive Filled : Json → List String → Json → Prop
  | request {v : Json} {id : String} (asks : v.IsRequest) : Filled v [id] (.string id)
  | null : Filled .null [] .null
  | bool (b : Bool) : Filled (.bool b) [] (.bool b)
  | number (n : Number) : Filled (.number n) [] (.number n)
  | string {s : String} (other : ¬ IsRequest (.string s)) : Filled (.string s) [] (.string s)
  | array {items filled : List Json} {ids : List String} (each : FilledItems items ids filled) :
      Filled (.array items) ids (.array filled)
  | object {members filled : List (String × Json)} {ids : List String}
      (other : ¬ IsRequest (.object members)) (each : FilledMembers members ids filled) :
      Filled (.object members) ids (.object filled)

/-- `Filled` through the items of an array. -/
inductive FilledItems : List Json → List String → List Json → Prop
  | nil : FilledItems [] [] []
  | cons {v w : Json} {rest filled : List Json} {ids more : List String} (first : Filled v ids w)
      (later : FilledItems rest more filled) : FilledItems (v :: rest) (ids ++ more) (w :: filled)

/-- `Filled` through the members of an object. -/
inductive FilledMembers : List (String × Json) → List String → List (String × Json) → Prop
  | nil : FilledMembers [] [] []
  | cons {key : String} {v w : Json} {rest filled : List (String × Json)} {ids more : List String}
      (first : Filled v ids w) (later : FilledMembers rest more filled) :
      FilledMembers ((key, v) :: rest) (ids ++ more) ((key, w) :: filled)
end

/-! ## Filling -/

theorem withIds_string (source : IdSource) (s : String) :
    (string s).withIds source =
      if IsRequest (string s) then (string source.next.1, source.next.2)
      else (string s, source) := by
  rw [withIds]
  rfl

theorem withIds_object (source : IdSource) (members : Members) :
    (object members).withIds source =
      if IsRequest (object members) then (string source.next.1, source.next.2)
      else (object (membersWithIds source members).1, (membersWithIds source members).2) := by
  match members with
  | [] => rfl
  | [(key, v)] =>
    simp only [withIds, membersWithIds, IsRequest, Members.keys, List.map_cons, List.map_nil,
      List.cons.injEq, and_true]
  | _ :: _ :: _ =>
    rw [if_neg (by simp [IsRequest, Members.keys]), withIds]
    simp

mutual

/-- A value is filled with the identifiers that come next, as many as it has requests. -/
theorem filled_withIds (source : IdSource) : (v : Json) →
    v.Filled (source.upcoming v.requests) (v.withIds source).1 ∧
      (v.withIds source).2 = source.after v.requests
  | .null => ⟨.null, rfl⟩
  | .bool b => ⟨.bool b, rfl⟩
  | .number n => ⟨.number n, rfl⟩
  | .string s => by
    rw [withIds_string]
    simp only [requests]
    by_cases asks : IsRequest (.string s)
    · rw [if_pos asks, if_pos asks]
      exact ⟨.request asks, rfl⟩
    · rw [if_neg asks, if_neg asks]
      exact ⟨.string asks, rfl⟩
  | .array items => by
    obtain ⟨filled, rest⟩ := filled_itemsWithIds source items
    exact ⟨.array filled, rest⟩
  | .object members => by
    obtain ⟨filled, rest⟩ := filled_membersWithIds source members
    rw [withIds_object, requests]
    by_cases asks : IsRequest (.object members)
    · rw [if_pos asks, if_pos asks]
      exact ⟨.request asks, rfl⟩
    · rw [if_neg asks, if_neg asks]
      exact ⟨.object asks filled, rest⟩

/-- `filled_withIds` through the items of an array. -/
theorem filled_itemsWithIds (source : IdSource) : (items : List Json) →
    FilledItems items (source.upcoming (requestsInItems items)) (itemsWithIds source items).1 ∧
      (itemsWithIds source items).2 = source.after (requestsInItems items)
  | [] => ⟨.nil, rfl⟩
  | v :: rest => by
    obtain ⟨first, behind⟩ := filled_withIds source v
    obtain ⟨later, last⟩ := filled_itemsWithIds (source.after v.requests) rest
    rw [itemsWithIds, requestsInItems, source.upcoming_add, source.after_add]
    simp only [behind]
    exact ⟨.cons first later, last⟩

/-- `filled_withIds` through the members of an object. -/
theorem filled_membersWithIds (source : IdSource) : (members : List (String × Json)) →
    FilledMembers members (source.upcoming (requestsInMembers members))
        (membersWithIds source members).1 ∧
      (membersWithIds source members).2 = source.after (requestsInMembers members)
  | [] => ⟨.nil, rfl⟩
  | (key, v) :: rest => by
    obtain ⟨first, behind⟩ := filled_withIds source v
    obtain ⟨later, last⟩ := filled_membersWithIds (source.after v.requests) rest
    rw [membersWithIds, requestsInMembers, source.upcoming_add, source.after_add]
    simp only [behind]
    exact ⟨.cons first later, last⟩
end

/-! ## What a filled value shows -/

theorem FilledMembers.keys_eq : {members filled : List (String × Json)} → {ids : List String} →
    FilledMembers members ids filled → Members.keys filled = Members.keys members
  | _, _, _, .nil => rfl
  | _, _, _, .cons _ later => congrArg (_ :: ·) later.keys_eq

mutual

/-- A filled value has no request in it, unless an identifier looks like one. -/
theorem Filled.answered : {v w : Json} → {ids : List String} → v.Filled ids w →
    (∀ id ∈ ids, id ≠ idRequest) → ∀ u, Inside u w → ¬ u.IsRequest
  | _, _, _, .request _, other, _, .here => other _ List.mem_cons_self
  | _, _, _, .null, _, _, .here | _, _, _, .bool _, _, _, .here
  | _, _, _, .number _, _, _, .here => id
  | _, _, _, .string plain, _, _, .here => plain
  | _, _, _, .array _, _, _, .here => id
  | _, _, _, .array each, other, _, .item mem deeper => each.answered other _ mem _ deeper
  -- Filling keeps the keys, so it makes no request of an object.
  | _, _, _, .object plain each, _, _, .here => fun asks => plain (each.keys_eq.symm.trans asks)
  | _, _, _, .object _ each, other, _, .member mem deeper => each.answered other _ mem _ deeper

theorem FilledItems.answered : {items filled : List Json} → {ids : List String} →
    FilledItems items ids filled → (∀ id ∈ ids, id ≠ idRequest) →
    ∀ w ∈ filled, ∀ u, Inside u w → ¬ u.IsRequest
  | _, _, _, .cons first later, other, w, mem => by
    obtain rfl | mem := List.mem_cons.mp mem
    · exact first.answered fun id mem => other id (List.mem_append_left _ mem)
    · exact later.answered (fun id mem => other id (List.mem_append_right _ mem)) w mem

theorem FilledMembers.answered : {members filled : List (String × Json)} → {ids : List String} →
    FilledMembers members ids filled → (∀ id ∈ ids, id ≠ idRequest) →
    ∀ member ∈ filled, ∀ u, Inside u member.2 → ¬ u.IsRequest
  | _, _, _, .cons first later, other, member, mem => by
    obtain rfl | mem := List.mem_cons.mp mem
    · exact first.answered fun id mem => other id (List.mem_append_left _ mem)
    · exact later.answered (fun id mem => other id (List.mem_append_right _ mem)) member mem
end

mutual

/-- What was filled in can be read off the two values. -/
theorem Filled.ids_unique : {v w : Json} → {ids ids' : List String} →
    v.Filled ids w → v.Filled ids' w → ids = ids'
  | _, _, _, _, .request _, .request _ => rfl
  | _, _, _, _, .request asks, .string other => absurd asks other
  | _, _, _, _, .null, .null | _, _, _, _, .bool _, .bool _
  | _, _, _, _, .number _, .number _ | _, _, _, _, .string _, .string _ => rfl
  | _, _, _, _, .string other, .request asks => absurd asks other
  | _, _, _, _, .array each, .array each' => each.ids_unique each'
  | _, _, _, _, .object _ each, .object _ each' => each.ids_unique each'

theorem FilledItems.ids_unique : {items filled : List Json} → {ids ids' : List String} →
    FilledItems items ids filled → FilledItems items ids' filled → ids = ids'
  | _, _, _, _, .nil, .nil => rfl
  | _, _, _, _, .cons first later, .cons first' later' => by
    rw [first.ids_unique first', later.ids_unique later']

theorem FilledMembers.ids_unique : {members filled : List (String × Json)} →
    {ids ids' : List String} →
    FilledMembers members ids filled → FilledMembers members ids' filled → ids = ids'
  | _, _, _, _, .nil, .nil => rfl
  | _, _, _, _, .cons first later, .cons first' later' => by
    rw [first.ids_unique first', later.ids_unique later']
end

end Json

/-! ## Runs of a source -/

/-- What a source can be asked for: the next identifier, or those that a value requests. -/
inductive IdCall where
  | next
  | resolve (v : Json)

namespace IdSource

/-- A source issues identifiers, in this order, over a sequence of calls. -/
inductive Issues : IdSource → List IdCall → List String → IdSource → Prop
  | done {source : IdSource} : Issues source [] [] source
  | next {source last : IdSource} {calls : List IdCall} {more : List String}
      (later : Issues source.next.2 calls more last) :
      Issues source (.next :: calls) (source.next.1 :: more) last
  | resolve {source last : IdSource} {v : Json} {calls : List IdCall} {ids more : List String}
      (first : v.Filled ids (v.withIds source).1)
      (later : Issues (v.withIds source).2 calls more last) :
      Issues source (.resolve v :: calls) (ids ++ more) last

/-- Every sequence of calls is answered. -/
theorem exists_issues (calls : List IdCall) (source : IdSource) :
    ∃ ids last, Issues source calls ids last := by
  induction calls generalizing source with
  | nil => exact ⟨[], source, .done⟩
  | cons call calls ih =>
    cases call with
    | next =>
      obtain ⟨more, last, later⟩ := ih source.next.2
      exact ⟨_, last, .next later⟩
    | resolve v =>
      obtain ⟨more, last, later⟩ := ih (v.withIds source).2
      exact ⟨_, last, .resolve (Json.filled_withIds source v).1 later⟩

/-- A run issues the identifiers that come next, one for each number. -/
theorem Issues.eq_upcoming {source last : IdSource} {calls : List IdCall} {ids : List String}
    (run : Issues source calls ids last) :
    ids = source.upcoming ids.length ∧ last = source.after ids.length := by
  induction run with
  | done => exact ⟨rfl, rfl⟩
  | next later ih =>
    rw [List.length_cons, upcoming_succ, after_succ, ← ih.1]
    exact ⟨rfl, ih.2⟩
  | @resolve source last v calls ids more first later ih =>
    -- The run shows only the two values, which leave no choice for `ids`.
    obtain ⟨filled, behind⟩ := Json.filled_withIds source v
    have same : ids = source.upcoming v.requests := first.ids_unique filled
    have count : ids.length = v.requests := by simp [same, upcoming]
    rw [behind] at ih
    rw [List.length_append, count, source.upcoming_add, source.after_add, ← same, ← ih.1]
    exact ⟨rfl, ih.2⟩

/-- **Identifiers are fresh, and a value gets as many as it asks for.**  Over any sequence of calls
no two identifiers are the same, whatever the clock says.  A value comes back with the identifiers
that come next, and no others, in the places of its outermost requests; as many numbers are used up
as there are such requests, and no request is left at any depth. -/
theorem identifiers_fresh_and_complete (source : IdSource) :
    (∀ calls, ∃ ids last, Issues source calls ids last) ∧
    (∀ calls ids last, Issues source calls ids last →
      ids.Nodup ∧ last = source.after ids.length) ∧
    ∀ v : Json,
      (∀ ids, v.Filled ids (v.withIds source).1 ↔ ids = source.upcoming v.requests) ∧
      (v.withIds source).2 = source.after v.requests ∧
      ∀ w : Json, w.Inside (v.withIds source).1 → ¬ w.IsRequest := by
  refine ⟨fun calls => exists_issues calls source, fun calls ids last run => ?_, fun v => ?_⟩
  · obtain ⟨numbered, behind⟩ := run.eq_upcoming
    exact ⟨numbered ▸ source.nodup_upcoming _, behind⟩
  · obtain ⟨filled, behind⟩ := Json.filled_withIds source v
    refine ⟨fun ids => ⟨(·.ids_unique filled), fun same => same ▸ filled⟩, behind, ?_⟩
    refine filled.answered fun id issued => ?_
    obtain ⟨n, _, rfl⟩ := List.mem_map.mp issued
    exact source.idOf_ne_idRequest n

/-- A clock that goes back and stands still; a request inside another, an object with the key `$id`
and another one, and a text that is almost a request. -/
theorem identifiers_fresh_and_complete_lookalikes :
    let source : IdSource := { clock := fun n => if n < 3 then 9 - n else 7 }
    let v : Json := .array [.object [("$id", .array [.string "$id"])],
      .object [("$id", .string "$id"), ("k", .object [("$ID", .string "$id")])], .string "$id "]
    let w : Json := .array [.string "7-2",
      .object [("$id", .string "7-3"), ("k", .object [("$ID", .string "7-4")])], .string "$id "]
    Issues source [.next, .resolve v, .next] ["8-1", "7-2", "7-3", "7-4", "7-5"] (source.after 5) ∧
      ["8-1", "7-2", "7-3", "7-4", "7-5"].Nodup ∧
      v.withIds (source.after 1) = (w, source.after 4) ∧
      v.Filled ["7-2", "7-3", "7-4"] w := by
  intro source v w
  have numbers : (source.after 1).upcoming v.requests = ["7-2", "7-3", "7-4"] := by decide +kernel
  have value : v.withIds (source.after 1) = (w, source.after 4) := by cbv
  have filled : v.Filled ["7-2", "7-3", "7-4"] (v.withIds (source.after 1)).1 :=
    (((identifiers_fresh_and_complete (source.after 1)).2.2 v).1 _).mpr numbers.symm
  have later : Issues (v.withIds (source.after 1)).2 [.next] [(source.after 4).next.1]
      (source.after 5) := by
    rw [value]
    exact .next .done
  have texts : source.next.1 :: (["7-2", "7-3", "7-4"] ++ [(source.after 4).next.1]) =
      ["8-1", "7-2", "7-3", "7-4", "7-5"] := by decide +kernel
  have run : Issues source [.next, .resolve v, .next] ["8-1", "7-2", "7-3", "7-4", "7-5"]
      (source.after 5) := texts ▸ .next (.resolve filled later)
  rw [value] at filled
  exact ⟨run, ((identifiers_fresh_and_complete source).2.1 _ _ _ run).1, value, filled⟩

end IdSource

end UiStream
