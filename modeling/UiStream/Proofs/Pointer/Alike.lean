import UiStream.Pointer.Write
import UiStream.Proofs.Json.Alike
import UiStream.Proofs.Pointer.Restore

/-!
# Pointers into alike documents

Reading, writing and removing at a pointer take alike documents to alike results, and fail alike
(`at?_alike`, `setAt_alike`, `addAt_alike`, `removeAt?_alike`).  A member that stands last
(`MovedLast`) leaves a document alike.
-/

namespace UiStream

open Json (Alike alike_self alike_array alike_object)

/-- A document in which one member has been moved to the end of its object is alike. -/
theorem MovedLast.alike {tokens : List String} {doc moved : Json} (h : MovedLast tokens doc moved)
    (distinct : doc.Distinct) : Alike doc moved := by
  induction h with
  | last found => exact Json.alike_moved_last distinct found
  | @item token rest i items before after place found moved ih =>
    have set := Json.alike_set (alike_self.mpr distinct) i (ih (distinct.item found))
    obtain ⟨inside, rfl⟩ := List.getElem?_eq_some_iff.mp found
    rwa [List.set_getElem_self] at set
  | @member key rest members before after found moved ih =>
    have set := Json.alike_insert (alike_self.mpr distinct) key (ih (distinct.member found))
    rwa [Members.insert_of_find? found] at set

/-! ## Reading -/

namespace Json

theorem child?_alike {a b : Json} (h : Alike a b) (token : String) :
    Option.Rel Alike (a.child? token) (b.child? token) := by
  cases h with
  | null | bool | number | string => exact .none
  | array length each =>
    rw [child?, child?]
    cases Pointer.index? token with
    | none => exact .none
    | some i => exact (alike_array.mp (.array length each)).2 i
  | object nodup nodup' keys each =>
    exact (alike_object.mp (.object nodup nodup' keys each)).2.2 token

theorem get?_alike {a b : Json} (h : Alike a b) (tokens : List String) :
    Option.Rel Alike (a.get? tokens) (b.get? tokens) := by
  induction tokens generalizing a b with
  | nil => exact .some h
  | cons token rest ih => exact (child?_alike h token).bind fun _ _ h => ih h

/-- Alike documents have alike values at a pointer. -/
theorem at?_alike {a b : Json} (h : Alike a b) (pointer : String) :
    Option.Rel Alike (a.at? pointer) (b.at? pointer) := get?_alike h _

end Json

namespace Pointer

/-! ## Writing -/

/-- The same tokens may be written to in alike documents. -/
theorem checkWritable_alike {a b : Option Json} (h : Option.Rel Alike a b) (pointer : String)
    (tokens : List String) :
    checkWritable pointer tokens a = checkWritable pointer tokens b := by
  induction tokens generalizing a b with
  | nil => simp [checkWritable]
  | cons token rest ih =>
    cases h with
    | none => rfl
    | some h =>
      cases h with
      | null | bool | number | string => rfl
      | array length each =>
        rw [checkWritable, checkWritable, length]
        congr 1
        funext _
        exact ih (Json.child?_alike (.array length each) token)
      | object nodup nodup' keys each =>
        rw [checkWritable, checkWritable]
        exact ih (Json.child?_alike (.object nodup nodup' keys each) token)

/-- Alike documents become alike arrays or alike objects. -/
theorem vivify_alike {a b : Json} (h : Alike a b) (token : String) :
    (∃ items others, vivify token a = .array items ∧ vivify token b = .array others ∧
      Alike (.array items) (.array others)) ∨
    ∃ members others, vivify token a = .object members ∧ vivify token b = .object others ∧
      Alike (.object members) (.object others) := by
  cases h with
  | null | bool | number | string =>
    by_cases array : isArrayToken token
    · exact .inl ⟨[], [], if_pos array, if_pos array, Json.alike_nil⟩
    · exact .inr ⟨[], [], if_neg array, if_neg array, Json.alike_emptyObject⟩
  | array length each => exact .inl ⟨_, _, rfl, rfl, .array length each⟩
  | object nodup nodup' keys each => exact .inr ⟨_, _, rfl, rfl, .object nodup nodup' keys each⟩

theorem padTo_alike {items others : List Json} (h : Alike (.array items) (.array others))
    (length : Nat) : Alike (.array (padTo length items)) (.array (padTo length others)) := by
  rw [padTo, padTo, (alike_array.mp h).1]
  exact Json.alike_append h (Json.alike_replicate _ .null)

/-- A way to put a value into an array that does not see the order of members. -/
def Respectful (place : String → Json → List Json → List Json) : Prop :=
  ∀ token v w items others, Alike v w → Alike (.array items) (.array others) →
    Alike (.array (place token v items)) (.array (place token w others))

theorem setItem_respectful : Respectful setItem := by
  intro token v w items others hv h
  have last {items others : List Json} (h : Alike (.array items) (.array others)) :
      Alike (.array (items ++ [v])) (.array (others ++ [w])) :=
    Json.alike_append h (Json.alike_singleton hv)
  unfold setItem
  cases index? token with
  | none => exact last h
  | some i =>
    dsimp only
    rw [(alike_array.mp h).1]
    split
    · exact Json.alike_set h i hv
    · exact last (padTo_alike h i)

theorem addItem_respectful : Respectful addItem := by
  intro token v w items others hv h
  have last := Json.alike_append h (Json.alike_singleton hv)
  unfold addItem
  cases index? token with
  | none => exact last
  | some i =>
    dsimp only
    rw [(alike_array.mp h).1]
    split
    · exact Json.alike_insertIdx h i hv
    · exact last

/-- Writing takes alike values into alike documents to alike documents. -/
theorem writeTokens_alike {place : String → Json → List Json → List Json}
    (respectful : Respectful place) {v w : Json} (hv : Alike v w) (tokens : List String)
    {a b : Json} (h : Alike a b) :
    Alike (writeTokens place v tokens a) (writeTokens place w tokens b) := by
  induction tokens generalizing a b with
  | nil => exact hv
  | cons token rest ih =>
    cases rest with
    | nil =>
      rw [writeTokens, writeTokens]
      obtain ⟨items, others, ha, hb, made⟩ | ⟨members, others, ha, hb, made⟩ :=
        vivify_alike h token
      · simp only [ha, hb]
        exact respectful token v w items others hv made
      · simp only [ha, hb]
        exact Json.alike_insert made token hv
    | cons next rest =>
      rw [writeTokens, writeTokens]
      obtain ⟨items, others, ha, hb, made⟩ | ⟨members, others, ha, hb, made⟩ :=
        vivify_alike h token
      · simp only [ha, hb, (alike_array.mp made).1]
        exact Json.alike_modify (padTo_alike made _) _ fun _ _ h => ih h
      · simp only [ha, hb]
        refine Json.alike_insert made token (ih ?_)
        have found := (alike_object.mp made).2.2 token
        revert found
        generalize Members.find? token members = one
        generalize Members.find? token others = other
        rintro (h | _)
        · exact h
        · exact .null

/-! ## Removing -/

/-- Removing takes alike values from alike documents and leaves alike documents. -/
theorem removeTokens?_alike (tokens : List String) {a b : Json} (h : Alike a b) :
    Option.Rel (fun x y => Alike x.1 y.1 ∧ Alike x.2 y.2) (removeTokens? tokens a)
      (removeTokens? tokens b) := by
  induction tokens generalizing a b with
  | nil => exact .none
  | cons token rest ih =>
    cases h with
    | null | bool | number | string => cases rest <;> exact .none
    | @array items others length each =>
      have alike : Alike (.array items) (.array others) := .array length each
      cases place : index? token with
      | none => cases rest <;> simp only [removeTokens?, place, Option.bind_none] <;> exact .none
      | some i =>
        have at_i := (alike_array.mp alike).2 i
        cases rest with
        | nil =>
          simp only [removeTokens?, place, Option.bind_some]
          exact at_i.map fun _ _ h => ⟨h, Json.alike_eraseIdx alike i⟩
        | cons next rest =>
          simp only [removeTokens?, place, Option.bind_some]
          exact at_i.bind fun _ _ h =>
            (ih h).map fun _ _ taken => ⟨taken.1, Json.alike_set alike i taken.2⟩
    | @object members others nodup nodup' keys each =>
      have alike : Alike (.object members) (.object others) := .object nodup nodup' keys each
      have at_key := (alike_object.mp alike).2.2 token
      cases rest with
      | nil =>
        rw [removeTokens?, removeTokens?]
        exact at_key.map fun _ _ h => ⟨h, Json.alike_erase alike token⟩
      | cons next rest =>
        rw [removeTokens?, removeTokens?]
        exact at_key.bind fun _ _ h =>
          (ih h).map fun _ _ taken => ⟨taken.1, Json.alike_insert alike token taken.2⟩

end Pointer

/-! ## Documents at a pointer -/

/-- Both writes fail, for the same reason, or give alike documents. -/
inductive WritesAlike : Except PointerError Json → Except PointerError Json → Prop
  | ok {a b : Json} (h : Alike a b) : WritesAlike (.ok a) (.ok b)
  | error (e : PointerError) : WritesAlike (.error e) (.error e)

namespace Json

variable {a b v w : Json}

theorem setAt_alike (h : Alike a b) (pointer : String) (hv : Alike v w) :
    WritesAlike (a.setAt pointer v) (b.setAt pointer w) := by
  unfold setAt
  split
  · exact .ok hv
  · rw [Pointer.checkWritable_alike (.some h)]
    cases Pointer.checkWritable pointer _ (some b) with
    | ok _ => exact .ok (Pointer.writeTokens_alike Pointer.setItem_respectful hv _ h)
    | error e => exact .error e

theorem addAt_alike (h : Alike a b) (pointer : String) (hv : Alike v w) :
    WritesAlike (a.addAt pointer v) (b.addAt pointer w) := by
  unfold addAt
  split
  · exact .ok hv
  · rw [Pointer.checkWritable_alike (.some h)]
    cases Pointer.checkWritable pointer _ (some b) with
    | ok _ => exact .ok (Pointer.writeTokens_alike Pointer.addItem_respectful hv _ h)
    | error e => exact .error e

theorem removeAt?_alike (h : Alike a b) (pointer : String) :
    Option.Rel (fun x y => Alike x.1 y.1 ∧ Alike x.2 y.2) (a.removeAt? pointer)
      (b.removeAt? pointer) := Pointer.removeTokens?_alike _ h

end Json

end UiStream
