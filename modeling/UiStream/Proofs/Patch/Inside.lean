import UiStream.Patch.Apply
import UiStream.Proofs.Pointer.Inverse

/-!
# Moves into what is moved

A move to a place inside the moved value is refused if its path repeats the tokens of the source,
and only then (`Patch.move_inside_iff`).  That is always so where indices are written without zeros
in front (`Pointer.Canonical`).  An index that is written in another way leads to the same item and
is not recognised: the move takes the value out, and its path then leads into what has come to stand
in the place (`Patch.move_inside_itself`).

`Json.SameWay` says that two lists of tokens lead the same way through a document.
-/

namespace UiStream

open Pointer

/-- Two lists of tokens select the same child of each container on their way: an item of an array by
its index, a member of an object by its key. -/
inductive Json.SameWay : Json → List String → List String → Prop
  | stop (doc : Json) : SameWay doc [] []
  | item {token other : String} {i : Nat} {items : List Json} {inner : Json}
      {rest more : List String} (place : index? token = some i) (again : index? other = some i)
      (found : items[i]? = some inner) (onward : SameWay inner rest more) :
      SameWay (.array items) (token :: rest) (other :: more)
  | member {key : String} {members : Members} {inner : Json} {rest more : List String}
      (found : Members.find? key members = some inner) (onward : SameWay inner rest more) :
      SameWay (.object members) (key :: rest) (key :: more)

namespace Pointer

/-- A token that is an index is written as indices are, without zeros in front. -/
def Canonical (token : String) : Prop := ∀ i ∈ index? token, token = toString i

instance (token : String) : Decidable (Canonical token) :=
  inferInstanceAs (Decidable (∀ i ∈ index? token, _))

/-- What is there can be removed. -/
theorem exists_removed {tokens : List String} (given : tokens ≠ []) {doc value : Json}
    (found : doc.get? tokens = some value) : ∃ rest, Removed tokens doc value rest := by
  induction tokens generalizing doc with
  | nil => exact absurd rfl given
  | cons token rest ih =>
    obtain ⟨child, here, found⟩ := Option.bind_eq_some_iff.mp found
    cases rest with
    | cons next rest =>
      obtain ⟨left, removed⟩ := ih (List.cons_ne_nil next rest) found
      exact ⟨_, removed.behind here⟩
    | nil =>
      cases found
      cases doc with
      | array items =>
        obtain ⟨i, place, here⟩ := Option.bind_eq_some_iff.mp here
        exact ⟨_, .item place here⟩
      | object members => exact ⟨_, .member here⟩
      | null | bool | number | string => cases here

end Pointer

namespace Json.SameWay

variable {doc : Json} {tokens way : List String}

/-- Tokens that lead the same way as others lead to a value. -/
theorem exists_get? (same : doc.SameWay tokens way) : ∃ value, doc.get? tokens = some value := by
  induction same with
  | stop doc => exact ⟨doc, rfl⟩
  | @item token other i items inner rest more place again found onward ih =>
    have child : (Json.array items).child? token = some inner := by
      rw [child?, place, Option.bind_some, found]
    rw [get?, child]
    exact ih
  | @member key members inner rest more found onward ih =>
    have child : (Json.object members).child? key = some inner := found
    rw [get?, child]
    exact ih

theorem length_eq (same : doc.SameWay tokens way) : way.length = tokens.length := by
  induction same with
  | stop doc => rfl
  | item place again found onward ih | member found onward ih => exact congrArg Nat.succ ih

/-- There is one way to write the tokens if indices are written without zeros in front. -/
theorem eq_of_canonical (same : doc.SameWay tokens way)
    (canonical : ∀ token ∈ tokens ++ way, Canonical token) : way = tokens := by
  induction same with
  | stop doc => rfl
  | @item token other i items inner rest more place again found onward ih =>
    have one : token = toString i := canonical token (by simp) i place
    have two : other = toString i := canonical other (by simp) i again
    rw [one, two, ih fun t mem => canonical t ?_]
    simp only [List.mem_append, List.mem_cons] at mem ⊢
    exact mem.imp .inr .inr
  | @member key members inner rest more found onward ih =>
    rw [ih fun t mem => canonical t ?_]
    simp only [List.mem_append, List.mem_cons] at mem ⊢
    exact mem.imp .inr .inr

end Json.SameWay

namespace Patch

/-- A path leads strictly below a source if it repeats its tokens and goes on. -/
theorem isStrictlyBelow_iff {source path : String} {way below : List String}
    (leads : tokens path = way ++ below) (inside : below ≠ [])
    (long : way.length = (tokens source).length) :
    isStrictlyBelow source path = true ↔ way = tokens source := by
  have longer : (tokens source).length < (tokens path).length := by
    rw [leads, List.length_append, long]
    exact Nat.lt_add_of_pos_right (List.length_pos_iff.mpr inside)
  rw [isStrictlyBelow, Bool.and_eq_true, decide_eq_true_eq, and_iff_left longer,
    List.isPrefixOf_iff_prefix, leads]
  constructor
  · rintro ⟨behind, split⟩
    exact (List.append_inj_left split long.symm).symm
  · rintro rfl
    exact List.prefix_append _ below

/-- A move that is not refused takes the value out and adds it at its path.  If it cannot be added,
the value is put back. -/
theorem apply_move_of_removed {source path : String} {doc value rest restored : Json}
    (outside : isStrictlyBelow source path = false)
    (taken : doc.removeAt? source = some (value, rest))
    (back : rest.addAt source value = .ok restored) :
    (move source path).apply doc = .ofWrite restored (rest.addAt path value) := by
  rw [apply, applyMove, if_neg (ne_true_of_eq_false outside), taken]
  cases added : rest.addAt path value with
  | ok moved => simp only [added]; rfl
  | error error => simp only [added, back]; rfl

/-- **When a move into the moved value is refused.**  Let the tokens of a path lead the same way as
those of a source that is not the document, and on into the value there.  The move is refused, and
the document stays as it is, if and only if the path repeats the tokens of the source as they are
written; so it is where indices have no zeros in front.  Otherwise the value is taken out, and is
added where the path leads in what is left. -/
theorem move_inside_iff {doc : Json} {source path : String} {way below : List String}
    (given : tokens source ≠ []) (leads : tokens path = way ++ below) (inside : below ≠ [])
    (same : doc.SameWay (tokens source) way) :
    ((move source path).apply doc = .failed doc (.moveIntoSelf source path) ↔
      way = tokens source) ∧
    ((∀ token ∈ tokens source ++ tokens path, Canonical token) →
      (move source path).apply doc = .failed doc (.moveIntoSelf source path)) ∧
    (way ≠ tokens source → ∃ value rest restored,
      doc.removeAt? source = some (value, rest) ∧ rest.addAt source value = .ok restored ∧
        (move source path).apply doc = .ofWrite restored (rest.addAt path value)) := by
  have below_iff := isStrictlyBelow_iff leads inside same.length_eq
  have refused (repeated : way = tokens source) :
      (move source path).apply doc = .failed doc (.moveIntoSelf source path) := by
    rw [apply, applyMove, if_pos (below_iff.mpr repeated)]
  have moved (other : way ≠ tokens source) : ∃ value rest restored,
      doc.removeAt? source = some (value, rest) ∧ rest.addAt source value = .ok restored ∧
        (move source path).apply doc = .ofWrite restored (rest.addAt path value) := by
    obtain ⟨value, found⟩ := same.exists_get?
    obtain ⟨rest, removed⟩ := exists_removed given found
    exact ⟨value, rest, _, removed.removeTokens?, removed.addAt,
      apply_move_of_removed (Bool.eq_false_iff.mpr (mt below_iff.mp other))
        removed.removeTokens? removed.addAt⟩
  refine ⟨⟨fun fails => ?_, refused⟩, fun canonical => ?_, moved⟩
  · refine Decidable.byContradiction fun other => ?_
    obtain ⟨value, rest, restored, -, -, applied⟩ := moved other
    rw [applied] at fails
    cases added : rest.addAt path value <;> rw [added] at fails <;> cases fails
  · refine refused (same.eq_of_canonical fun token mem => canonical token ?_)
    rw [leads]
    simp only [List.mem_append] at mem ⊢
    exact mem.imp_right .inl

/-- A move into a member of an item of a list: it is refused, and so it is not if the index of the
item is written with a zero in front. -/
theorem move_inside_iff_rows :
    let row : Json := .object [("a/b", .array [])]
    let doc : Json := .object [("rows", .array [.null, row])]
    let left : Json := .object [("rows", .array [.null, .object []])]
    tokens "/rows/1/a~1b" ≠ [] ∧ tokens "rows/1/a~1b/-" = ["rows", "1", "a/b"] ++ ["-"] ∧
      doc.SameWay (tokens "/rows/1/a~1b") ["rows", "1", "a/b"] ∧
      doc.SameWay (tokens "/rows/1/a~1b") ["rows", "01", "a/b"] ∧
      (move "/rows/1/a~1b" "rows/1/a~1b/-").apply doc =
        .failed doc (.moveIntoSelf "/rows/1/a~1b" "rows/1/a~1b/-") ∧
      ∃ restored, left.addAt "/rows/1/a~1b" (.array []) = .ok restored ∧
        (move "/rows/1/a~1b" "rows/01/a~1b/-").apply doc =
          .ofWrite restored (left.addAt "rows/01/a~1b/-" (.array [])) := by
  intro row doc left
  have given : tokens "/rows/1/a~1b" ≠ [] := by decide +kernel
  have leads : tokens "rows/1/a~1b/-" = ["rows", "1", "a/b"] ++ ["-"] := by decide +kernel
  have other : tokens "rows/01/a~1b/-" = ["rows", "01", "a/b"] ++ ["-"] := by decide +kernel
  have source : tokens "/rows/1/a~1b" = ["rows", "1", "a/b"] := by decide +kernel
  have same : doc.SameWay (tokens "/rows/1/a~1b") ["rows", "1", "a/b"] :=
    source ▸ .member rfl (.item (i := 1) rfl rfl rfl (.member rfl (.stop _)))
  have again : doc.SameWay (tokens "/rows/1/a~1b") ["rows", "01", "a/b"] :=
    source ▸ .member rfl (.item (i := 1) rfl (by decide) rfl (.member rfl (.stop _)))
  have taken : doc.removeAt? "/rows/1/a~1b" = some (.array [], left) := by decide +kernel
  have refused := (move_inside_iff given leads (by decide) same).1.mpr source.symm
  have escapes : ["rows", "01", "a/b"] ≠ tokens "/rows/1/a~1b" := by decide +kernel
  obtain ⟨value, rest, restored, removed, back, applied⟩ :=
    (move_inside_iff given other (by decide) again).2.2 escapes
  cases taken.symm.trans removed
  exact ⟨given, leads, same, again, refused, restored, back, applied⟩

/-- An item is moved into itself by another spelling of its index, and ends up in the item that was
behind it. -/
theorem move_inside_itself :
    let doc : Json := .object [("list", .array [.object [("a", .null)], .object []])]
    let moved : Json := .object [("list", .array [.object [("x", .object [("a", .null)])]])]
    doc.SameWay (tokens "/list/0") ["list", "00"] ∧
      tokens "/list/00/x" = ["list", "00"] ++ ["x"] ∧
      (move "/list/0" "/list/00/x").apply doc = .done moved ∧
      (move "/list/0" "/list/00/x").apply doc ≠
        .failed doc (.moveIntoSelf "/list/0" "/list/00/x") := by
  intro doc moved
  have source : tokens "/list/0" = ["list", "0"] := by decide +kernel
  exact ⟨source ▸ .member rfl (.item (i := 0) rfl (by decide) rfl (.stop _)), by decide +kernel,
    by decide +kernel, by decide +kernel⟩

end Patch

end UiStream
