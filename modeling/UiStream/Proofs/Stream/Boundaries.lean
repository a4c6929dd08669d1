import UiStream.Proofs.Stream.Filtered

/-!
# Boundaries of deltas

A text comes in deltas that may be cut anywhere, with parts of other kinds between them.  Neither
shows in what a filter makes of the text (`PartFilter.delta_boundaries`): two deltas lead to the
state that one delta with both texts leads to and, once the prose on both sides of the cut is put
together, to the same parts; and a part of another kind goes through between them and changes
nothing.

The filter puts prose together within a delta only.  `Piece.attach` is how one piece joins those
behind it, and merging is attaching from the back (`Piece.merge_eq_foldr`).  As attaching is
associative, it does not matter whether pieces are merged before they are put behind one another
(`Piece.merge_append`).
-/

namespace UiStream

/-! ## Merging pieces -/

namespace Piece

/-- A piece in front of merged ones. -/
def attach : Piece → List Piece → List Piece
  | .patch p, merged => .patch p :: merged
  | .prose [], merged => merged
  | .prose (c :: cs), .prose later :: merged => .prose (c :: cs ++ later) :: merged
  | .prose (c :: cs), merged => .prose (c :: cs) :: merged

theorem merge_cons (piece : Piece) (rest : List Piece) :
    merge (piece :: rest) = attach piece (merge rest) := by
  cases piece with
  | patch p => rfl
  | prose text =>
    cases text with
    | nil => rfl
    | cons c cs =>
      cases later : merge rest with
      | nil => simp only [merge, later, attach]
      | cons next merged => cases next <;> simp only [merge, later, attach]

/-- Merging is attaching from the back. -/
theorem merge_eq_foldr (pieces : List Piece) : merge pieces = pieces.foldr attach [] := by
  induction pieces with
  | nil => rfl
  | cons piece rest ih => rw [merge_cons, ih, List.foldr_cons]

/-- Prose in two pieces is attached like prose in one. -/
theorem attach_attach (first second : List Char) (merged : List Piece) :
    attach (.prose first) (attach (.prose second) merged) =
      attach (.prose (first ++ second)) merged := by
  cases first with
  | nil => rfl
  | cons c cs =>
    cases second with
    | nil => rw [List.append_nil]; rfl
    | cons d ds =>
      cases merged with
      | nil => rfl
      | cons next merged =>
        cases next with
        | patch p => rfl
        | prose later => simp only [attach, List.cons_append, List.append_assoc]

/-- What is attached to pieces is attached to what comes behind them. -/
theorem foldr_attach (piece : Piece) (pieces merged : List Piece) :
    (attach piece pieces).foldr attach merged = attach piece (pieces.foldr attach merged) := by
  cases piece with
  | patch p => rfl
  | prose text =>
    cases text with
    | nil => rfl
    | cons c cs =>
      cases pieces with
      | nil => rfl
      | cons next rest =>
        cases next with
        | patch p => rfl
        | prose later => exact (attach_attach (c :: cs) later _).symm

/-- Merged pieces are attached like those they are made of. -/
theorem foldr_merge (pieces merged : List Piece) :
    (merge pieces).foldr attach merged = pieces.foldr attach merged := by
  induction pieces with
  | nil => rfl
  | cons piece rest ih => rw [merge_cons, foldr_attach, ih, List.foldr_cons]

/-- Pieces may be merged before they are put behind one another. -/
theorem merge_append (a b : List Piece) : merge (merge a ++ merge b) = merge (a ++ b) := by
  rw [merge_eq_foldr, List.foldr_append, foldr_merge, foldr_merge, ← List.foldr_append,
    ← merge_eq_foldr]

end Piece

/-! ## Merging deltas -/

namespace StreamPart

/-- Deltas of one text that follow one another made one. -/
def mergeDeltas : List StreamPart → List StreamPart
  | [] => []
  | .textDelta id text :: rest =>
    match mergeDeltas rest with
    | .textDelta next later :: merged =>
      if id = next then .textDelta id (text ++ later) :: merged
      else .textDelta id text :: .textDelta next later :: merged
    | merged => .textDelta id text :: merged
  | part :: rest => part :: mergeDeltas rest

/-- Merging parts of one text is merging the pieces that they are made of, of which none is
empty. -/
theorem mergeDeltas_toPart (id : String) {pieces : List Piece}
    (full : ∀ piece ∈ pieces, piece.atoms ≠ []) :
    mergeDeltas (pieces.map (Piece.toPart id)) = (Piece.merge pieces).map (Piece.toPart id) := by
  induction pieces with
  | nil => rfl
  | cons piece rest ih =>
    obtain ⟨solid, others⟩ := List.forall_mem_cons.mp full
    have later := ih others
    rw [Piece.merge_cons, List.map_cons]
    cases piece with
    | patch p =>
      rw [Piece.toPart, mergeDeltas, later]
      · rfl
      · intro id text same
        cases same
    | prose text =>
      cases text with
      | nil => exact absurd rfl solid
      | cons c cs =>
        rw [Piece.toPart, mergeDeltas, later]
        cases Piece.merge rest with
        | nil => rfl
        | cons next merged =>
          cases next with
          | patch p => rfl
          | prose text =>
            simp only [List.map_cons, Piece.toPart, Piece.attach, if_true, String.ofList_append]

/-- A part of another kind than texts. -/
def isOther : StreamPart → Bool
  | .other _ => true
  | .textStart _ | .textDelta _ _ | .textEnd _ | .patch _ => false

end StreamPart

namespace PartFilter

open StreamPart (mergeDeltas)

/-- What is given out in two goes, put together, is what is given out in one. -/
theorem mergeDeltas_emit (filter : PartFilter) (a b : List Piece) :
    mergeDeltas (filter.emit a ++ filter.emit b) = filter.emit (a ++ b) := by
  have full : ∀ piece ∈ Piece.merge a ++ Piece.merge b, piece.atoms ≠ [] := by
    intro piece among
    rcases List.mem_append.mp among with among | among <;>
      exact Piece.atoms_ne_nil_of_mem_merge among
  rw [emit, emit, ← List.map_append, StreamPart.mergeDeltas_toPart _ full, Piece.merge_append]
  rfl

/-- What is given out is put together already. -/
theorem mergeDeltas_emit_self (filter : PartFilter) (pieces : List Piece) :
    mergeDeltas (filter.emit pieces) = filter.emit pieces := by
  have alone := filter.mergeDeltas_emit pieces []
  rw [List.append_nil] at alone
  exact (congrArg mergeDeltas (List.append_nil _).symm).trans alone

/-! ## Parts one by one -/

/-- Each part with the parts that are given out for it. -/
def replies : PartFilter → List StreamPart → List (StreamPart × List StreamPart)
  | _, [] => []
  | filter, part :: rest =>
    (part, (filter.transform part).1) :: (filter.transform part).2.replies rest

theorem map_replies (filter : PartFilter) (parts : List StreamPart) :
    (filter.replies parts).map (·.1) = parts := by
  induction parts generalizing filter with
  | nil => rfl
  | cons part rest ih => exact congrArg (part :: ·) (ih (filter.transform part).2)

/-- What is given out for parts one by one is what is given out for them in order. -/
theorem flatMap_replies (filter : PartFilter) (parts : List StreamPart) :
    (filter.replies parts).flatMap (·.2) = (filter.transformAll parts).1 := by
  induction parts generalizing filter with
  | nil => rfl
  | cons part rest ih => rw [replies, List.flatMap_cons, ih, transformAll]

/-- A part of another kind goes through and changes nothing. -/
theorem transform_isOther (filter : PartFilter) {part : StreamPart} (other : part.isOther = true) :
    filter.transform part = ([part], filter) := by
  cases part with
  | other value => rfl
  | textStart | textDelta | textEnd | patch => cases other

/-- Parts of another kind do not change the state that parts lead to. -/
theorem transformAll_filter (filter : PartFilter) (parts : List StreamPart) :
    (filter.transformAll (parts.filter (!·.isOther))).2 = (filter.transformAll parts).2 := by
  induction parts generalizing filter with
  | nil => rfl
  | cons part rest ih =>
    rw [List.filter_cons, transformAll]
    cases other : part.isOther with
    | true => rw [transform_isOther filter other]; exact ih filter
    | false => exact ih (filter.transform part).2

/-- Parts of another kind do not change what is given out for the others. -/
theorem replies_filter (filter : PartFilter) (parts : List StreamPart) :
    filter.replies (parts.filter (!·.isOther)) =
      (filter.replies parts).filter (!·.1.isOther) := by
  induction parts generalizing filter with
  | nil => rfl
  | cons part rest ih =>
    rw [List.filter_cons, replies, List.filter_cons]
    cases other : part.isOther with
    | true => rw [transform_isOther filter other]; exact ih filter
    | false => exact congrArg (_ :: ·) (ih (filter.transform part).2)

/-- For a part of another kind that part is given out. -/
theorem replies_isOther (filter : PartFilter) (parts : List StreamPart) :
    (filter.replies parts).filter (·.1.isOther) =
      (parts.filter (·.isOther)).map fun part => (part, [part]) := by
  induction parts generalizing filter with
  | nil => rfl
  | cons part rest ih =>
    rw [List.filter_cons, replies, List.filter_cons]
    cases other : part.isOther with
    | true => rw [transform_isOther filter other]; exact congrArg (_ :: ·) (ih filter)
    | false => exact ih (filter.transform part).2

/-! ## Where deltas are cut -/

/-- What a delta gives out, and the state behind it. -/
theorem transform_textDelta (filter : PartFilter) (id text : String) :
    filter.transform (.textDelta id text) =
      ((filter.named id).emit (filter.feed text.toList).1,
        (filter.feed text.toList).2.named id) := by
  have fed : filter.transform (.textDelta id text) =
      ((filter.named id).emit ((filter.named id).feed text.toList).1,
        ((filter.named id).feed text.toList).2) := rfl
  rw [fed, feed_named]

/-- Two deltas lead where one leads that has both texts. -/
theorem transform_transform (filter : PartFilter) (id a b : String) :
    let first := filter.transform (.textDelta id a)
    let second := first.2.transform (.textDelta id b)
    let whole := filter.transform (.textDelta id (a ++ b))
    second.2 = whole.2 ∧ mergeDeltas (first.1 ++ second.1) = whole.1 := by
  intro first second whole
  have cut := feed_append filter a.toList b.toList
  rw [← String.toList_append] at cut
  have here : first = _ := transform_textDelta filter id a
  have there : second = _ := transform_textDelta first.2 id b
  have both : whole = _ := transform_textDelta filter id (a ++ b)
  rw [here, feed_named] at there
  rw [here, there, both, cut]
  exact ⟨rfl, mergeDeltas_emit (filter.named id) _ _⟩

/-- **Boundaries of deltas do not show.**  Wherever a filter stands, two deltas of a text lead it to
the state that one delta leads it to and, with the prose at the cut put together, give out what the
one gives out.  Parts of another kind among any parts go through in their places, and neither the
state nor what is given out for the other parts depends on them. -/
theorem delta_boundaries (filter : PartFilter) :
    (∀ id a b : String,
      let first := filter.transform (.textDelta id a)
      let second := first.2.transform (.textDelta id b)
      let whole := filter.transform (.textDelta id (a ++ b))
      second.2 = whole.2 ∧ mergeDeltas (first.1 ++ second.1) = whole.1 ∧
        mergeDeltas whole.1 = whole.1) ∧
    ∀ parts : List StreamPart,
      let texts := parts.filter (!·.isOther)
      let replies := filter.replies parts
      replies.map (·.1) = parts ∧ replies.flatMap (·.2) = (filter.transformAll parts).1 ∧
        replies.filter (·.1.isOther) = (parts.filter (·.isOther)).map (fun part => (part, [part])) ∧
        replies.filter (!·.1.isOther) = filter.replies texts ∧
        (filter.transformAll parts).2 = (filter.transformAll texts).2 := by
  refine ⟨fun id a b => ?_, fun parts => ?_⟩
  · obtain ⟨state, given⟩ := filter.transform_transform id a b
    refine ⟨state, given, ?_⟩
    rw [transform_textDelta]
    exact mergeDeltas_emit_self _ _
  · exact ⟨filter.map_replies parts, filter.flatMap_replies parts, filter.replies_isOther parts,
      (filter.replies_filter parts).symm, (filter.transformAll_filter parts).symm⟩

end PartFilter

end UiStream
