/-!
# Splitting and joining at a separator

`splitOn sep s` cuts a list at every `sep`; it always has at least one piece, and joining the
pieces with the separator gives the list back (`joinWith_splitOn`).  `splitFirst? mark s` cuts a
list once, at the first place where the mark stands in it (`eq_of_splitFirst?`).
-/

namespace UiStream

variable {α : Type}

/-- The pieces of a list between the separators. -/
def splitOn [DecidableEq α] (sep : α) : List α → List (List α)
  | [] => [[]]
  | c :: rest =>
    if c = sep then [] :: splitOn sep rest
    else
      match splitOn sep rest with
      | [] => [[c]]
      | piece :: pieces => (c :: piece) :: pieces

/-- The pieces with a separator between each two. -/
def joinWith (sep : α) : List (List α) → List α
  | [] => []
  | [piece] => piece
  | piece :: pieces => piece ++ sep :: joinWith sep pieces

theorem splitOn_ne_nil [DecidableEq α] (sep : α) (s : List α) : splitOn sep s ≠ [] := by
  cases s with
  | nil => simp [splitOn]
  | cons c rest =>
    rw [splitOn]
    split
    · simp
    · split <;> simp

theorem joinWith_cons_cons (sep c : α) (piece : List α) (pieces : List (List α)) :
    joinWith sep ((c :: piece) :: pieces) = c :: joinWith sep (piece :: pieces) := by
  cases pieces <;> simp [joinWith]

theorem joinWith_splitOn [DecidableEq α] (sep : α) (s : List α) :
    joinWith sep (splitOn sep s) = s := by
  induction s with
  | nil => rfl
  | cons c rest ih =>
    rw [splitOn]
    split
    · next h =>
      cases hs : splitOn sep rest with
      | nil => exact absurd hs (splitOn_ne_nil sep rest)
      | cons piece pieces => rw [hs] at ih; simp [joinWith, ih, h]
    · split
      · next hs => exact absurd hs (splitOn_ne_nil sep rest)
      · next piece pieces hs => rw [joinWith_cons_cons, ← hs, ih]

/-- A list in front of the first place where a mark stands in it, and behind the mark. -/
def splitFirst? [DecidableEq α] (mark : List α) : List α → Option (List α × List α)
  | [] => none
  | c :: rest =>
    if mark.isPrefixOf (c :: rest) then some ([], (c :: rest).drop mark.length)
    else (splitFirst? mark rest).map fun (front, back) => (c :: front, back)

theorem eq_of_splitFirst? [DecidableEq α] {mark s front back : List α}
    (h : splitFirst? mark s = some (front, back)) : s = front ++ mark ++ back := by
  induction s generalizing front with
  | nil => simp [splitFirst?] at h
  | cons c rest ih =>
    rw [splitFirst?] at h
    split at h
    · next hp =>
      simp only [Option.some.injEq, Prod.mk.injEq] at h
      obtain ⟨t, ht⟩ := List.isPrefixOf_iff_prefix.1 hp
      rw [← h.1, ← h.2, ← ht]
      simp
    · obtain ⟨⟨f, b⟩, hf, he⟩ := Option.map_eq_some_iff.1 h
      simp only [Prod.mk.injEq] at he
      obtain ⟨rfl, rfl⟩ := he
      simp [ih hf]

end UiStream
