import UiStream.Proofs.Text.Utf8

/-!
# Where bytes can be cut

Bytes that are decoded in two parts give the same text as the whole, if the second part does not
begin inside a character (`Utf8.decodeLossy_append`).  The decoder itself cuts what has come in
front of the bytes that it holds back: `Utf8.settled` is the part that it has decoded and
`Utf8.unsettled` the part that it holds.
-/

namespace UiStream.Utf8

/-- The bytes that are held back at the end of a text in bytes. -/
def unsettled (bytes : List UInt8) : List UInt8 := (feed [] bytes).2

/-- The bytes in front of those that are held back. -/
def settled (bytes : List UInt8) : List UInt8 :=
  bytes.take (bytes.length - (unsettled bytes).length)

/-- Bytes do not begin inside a character. -/
def Afresh (bytes : List UInt8) : Prop := ∀ b, bytes.head? = some b → ¬ IsTail b

/-! ## Beginnings -/

/-- A byte that continues a sequence is one inside a character. -/
theorem isTail_of_continues {held : List UInt8} {b : UInt8} (on : continues held b = true) :
    IsTail b := by
  match held with
  | [lead] => exact ((maySecond_iff lead b).mp on).1
  | lead :: second :: more => exact (continues_tail ..).mp on

/-- What is held back begins a character. -/
theorem Held.afresh {held : List UInt8} (h : Held held) : Afresh held := by
  rintro b next ⟨-, most⟩
  cases h <;> cases next <;> omega

theorem Sequence.afresh {s : List UInt8} (h : Sequence s) : Afresh s := by
  rintro b next ⟨least, most⟩
  cases h <;> cases next <;> omega

/-- What begins a part begins the whole. -/
theorem Afresh.append {part : List UInt8} (h : Afresh part) (given : part ≠ [])
    (bytes : List UInt8) : Afresh (part ++ bytes) := by
  obtain ⟨first, rest, rfl⟩ := List.exists_cons_of_ne_nil given
  exact h

/-! ## The bytes held back -/

/-- A byte is held back with those before it, alone or not at all. -/
theorem step_unsettled {held : List UInt8} (h : held = [] ∨ Held held) (b : UInt8) :
    ((step held b).2 = [] ∨ Held (step held b).2) ∧ (step held b).2 <:+ held ++ [b] := by
  have alone (held : List UInt8) :
      ((start b).2 = [] ∨ Held (start b).2) ∧ (start b).2 <:+ held ++ [b] := by
    rcases start_cases b with ⟨-, start⟩ | ⟨one, start⟩ | ⟨-, start⟩ <;> rw [start]
    · exact ⟨.inl rfl, List.nil_suffix⟩
    · exact ⟨.inr one, List.suffix_append held [b]⟩
    · exact ⟨.inl rfl, List.nil_suffix⟩
  rcases h with rfl | h
  · exact alone []
  cases on : continues held b with
  | false => rw [step_of_not_continues h on]; exact alone held
  | true =>
    rcases step_of_continues h on with ⟨-, step⟩ | ⟨more, step⟩ <;> rw [step]
    · exact ⟨.inl rfl, List.nil_suffix⟩
    · exact ⟨.inr more, List.suffix_refl _⟩

/-- What is held back in the end is the end of what has come. -/
theorem feed_unsettled {held : List UInt8} (h : held = [] ∨ Held held) (bytes : List UInt8) :
    ((feed held bytes).2 = [] ∨ Held (feed held bytes).2) ∧
      (feed held bytes).2 <:+ held ++ bytes := by
  induction bytes generalizing held with
  | nil => exact ⟨h, by simp only [feed, List.append_nil, List.suffix_refl]⟩
  | cons b rest ih =>
    obtain ⟨one, suffix⟩ := step_unsettled h b
    obtain ⟨later, behind⟩ := ih one
    refine ⟨later, behind.trans ?_⟩
    obtain ⟨front, split⟩ := suffix
    exact ⟨front, by rw [← List.append_assoc, split, List.append_assoc]; rfl⟩

/-- Bytes are held back, or none. -/
theorem unsettled_cases (bytes : List UInt8) : unsettled bytes = [] ∨ Held (unsettled bytes) :=
  (feed_unsettled (.inl rfl) bytes).1

/-- The two parts make up the whole. -/
theorem settled_append_unsettled (bytes : List UInt8) :
    settled bytes ++ unsettled bytes = bytes :=
  List.suffix_iff_eq_append.mp (feed_unsettled (.inl rfl) bytes).2

/-- Bytes behind those held back are fed as if all came together. -/
theorem feed_eq {held : List UInt8} (h : held = [] ∨ Held held) (bytes : List UInt8) :
    feed held bytes = feed [] (held ++ bytes) := by
  have before : feed [] held = ([], held) := by
    rcases h with rfl | h
    · rfl
    · exact feed_held h
  rw [feed_append, before]
  rfl

/-! ## Decoding in parts -/

/-- What comes behind the settled bytes is decoded with those held back. -/
theorem decodeLossy_feed (bytes rest : List UInt8) :
    decodeLossy (bytes ++ rest) = (feed [] bytes).1 ++ decodeLossy (unsettled bytes ++ rest) := by
  have again : decodeLossy (unsettled bytes ++ rest) = decodeFrom (unsettled bytes) rest := by
    rcases unsettled_cases bytes with none | held
    · rw [none]; rfl
    · exact decodeLossy_held held rest
  rw [again, ← decodeFrom_nil, decodeFrom, feed_append, List.append_assoc]
  rfl

/-- Bytes are decoded in two parts if the second does not begin inside a character. -/
theorem decodeLossy_append {rest : List UInt8} (afresh : Afresh rest) (bytes : List UInt8) :
    decodeLossy (bytes ++ rest) = decodeLossy bytes ++ decodeLossy rest := by
  have whole := decodeLossy_feed bytes []
  rw [List.append_nil, List.append_nil] at whole
  rw [decodeLossy_feed, whole, List.append_assoc]
  refine congrArg ((feed [] bytes).1 ++ ·) ?_
  rcases unsettled_cases bytes with none | held
  · rw [none]; rfl
  · have off (b : UInt8) (next : rest.head? = some b) : continues (unsettled bytes) b = false :=
      Bool.eq_false_iff.mpr fun on => afresh b next (isTail_of_continues on)
    have cut := decodeLossy_held held []
    rw [List.append_nil, decodeFrom_broken held (by rintro _ ⟨⟩)] at cut
    rw [decodeLossy_held held, decodeFrom_broken held off, cut]
    rfl

/-- The settled bytes alone are decoded as they were. -/
theorem decodeLossy_settled (bytes : List UInt8) :
    decodeLossy (settled bytes) = (feed [] bytes).1 := by
  have whole := decodeLossy_feed bytes []
  rw [List.append_nil, List.append_nil] at whole
  rcases unsettled_cases bytes with none | held
  · have all := settled_append_unsettled bytes
    rw [none, List.append_nil] at all
    rw [all, whole, none]
    exact List.append_nil _
  · have parts := decodeLossy_append held.afresh (settled bytes)
    rw [settled_append_unsettled, whole] at parts
    exact (List.append_cancel_right parts).symm

/-- The encoding of a text does not begin inside a character. -/
theorem afresh_encode {text : List Char} (given : text ≠ []) (bytes : List UInt8) :
    Afresh (text.flatMap String.utf8EncodeChar ++ bytes) := by
  obtain ⟨c, rest, rfl⟩ := List.exists_cons_of_ne_nil given
  rw [List.flatMap_cons, List.append_assoc]
  have sequence := sequence_encode c
  exact sequence.afresh.append (fun none => by rw [none] at sequence; cases sequence) _

end UiStream.Utf8
