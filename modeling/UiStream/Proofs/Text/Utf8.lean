import UiStream.Text.Utf8

/-!
# What lossy decoding means

`Utf8.Lossy` says what text bytes stand for without a decoder, by the encodings of characters: an
encoding is its character, a beginning of one that is cut short is one replacement character, and
so is a byte with which no encoding begins.  `Utf8.lossy_iff` says that `Utf8.decodeLossy` gives
that text and that there is no other.

`Sequence` and `Held` are the encodings and their beginnings in terms of bytes, as the decoder
sees them; `Sequence.encode`, `sequence_encode` and `held_iff` say that they are those.
-/

namespace UiStream.Utf8

/-! ## The meaning of bytes -/

/-- A part of an encoding that is not all of it. -/
def Begins (part : List UInt8) : Prop :=
  ∃ c rest, rest ≠ [] ∧ String.utf8EncodeChar c = part ++ rest

/-- The text that bytes stand for. -/
inductive Lossy : List UInt8 → List Char → Prop
  | nil : Lossy [] []
  | encoded (c : Char) {bytes : List UInt8} {text : List Char} (behind : Lossy bytes text) :
      Lossy (String.utf8EncodeChar c ++ bytes) (c :: text)
  | broken {part bytes : List UInt8} {text : List Char} (some : part ≠ []) (begun : Begins part)
      (off : ∀ b, bytes.head? = .some b → ∀ c rest, String.utf8EncodeChar c ≠ part ++ b :: rest)
      (behind : Lossy bytes text) : Lossy (part ++ bytes) (replacement :: text)
  | stray {b : UInt8} {bytes : List UInt8} {text : List Char}
      (none : ∀ c rest, String.utf8EncodeChar c ≠ b :: rest) (behind : Lossy bytes text) :
      Lossy (b :: bytes) (replacement :: text)

/-! ## Encodings in terms of bytes -/

/-- A byte that carries six bits of a code. -/
def IsTail (b : UInt8) : Prop := 0x80 ≤ b.toNat ∧ b.toNat ≤ 0xBF

theorem maySecond_iff (lead b : UInt8) :
    maySecond lead b = true ↔
      IsTail b ∧ (lead.toNat = 0xE0 → 0xA0 ≤ b.toNat) ∧ (lead.toNat = 0xED → b.toNat ≤ 0x9F) ∧
        (lead.toNat = 0xF0 → 0x90 ≤ b.toNat) ∧ (lead.toNat = 0xF4 → b.toNat ≤ 0x8F) := by
  have same (n : UInt8) : lead = n ↔ lead.toNat = n.toNat := UInt8.toNat_inj.symm
  unfold maySecond IsTail
  simp only [same, UInt8.reduceToNat]
  repeat' split
  all_goals
    simp only [Bool.and_eq_true, decide_eq_true_eq, UInt8.le_iff_toNat_le, UInt8.reduceToNat]
    omega

/-- The complete sequences, by the ranges of their bytes. -/
inductive Sequence : List UInt8 → Prop
  | one {a : UInt8} (ha : a.toNat < 0x80) : Sequence [a]
  | two {a b : UInt8} (ha : 0xC2 ≤ a.toNat ∧ a.toNat < 0xE0) (hb : maySecond a b) :
      Sequence [a, b]
  | three {a b c : UInt8} (ha : 0xE0 ≤ a.toNat ∧ a.toNat < 0xF0) (hb : maySecond a b)
      (hc : IsTail c) : Sequence [a, b, c]
  | four {a b c d : UInt8} (ha : 0xF0 ≤ a.toNat ∧ a.toNat < 0xF5) (hb : maySecond a b)
      (hc : IsTail c) (hd : IsTail d) : Sequence [a, b, c, d]

/-- The beginnings of sequences that are held back, by the ranges of their bytes. -/
inductive Held : List UInt8 → Prop
  | one {a : UInt8} (ha : 0xC2 ≤ a.toNat ∧ a.toNat < 0xF5) : Held [a]
  | two {a b : UInt8} (ha : 0xE0 ≤ a.toNat ∧ a.toNat < 0xF5) (hb : maySecond a b) : Held [a, b]
  | three {a b c : UInt8} (ha : 0xF0 ≤ a.toNat ∧ a.toNat < 0xF5) (hb : maySecond a b)
      (hc : IsTail c) : Held [a, b, c]

theorem leadBits_eq (a : UInt8) :
    leadBits a =
      if a.toNat < 0x80 then a.toNat
      else if a.toNat < 0xE0 then a.toNat % 0x20
      else if a.toNat < 0xF0 then a.toNat % 0x10
      else a.toNat % 0x08 := by
  simp only [leadBits, UInt8.lt_iff_toNat_lt, UInt8.reduceToNat]

theorem val_ofNat {n : Nat} (valid : n.isValidChar) : (Char.ofNat n).val.toNat = n := by
  rw [Char.ofNat, dif_pos valid]
  rfl

theorem ofNat_eq {n : Nat} {b : UInt8} (h : n = b.toNat) : UInt8.ofNat n = b :=
  h ▸ UInt8.ofNat_toNat

/-- A sequence encodes its character. -/
theorem Sequence.encode {s : List UInt8} (h : Sequence s) :
    String.utf8EncodeChar (character s) = s := by
  cases h with
  | @one a ha =>
    have code : (character [a]).val.toNat = a.toNat := by
      rw [character, leadBits_eq, if_pos ha]
      exact val_ofNat (.inl (Nat.lt_trans ha (by decide)))
    simp only [String.utf8EncodeChar, code]
    rw [if_pos (by omega), ofNat_eq rfl]
  | @two a b ha hb =>
    rw [maySecond_iff, IsTail] at hb
    have code : (character [a, b]).val.toNat = a.toNat % 0x20 * 0x40 + b.toNat % 0x40 := by
      rw [character, leadBits_eq, if_neg (by omega), if_pos (by omega)]
      exact val_ofNat (.inl (by simp only [List.foldl]; omega))
    simp only [String.utf8EncodeChar, code]
    rw [if_neg (by omega), if_pos (by omega)]
    congr <;> exact ofNat_eq (by omega)
  | @three a b c ha hb hc =>
    rw [maySecond_iff, IsTail] at hb
    rw [IsTail] at hc
    have code : (character [a, b, c]).val.toNat =
        (a.toNat % 0x10 * 0x40 + b.toNat % 0x40) * 0x40 + c.toNat % 0x40 := by
      rw [character, leadBits_eq, if_neg (by omega), if_neg (by omega), if_pos (by omega)]
      exact val_ofNat (by simp only [List.foldl, Nat.isValidChar]; omega)
    simp only [String.utf8EncodeChar, code]
    rw [if_neg (by omega), if_neg (by omega), if_pos (by omega)]
    congr <;> exact ofNat_eq (by omega)
  | @four a b c d ha hb hc hd =>
    rw [maySecond_iff, IsTail] at hb
    rw [IsTail] at hc hd
    have code : (character [a, b, c, d]).val.toNat =
        ((a.toNat % 0x08 * 0x40 + b.toNat % 0x40) * 0x40 + c.toNat % 0x40) * 0x40 +
          d.toNat % 0x40 := by
      rw [character, leadBits_eq, if_neg (by omega), if_neg (by omega), if_neg (by omega)]
      exact val_ofNat (by simp only [List.foldl, Nat.isValidChar]; omega)
    simp only [String.utf8EncodeChar, code]
    rw [if_neg (by omega), if_neg (by omega), if_neg (by omega)]
    congr <;> exact ofNat_eq (by omega)

theorem toNat_ofNat {n : Nat} (h : n < 0x100) : (UInt8.ofNat n).toNat = n := by
  rw [UInt8.toNat_ofNat']
  exact Nat.mod_eq_of_lt h

/-- A character is encoded as a sequence. -/
theorem sequence_encode (c : Char) : Sequence (String.utf8EncodeChar c) := by
  have valid : c.val.toNat < 0xD800 ∨ 0xDFFF < c.val.toNat ∧ c.val.toNat < 0x110000 := c.valid
  rw [String.utf8EncodeChar]
  generalize c.val.toNat = v at valid
  split
  · exact .one (by rw [toNat_ofNat (by omega)]; omega)
  split
  · refine .two (by rw [toNat_ofNat (by omega)]; omega) ((maySecond_iff _ _).mpr ?_)
    rw [IsTail, toNat_ofNat (by omega), toNat_ofNat (by omega)]
    omega
  split
  · refine .three (by rw [toNat_ofNat (by omega)]; omega) ((maySecond_iff _ _).mpr ?_) ?_
    · rw [IsTail, toNat_ofNat (by omega), toNat_ofNat (by omega)]
      omega
    · rw [IsTail, toNat_ofNat (by omega)]
      omega
  · refine .four (by rw [toNat_ofNat (by omega)]; omega) ((maySecond_iff _ _).mpr ?_) ?_ ?_
    · rw [IsTail, toNat_ofNat (by omega), toNat_ofNat (by omega)]
      omega
    · rw [IsTail, toNat_ofNat (by omega)]
      omega
    · rw [IsTail, toNat_ofNat (by omega)]
      omega

/-- Different characters have different encodings. -/
theorem encode_injective {c d : Char} (h : String.utf8EncodeChar c = String.utf8EncodeChar d) :
    c = d := by
  have hc := ByteArray.utf8DecodeChar?_utf8EncodeChar_append (b := .empty) (c := c)
  have hd := ByteArray.utf8DecodeChar?_utf8EncodeChar_append (b := .empty) (c := d)
  rw [h, hd] at hc
  exact (Option.some.inj hc).symm

@[simp] theorem character_encode (c : Char) : character (String.utf8EncodeChar c) = c :=
  encode_injective (sequence_encode c).encode

/-! ## Beginnings of encodings -/

/-- The smallest byte that may come second. -/
def leastSecond (lead : UInt8) : UInt8 :=
  if lead.toNat = 0xE0 then 0xA0 else if lead.toNat = 0xF0 then 0x90 else 0x80

theorem maySecond_leastSecond (lead : UInt8) : maySecond lead (leastSecond lead) = true := by
  rw [maySecond_iff, IsTail, leastSecond]
  split
  · simp only [UInt8.reduceToNat]; omega
  split
  · simp only [UInt8.reduceToNat]; omega
  · simp only [UInt8.reduceToNat]; omega

/-- What is held back goes on to a sequence. -/
theorem Held.extends {part : List UInt8} (h : Held part) :
    ∃ rest, rest ≠ [] ∧ Sequence (part ++ rest) := by
  have tail : IsTail 0x80 := ⟨by decide, by decide⟩
  cases h with
  | @one a ha =>
    have second := maySecond_leastSecond a
    by_cases short : a.toNat < 0xE0
    · exact ⟨[leastSecond a], by simp, .two ⟨ha.1, short⟩ second⟩
    by_cases middle : a.toNat < 0xF0
    · exact ⟨[leastSecond a, 0x80], by simp, .three ⟨by omega, middle⟩ second tail⟩
    · exact ⟨[leastSecond a, 0x80, 0x80], by simp, .four ⟨by omega, ha.2⟩ second tail tail⟩
  | @two a b ha hb =>
    by_cases middle : a.toNat < 0xF0
    · exact ⟨[0x80], by simp, .three ⟨ha.1, middle⟩ hb tail⟩
    · exact ⟨[0x80, 0x80], by simp, .four ⟨by omega, ha.2⟩ hb tail tail⟩
  | three ha hb hc => exact ⟨[0x80], by simp, .four ha hb hc tail⟩

theorem continues_tail (a b : UInt8) (more : List UInt8) (c : UInt8) :
    continues (a :: b :: more) c = true ↔ IsTail c := by
  simp only [continues, IsTail, Bool.and_eq_true, decide_eq_true_eq, UInt8.le_iff_toNat_le,
    UInt8.reduceToNat]

/-- The byte behind a part of a sequence continues it, and the part is held back. -/
theorem held_of_sequence {part rest : List UInt8} {b : UInt8} (some : part ≠ [])
    (h : Sequence (part ++ b :: rest)) : Held part ∧ continues part b = true := by
  match part, some with
  | [a], _ =>
    cases h with
    | two ha hb => exact ⟨.one ⟨ha.1, by omega⟩, hb⟩
    | three ha hb hc => exact ⟨.one ⟨by omega, by omega⟩, hb⟩
    | four ha hb hc hd => exact ⟨.one ⟨by omega, by omega⟩, hb⟩
  | [a, x], _ =>
    cases h with
    | three ha hx hb => exact ⟨.two ⟨ha.1, by omega⟩ hx, (continues_tail ..).mpr hb⟩
    | four ha hx hb hc => exact ⟨.two ⟨by omega, ha.2⟩ hx, (continues_tail ..).mpr hb⟩
  | [a, x, y], _ =>
    cases h with
    | four ha hx hy hb => exact ⟨.three ha hx hy, (continues_tail ..).mpr hb⟩
  | a :: x :: y :: z :: more, _ =>
    obtain ⟨e, others, long⟩ := List.exists_cons_of_ne_nil (List.append_ne_nil_of_right_ne_nil more
      (List.cons_ne_nil b rest))
    rw [List.cons_append, List.cons_append, List.cons_append, List.cons_append, long] at h
    cases h

/-- What is held back are the beginnings of encodings. -/
theorem held_iff {part : List UInt8} : Held part ↔ part ≠ [] ∧ Begins part := by
  constructor
  · intro h
    obtain ⟨rest, more, sequence⟩ := h.extends
    exact ⟨by cases h <;> simp, _, rest, more, sequence.encode⟩
  · rintro ⟨some, c, rest, more, encoding⟩
    cases rest with
    | nil => exact absurd rfl more
    | cons b rest => exact (held_of_sequence some (encoding ▸ sequence_encode c)).1

/-! ## Steps of the decoder -/

theorem sequenceLength?_eq (a : UInt8) :
    sequenceLength? a =
      if a.toNat < 0x80 then some 1
      else if a.toNat < 0xC2 then none
      else if a.toNat < 0xE0 then some 2
      else if a.toNat < 0xF0 then some 3
      else if a.toNat < 0xF5 then some 4
      else none := by
  simp only [sequenceLength?, UInt8.lt_iff_toNat_lt, UInt8.reduceToNat]

theorem sequenceLength?_two {a : UInt8} (ha : 0xC2 ≤ a.toNat ∧ a.toNat < 0xE0) :
    sequenceLength? a = some 2 := by
  rw [sequenceLength?_eq, if_neg (by omega), if_neg (by omega), if_pos ha.2]

theorem sequenceLength?_three {a : UInt8} (ha : 0xE0 ≤ a.toNat ∧ a.toNat < 0xF0) :
    sequenceLength? a = some 3 := by
  rw [sequenceLength?_eq, if_neg (by omega), if_neg (by omega), if_neg (by omega), if_pos ha.2]

theorem sequenceLength?_four {a : UInt8} (ha : 0xF0 ≤ a.toNat ∧ a.toNat < 0xF5) :
    sequenceLength? a = some 4 := by
  rw [sequenceLength?_eq, if_neg (by omega), if_neg (by omega), if_neg (by omega),
    if_neg (by omega), if_pos ha.2]

/-- A byte with nothing held back is a sequence, is held back or is no beginning. -/
theorem start_cases (b : UInt8) :
    (Sequence [b] ∧ start b = ([character [b]], [])) ∨ (Held [b] ∧ start b = ([], [b])) ∨
      ((∀ rest, ¬ Sequence (b :: rest)) ∧ start b = ([replacement], [])) := by
  unfold start
  by_cases small : b.toNat < 0x80
  · exact .inl ⟨.one small, by rw [sequenceLength?_eq, if_pos small]; rfl⟩
  by_cases off : b.toNat < 0xC2 ∨ 0xF5 ≤ b.toNat
  · have length : sequenceLength? b = none := by
      rw [sequenceLength?_eq, if_neg small]
      repeat' split
      all_goals first | rfl | omega
    refine .inr (.inr ⟨fun rest h => ?_, by rw [length]⟩)
    cases h <;> omega
  refine .inr (.inl ⟨.one (by omega), ?_⟩)
  by_cases short : b.toNat < 0xE0
  · rw [sequenceLength?_two (by omega)]; rfl
  by_cases middle : b.toNat < 0xF0
  · rw [sequenceLength?_three (by omega)]; rfl
  · rw [sequenceLength?_four (by omega)]; rfl

/-- A byte that continues what is held back makes it a sequence, or is held back with it. -/
theorem step_of_continues {held : List UInt8} (h : Held held) {b : UInt8}
    (on : continues held b = true) :
    (Sequence (held ++ [b]) ∧ step held b = ([character (held ++ [b])], [])) ∨
      (Held (held ++ [b]) ∧ step held b = ([], held ++ [b])) := by
  have continued (lead : UInt8) (more : List UInt8) (on : continues (lead :: more) b = true) :
      step (lead :: more) b =
        if sequenceLength? lead = some (more.length + 2) then
          ([character (lead :: more ++ [b])], [])
        else ([], lead :: more ++ [b]) := by
    rw [step, if_pos on]
    rfl
  cases h with
  | @one a ha =>
    rw [continued a [] on]
    by_cases short : a.toNat < 0xE0
    · exact .inl ⟨.two ⟨ha.1, short⟩ on, if_pos (sequenceLength?_two ⟨ha.1, short⟩)⟩
    refine .inr ⟨.two ⟨by omega, ha.2⟩ on, if_neg ?_⟩
    by_cases middle : a.toNat < 0xF0
    · rw [sequenceLength?_three (by omega)]; decide
    · rw [sequenceLength?_four (by omega)]; decide
  | @two a x ha hx =>
    have tail := (continues_tail ..).mp on
    rw [continued a [x] on]
    by_cases middle : a.toNat < 0xF0
    · exact .inl ⟨.three ⟨ha.1, middle⟩ hx tail, if_pos (sequenceLength?_three ⟨ha.1, middle⟩)⟩
    · refine .inr ⟨.three ⟨by omega, ha.2⟩ hx tail, if_neg ?_⟩
      rw [sequenceLength?_four (by omega)]
      simp
  | @three a x y ha hx hy =>
    have tail := (continues_tail ..).mp on
    rw [continued a [x, y] on]
    exact .inl ⟨.four ha hx hy tail, if_pos (sequenceLength?_four ha)⟩

/-- A byte that does not continue what is held back is looked at afresh. -/
theorem step_of_not_continues {held : List UInt8} (h : Held held) {b : UInt8}
    (off : continues held b = false) :
    step held b = (replacement :: (start b).1, (start b).2) := by
  cases h <;> exact if_neg (ne_true_of_eq_false off)

/-- The bytes in front of a byte that is not settled alone do not matter to it. -/
theorem feed_of_not_continues {held : List UInt8} (h : Held held) {b : UInt8}
    (off : continues held b = false) (rest : List UInt8) :
    feed held (b :: rest) =
      (replacement :: (feed [] (b :: rest)).1, (feed [] (b :: rest)).2) := by
  rw [feed, feed, step_of_not_continues h off]
  rfl

/-! ## What the decoder gives -/

/-- The text of what is held back and of bytes behind it. -/
def decodeFrom (held bytes : List UInt8) : List Char :=
  (feed held bytes).1 ++ finish (feed held bytes).2

theorem decodeFrom_nil (bytes : List UInt8) : decodeFrom [] bytes = decodeLossy bytes := rfl

theorem decodeFrom_cons (held : List UInt8) (b : UInt8) (rest : List UInt8) :
    decodeFrom held (b :: rest) = (step held b).1 ++ decodeFrom (step held b).2 rest := by
  rw [decodeFrom, feed]
  exact List.append_assoc ..

/-- A beginning that is cut short is one replacement character. -/
theorem decodeFrom_broken {held : List UInt8} (h : Held held) {bytes : List UInt8}
    (off : ∀ b, bytes.head? = some b → continues held b = false) :
    decodeFrom held bytes = replacement :: decodeLossy bytes := by
  cases bytes with
  | nil => cases h <;> rfl
  | cons b rest =>
    rw [decodeFrom, feed_of_not_continues h (off b rfl)]
    rfl

/-- What is held back is no sequence. -/
theorem Held.not_sequence {s : List UInt8} (h : Held s) : ¬ Sequence s := by
  intro sequence
  cases h <;> cases sequence <;> omega

/-- A byte with which bytes are still held back continues them. -/
theorem step_held {held : List UInt8} {b : UInt8} (h : Held held) (h' : Held (held ++ [b])) :
    step held b = ([], held ++ [b]) := by
  obtain ⟨rest, _, sequence⟩ := h'.extends
  rw [List.append_assoc] at sequence
  have on := (held_of_sequence (held_iff.mp h).1 sequence).2
  rcases step_of_continues h on with ⟨sequence, _⟩ | ⟨_, step⟩
  · exact absurd sequence h'.not_sequence
  · exact step

/-- The decoder holds back what is the beginning of a sequence. -/
theorem feed_held {held : List UInt8} (h : Held held) : feed [] held = ([], held) := by
  have one {a : UInt8} (h : Held [a]) : feed [] [a] = ([], [a]) := by
    rcases start_cases a with ⟨sequence, _⟩ | ⟨_, start⟩ | ⟨none, _⟩
    · exact absurd sequence h.not_sequence
    · rw [feed, step, start]; rfl
    · obtain ⟨rest, _, sequence⟩ := h.extends
      exact absurd sequence (none rest)
  have more {part : List UInt8} {b : UInt8} (before : feed [] part = ([], part)) (h : Held part)
      (h' : Held (part ++ [b])) : feed [] (part ++ [b]) = ([], part ++ [b]) := by
    rw [feed_append, before, feed, step_held h h']
    rfl
  cases h with
  | one ha => exact one (.one ha)
  | two ha hb =>
    have first := Held.one ⟨Nat.le_trans (by decide) ha.1, ha.2⟩
    exact more (one first) first (.two ha hb)
  | three ha hb hc =>
    have first := Held.one ⟨Nat.le_trans (by decide) ha.1, ha.2⟩
    have second := Held.two ⟨Nat.le_trans (by decide) ha.1, ha.2⟩ hb
    exact more (more (one first) first second) second (.three ha hb hc)

theorem decodeLossy_held {held : List UInt8} (h : Held held) (bytes : List UInt8) :
    decodeLossy (held ++ bytes) = decodeFrom held bytes := by
  rw [← decodeFrom_nil, decodeFrom, feed_append, feed_held h]
  rfl

/-- A sequence gives its character. -/
theorem decodeLossy_sequence {s : List UInt8} (h : Sequence s) (bytes : List UInt8) :
    decodeLossy (s ++ bytes) = character s :: decodeLossy bytes := by
  have one {a : UInt8} (h : Sequence [a]) :
      decodeLossy (a :: bytes) = character [a] :: decodeLossy bytes := by
    rcases start_cases a with ⟨_, start⟩ | ⟨held, _⟩ | ⟨none, _⟩
    · rw [← decodeFrom_nil, decodeFrom_cons, step, start]; rfl
    · exact absurd h held.not_sequence
    · exact absurd h (none [])
  have more (part : List UInt8) {b : UInt8} (some : part ≠ []) (h : Sequence (part ++ [b])) :
      decodeLossy (part ++ [b] ++ bytes) = character (part ++ [b]) :: decodeLossy bytes := by
    obtain ⟨held, on⟩ := held_of_sequence some h
    rw [List.append_assoc, decodeLossy_held held, List.singleton_append, decodeFrom_cons]
    rcases step_of_continues held on with ⟨_, step⟩ | ⟨held, _⟩
    · rw [step]; rfl
    · exact absurd h held.not_sequence
  cases h with
  | one ha => exact one (.one ha)
  | @two a b ha hb => exact more [a] (by simp) (.two ha hb)
  | @three a b c ha hb hc => exact more [a, b] (by simp) (.three ha hb hc)
  | @four a b c d ha hb hc hd => exact more [a, b, c] (by simp) (.four ha hb hc hd)

/-! ## The decoder and the meaning of bytes -/

/-- Bytes that continue the beginning of an encoding are the beginning of one, or all of it. -/
theorem exists_encoding {held : List UInt8} (h : Held held) {b : UInt8}
    (on : continues held b = true) : ∃ c rest, String.utf8EncodeChar c = held ++ b :: rest := by
  rcases step_of_continues h on with ⟨sequence, _⟩ | ⟨held, _⟩
  · exact ⟨_, [], sequence.encode⟩
  · obtain ⟨rest, _, sequence⟩ := held.extends
    exact ⟨_, rest, by rw [sequence.encode, List.append_assoc]; rfl⟩

/-- The decoder gives a text that the bytes stand for. -/
theorem lossy_decodeFrom {held : List UInt8} (h : held = [] ∨ Held held) (bytes : List UInt8) :
    Lossy (held ++ bytes) (decodeFrom held bytes) := by
  induction bytes generalizing held with
  | nil =>
    rcases h with rfl | h
    · exact .nil
    · obtain ⟨some, begun⟩ := held_iff.mp h
      rw [decodeFrom_broken h (by rintro _ ⟨⟩)]
      exact .broken some begun (by rintro _ ⟨⟩) .nil
  | cons b rest ih =>
    have afresh : Lossy (b :: rest) (decodeFrom [] (b :: rest)) := by
      rw [decodeFrom_cons, step]
      rcases start_cases b with ⟨sequence, start⟩ | ⟨held, start⟩ | ⟨none, start⟩
      · have whole := Lossy.encoded (character [b]) (ih (.inl rfl))
        rw [sequence.encode] at whole
        rw [start]
        exact whole
      · rw [start]
        exact ih (.inr held)
      · rw [start]
        refine .stray (fun c more encoding => ?_) (ih (.inl rfl))
        exact none more (encoding ▸ sequence_encode c)
    rcases h with rfl | h
    · exact afresh
    cases on : continues held b with
    | false =>
      obtain ⟨some, begun⟩ := held_iff.mp h
      rw [decodeFrom_broken h (by rintro _ ⟨⟩; exact on)]
      refine .broken some begun ?_ afresh
      rintro _ ⟨⟩ c more encoding
      have := (held_of_sequence some (encoding ▸ sequence_encode c)).2
      rw [on] at this
      cases this
    | true =>
      rw [decodeFrom_cons]
      rcases step_of_continues h on with ⟨sequence, step⟩ | ⟨held, step⟩
      · have whole := Lossy.encoded (character (held ++ [b])) (ih (.inl rfl))
        rw [sequence.encode, List.append_assoc] at whole
        rw [step]
        exact whole
      · have whole := ih (.inr held)
        rw [List.append_assoc] at whole
        rw [step]
        exact whole

/-- The decoder gives the only text that the bytes stand for. -/
theorem Lossy.eq_decodeLossy {bytes : List UInt8} {text : List Char} (h : Lossy bytes text) :
    text = decodeLossy bytes := by
  induction h with
  | nil => rfl
  | encoded c behind ih => rw [decodeLossy_sequence (sequence_encode c), character_encode, ih]
  | broken some begun off behind ih =>
    have held := held_iff.mpr ⟨some, begun⟩
    rw [decodeLossy_held held, decodeFrom_broken held, ih]
    intro b next
    refine Bool.eq_false_iff.mpr fun on => ?_
    obtain ⟨c, rest, encoding⟩ := exists_encoding held on
    exact off b next c rest encoding
  | @stray b bytes text none behind ih =>
    rcases start_cases b with ⟨sequence, _⟩ | ⟨held, _⟩ | ⟨_, start⟩
    · exact absurd sequence.encode (none _ [])
    · obtain ⟨rest, _, sequence⟩ := held.extends
      exact absurd sequence.encode (none _ rest)
    · rw [← decodeFrom_nil, decodeFrom_cons, step, start, ih]
      rfl

/-- **Lossy decoding gives the text that bytes stand for**, and there is no other. -/
theorem lossy_iff {bytes : List UInt8} {text : List Char} :
    Lossy bytes text ↔ text = decodeLossy bytes :=
  ⟨Lossy.eq_decodeLossy, fun h => h ▸ lossy_decodeFrom (.inl rfl) bytes⟩

/-- A text in front of bytes is decoded from its encoding. -/
theorem decodeLossy_encode_append (text : List Char) (bytes : List UInt8) :
    decodeLossy (text.flatMap String.utf8EncodeChar ++ bytes) = text ++ decodeLossy bytes := by
  induction text with
  | nil => rfl
  | cons c rest ih =>
    rw [List.flatMap_cons, List.append_assoc, decodeLossy_sequence (sequence_encode c),
      character_encode, ih]
    rfl

end UiStream.Utf8
