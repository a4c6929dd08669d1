import UiStream.Proofs.Stream.Lines
import UiStream.Proofs.Text.Boundary

/-!
# Text and bytes in one stream

A `LineBuffer` that gets a stream partly as text and partly as bytes keeps its order where each
text comes while no bytes are held back (`LineBuffer.output_order`).  Bytes that are held back let
the texts pass that come before the rest of their character: `LineBuffer.arranged` is the order in
which the stream goes out, and `LineBuffer.output_eq_pending` says that it goes out decoded in that
order.

The induction is on the pieces that are still to come.  `Utf8.Afresh` carries it: a piece that goes
out behind settled bytes never begins inside a character (`LineBuffer.afresh_arranged`), so what was
decoded of them stays.
-/

namespace UiStream

open Utf8

/-- A piece of a stream, in text or in bytes. -/
inductive Supply where
  | text (s : List Char)
  | bytes (b : List UInt8)
deriving DecidableEq, Repr

/-- The bytes of a piece.  A text stands for its encoding. -/
def Supply.encoded : Supply → List UInt8
  | text s => s.flatMap String.utf8EncodeChar
  | bytes b => b

namespace LineBuffer

/-- Takes a piece. -/
def take (buffer : LineBuffer) : Supply → List (List Char) × LineBuffer
  | .text s => buffer.push s
  | .bytes b => buffer.pushBytes b

/-- Takes pieces in order. -/
def run : LineBuffer → List Supply → List (List Char) × LineBuffer
  | buffer, [] => ([], buffer)
  | buffer, supply :: rest =>
    let (lines, buffer) := buffer.take supply
    let (later, buffer) := buffer.run rest
    (lines ++ later, buffer)

/-- Everything that a buffer gives out for pieces: the lines, each with its break, and then the
rest. -/
def output (buffer : LineBuffer) (supplies : List Supply) : List Char :=
  let (lines, buffer) := buffer.run supplies
  lines.flatMap (· ++ ['\n']) ++ buffer.takeRest.1.getD []

/-- The bytes of pieces in the order in which they go out of a buffer that holds bytes back: a text
goes out at once, in front of the bytes that are held. -/
def arranged : List UInt8 → List Supply → List UInt8
  | held, [] => held
  | held, .text s :: rest => s.flatMap String.utf8EncodeChar ++ arranged held rest
  | held, .bytes b :: rest => settled (held ++ b) ++ arranged (unsettled (held ++ b)) rest

/-- Texts come only while no bytes are held back, empty ones apart. -/
def InTurn : List UInt8 → List Supply → Prop
  | _, [] => True
  | held, .text s :: rest => (s = [] ∨ held = []) ∧ InTurn held rest
  | held, .bytes b :: rest => InTurn (unsettled (held ++ b)) rest

instance decidableInTurn : (held : List UInt8) → (supplies : List Supply) →
    Decidable (InTurn held supplies)
  | _, [] => inferInstanceAs (Decidable True)
  | held, .text s :: rest =>
    have := decidableInTurn held rest
    inferInstanceAs (Decidable ((s = [] ∨ held = []) ∧ _))
  | held, .bytes b :: rest => decidableInTurn (unsettled (held ++ b)) rest

/-! ## The order of what goes out -/

/-- What goes out behind the bytes that are held back does not begin inside a character. -/
theorem afresh_arranged {held : List UInt8} (h : Held held) (supplies : List Supply) :
    Afresh (arranged held supplies) := by
  induction supplies generalizing held with
  | nil => exact h.afresh
  | cons supply rest ih =>
    cases supply with
    | text s =>
      by_cases given : s = []
      · rw [given]; exact ih h
      · exact afresh_encode given _
    | bytes b =>
      rw [arranged]
      have whole := settled_append_unsettled (held ++ b)
      have given : held ≠ [] := (held_iff.mp h).1
      by_cases front : settled (held ++ b) = []
      · rw [front, List.nil_append] at whole ⊢
        rcases unsettled_cases (held ++ b) with none | later
        · rw [none] at whole
          exact absurd (List.append_eq_nil_iff.mp whole.symm).1 given
        · exact ih later
      · intro x next
        obtain ⟨y, more, split⟩ := List.exists_cons_of_ne_nil front
        rw [split] at whole next
        have first : (held ++ b).head? = some x := by rw [← whole]; exact next
        exact h.afresh.append given b x first

/-- The settled bytes in front of what goes out later are decoded as they were. -/
theorem decodeLossy_settled_arranged (bytes : List UInt8) (rest : List Supply) :
    decodeLossy (settled bytes ++ arranged (unsettled bytes) rest) =
      (feed [] bytes).1 ++ decodeLossy (arranged (unsettled bytes) rest) := by
  rcases unsettled_cases bytes with none | held
  · have all := settled_append_unsettled bytes
    rw [none, List.append_nil] at all
    rw [all, decodeLossy_feed, none]
    rfl
  · rw [decodeLossy_append (afresh_arranged held rest), decodeLossy_settled]

/-- What goes out is what was pending and the pieces, decoded in the order in which they go out. -/
theorem output_eq_pending {buffer : LineBuffer} (h : buffer.held = [] ∨ Held buffer.held)
    (supplies : List Supply) :
    buffer.output supplies = buffer.pending ++ decodeLossy (arranged buffer.held supplies) := by
  induction supplies generalizing buffer with
  | nil =>
    have rest : buffer.takeRest.1.getD [] = buffer.restText := by
      rw [takeRest]
      cases buffer.restText <;> rfl
    have held : decodeLossy buffer.held = finish buffer.held := by
      rcases h with none | h
      · rw [none]; rfl
      · rw [← decodeFrom_nil, decodeFrom, feed_held h]; rfl
    rw [output, run, arranged, held]
    exact rest
  | cons supply rest ih =>
    have turn : buffer.output (supply :: rest) =
        (buffer.take supply).1.flatMap (· ++ ['\n']) ++ (buffer.take supply).2.output rest := by
      simp only [output, run, List.flatMap_append, List.append_assoc]
    rw [turn]
    cases supply with
    | text s =>
      rw [@ih (buffer.take (.text s)).2 h, ← List.append_assoc]
      refine (congrArg (· ++ _) (flatMap_cut (buffer.pending ++ s))).trans ?_
      rw [arranged, decodeLossy_encode_append, List.append_assoc]
      rfl
    | bytes b =>
      have later : unsettled (buffer.held ++ b) = (buffer.take (.bytes b)).2.held := by
        rw [unsettled, ← feed_eq h]; rfl
      rw [@ih (buffer.take (.bytes b)).2 (feed_unsettled h b).1, ← List.append_assoc]
      refine (congrArg (· ++ _) (flatMap_cut (buffer.pending ++ (feed buffer.held b).1))).trans ?_
      rw [arranged, decodeLossy_settled_arranged, ← feed_eq h, later, List.append_assoc]

/-- Nothing is lost or doubled on the way. -/
theorem arranged_perm (held : List UInt8) (supplies : List Supply) :
    (arranged held supplies).Perm (held ++ supplies.flatMap Supply.encoded) := by
  induction supplies generalizing held with
  | nil => rw [List.flatMap_nil, List.append_nil]; exact .refl held
  | cons supply rest ih =>
    cases supply with
    | text s => exact ((ih held).append_left _).trans (List.perm_append_comm_assoc ..)
    | bytes b =>
      refine ((ih (unsettled (held ++ b))).append_left _).trans (.of_eq ?_)
      rw [← List.append_assoc, settled_append_unsettled, List.append_assoc]
      rfl

/-! ## When the order is kept -/

/-- Where texts come in turn, the stream goes out as it came. -/
theorem InTurn.arranged_eq {held : List UInt8} {supplies : List Supply}
    (inTurn : InTurn held supplies) :
    arranged held supplies = held ++ supplies.flatMap Supply.encoded := by
  induction supplies generalizing held with
  | nil => exact (List.append_nil held).symm
  | cons supply rest ih =>
    cases supply with
    | text s =>
      obtain ⟨passes, later⟩ := inTurn
      rw [arranged, ih later, List.flatMap_cons]
      rcases passes with rfl | rfl <;> rfl
    | bytes b =>
      rw [arranged, ih inTurn, ← List.append_assoc, settled_append_unsettled, List.append_assoc]
      rfl

/-- A text that passes bytes shows in what goes out, unless it begins with the character that stands
for them. -/
theorem inTurn_of_decodeLossy_eq {held : List UInt8} (h : held = [] ∨ Held held)
    {supplies : List Supply}
    (plain : ∀ s, .text s ∈ supplies → s.head? ≠ some replacement)
    (same : decodeLossy (arranged held supplies) =
      decodeLossy (held ++ supplies.flatMap Supply.encoded)) : InTurn held supplies := by
  induction supplies generalizing held with
  | nil => trivial
  | cons supply rest ih =>
    have plainly (s : List Char) (mem : .text s ∈ rest) := plain s (.tail _ mem)
    rw [List.flatMap_cons] at same
    cases supply with
    | text s =>
      by_cases given : s = []
      · rw [given] at same
        exact ⟨.inl given, ih h plainly same⟩
      rw [arranged, decodeLossy_encode_append, Supply.encoded] at same
      rcases h with rfl | held
      · rw [List.nil_append, decodeLossy_encode_append] at same
        exact ⟨.inr rfl, ih (.inl rfl) plainly (List.append_cancel_left same)⟩
      · have cut := decodeLossy_held held []
        rw [List.append_nil, decodeFrom_broken held (by rintro _ ⟨⟩)] at cut
        rw [decodeLossy_append (afresh_encode given _), cut] at same
        obtain ⟨c, more, rfl⟩ := List.exists_cons_of_ne_nil given
        rw [List.cons_append, List.cons_append] at same
        exact absurd (congrArg some (List.cons.inj same).1) (plain _ List.mem_cons_self)
    | bytes b =>
      rw [Supply.encoded, ← List.append_assoc, arranged, decodeLossy_settled_arranged,
        decodeLossy_feed] at same
      exact ih (unsettled_cases _) plainly (List.append_cancel_left same)

/-- **When text and bytes keep their order.**  What goes out of a buffer, each line with its break
and then the rest, is the pieces decoded in the order `arranged`, in which no byte is lost or
doubled.  Where each text comes while no bytes are held back, it is the pieces decoded in the order
in which they came; and only there, if no text begins with a replacement character. -/
theorem output_order (supplies : List Supply) :
    ({} : LineBuffer).output supplies = decodeLossy (arranged [] supplies) ∧
    (arranged [] supplies).Perm (supplies.flatMap Supply.encoded) ∧
    (InTurn [] supplies →
      ({} : LineBuffer).output supplies = decodeLossy (supplies.flatMap Supply.encoded)) ∧
    ((∀ s, .text s ∈ supplies → s.head? ≠ some replacement) →
      ({} : LineBuffer).output supplies = decodeLossy (supplies.flatMap Supply.encoded) →
        InTurn [] supplies) := by
  have arrives : ({} : LineBuffer).output supplies = decodeLossy (arranged [] supplies) :=
    @output_eq_pending {} (.inl rfl) supplies
  refine ⟨arrives, arranged_perm [] supplies, fun inTurn => ?_, fun plain same => ?_⟩
  · rw [arrives, inTurn.arranged_eq, List.nil_append]
  · exact inTurn_of_decodeLossy_eq (.inl rfl) plain (arrives.symm.trans same)

/-- A text behind a character that came in two pieces, and an empty one inside the next, which is
cut short by a third. -/
theorem output_order_cut :
    let supplies : List Supply := [.bytes [0xE2], .bytes [0x82, 0xAC], .text ['a', '\n'],
      .bytes [0x62, 0xE2, 0x82], .text [], .bytes [0x0A, 0xC3], .bytes [0x41], .text ['b']]
    InTurn [] supplies ∧ (∀ s, .text s ∈ supplies → s.head? ≠ some replacement) ∧
      ({} : LineBuffer).output supplies = "€a\nb\uFFFD\n\uFFFDAb".toList ∧
      decodeLossy (supplies.flatMap Supply.encoded) = "€a\nb\uFFFD\n\uFFFDAb".toList := by
  intro supplies
  have inTurn : InTurn [] supplies := by decide +kernel
  have plain : ∀ s, .text s ∈ supplies → s.head? ≠ some replacement := by
    intro s mem
    simp only [supplies, List.mem_cons, Supply.text.injEq, reduceCtorEq, List.not_mem_nil, or_false,
      false_or] at mem
    rcases mem with rfl | rfl | rfl <;> decide
  have came := (output_order supplies).2.2.1 inTurn
  have out : ({} : LineBuffer).output supplies = "€a\nb\uFFFD\n\uFFFDAb".toList := by
    decide +kernel
  exact ⟨(output_order supplies).2.2.2 plain came, plain, out, came.symm.trans out⟩

/-- A text that comes while the beginning of a character is held back goes out in front of it. -/
theorem output_out_of_order :
    let supplies : List Supply := [.bytes [0xC3], .text ['a']]
    ({} : LineBuffer).output supplies = ['a', replacement] ∧
      decodeLossy (supplies.flatMap Supply.encoded) = [replacement, 'a'] := by
  decide +kernel

end LineBuffer

end UiStream
