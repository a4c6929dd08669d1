import UiStream.Proofs.Pointer.Written

/-!
# Reading and setting at a pointer

`Json.at?` and `Json.setAt` at one pointer are the two halves of a lens, if no token of the pointer
asks for a place behind the end of an array (`Json.setAt_lens`).  What was set is read again; to set
what is there succeeds and changes nothing, the order of members included; and of two values that
are set in turn only the second matters.

Each law is an induction on the tokens.  What it needs at one token are the laws of `Pointer.put`
and `Json.child?`: `Passable.child?_put`, `put_of_child?` and `Passable.put_put`.
-/

namespace UiStream

open Pointer

namespace Json

variable {doc after value : Json} {tokens : List String}

/-- What is there can be set again, and this changes nothing. -/
theorem writeTokens_of_get? (found : doc.get? tokens = some value) :
    writeTokens setItem value tokens doc = doc := by
  induction tokens generalizing doc with
  | nil => cases found; rw [writeTokens]
  | cons token rest ih =>
    obtain ⟨child, here, found⟩ := Option.bind_eq_some_iff.mp found
    have under : doc.under token = child := by rw [Json.under, here]; rfl
    rw [writeTokens_setItem_cons, under, ih found, put_of_child? here]

theorem checkWritable_of_get? (found : doc.get? tokens = some value) (pointer : String) :
    checkWritable pointer tokens (some doc) = .ok () := by
  have whole := checkWritable_append found pointer []
  rw [List.append_nil] at whole
  exact whole

/-- Where a value was set another one can be set, and this forgets the first. -/
theorem writeTokens_writeTokens {pointer : String} (fixed : append ∉ tokens)
    (writable : checkWritable pointer tokens (some doc) = .ok ()) (first second : Json) :
    checkWritable pointer tokens (some (writeTokens setItem first tokens doc)) = .ok () ∧
      writeTokens setItem second tokens (writeTokens setItem first tokens doc) =
        writeTokens setItem second tokens doc := by
  induction tokens generalizing doc with
  | nil =>
    rw [writeTokens, writeTokens, writeTokens]
    exact ⟨rfl, rfl⟩
  | cons token rest ih =>
    obtain ⟨other, fixed⟩ := not_or.mp (mt List.mem_cons.mpr fixed)
    have passable := passable_of_checkWritable (Ne.symm other) writable
    rw [passable.checkWritable (Ne.symm other)] at writable
    obtain ⟨again, last⟩ := ih fixed writable
    have there :
        Passable token (put token (writeTokens setItem first rest (doc.under token)) doc) :=
      passable_of_child? (passable.child?_put _)
    rw [writeTokens_setItem_cons, writeTokens_setItem_cons, writeTokens_setItem_cons,
      there.checkWritable (Ne.symm other), passable.under_put, passable.put_put]
    exact ⟨again, congrArg (put token · doc) last⟩

/-- **Reading and setting are a lens**, at a pointer with no append token: what was set is read, to
set what is read changes nothing, and setting twice is setting once. -/
theorem setAt_lens (doc : Json) {pointer : String} (fixed : append ∉ Pointer.tokens pointer)
    (v w : Json) :
    (∀ after, doc.setAt pointer v = .ok after → after.at? pointer = some v) ∧
      (doc.at? pointer = some v → doc.setAt pointer v = .ok doc) ∧
      ∀ after, doc.setAt pointer v = .ok after →
        ∃ last, after.setAt pointer w = .ok last ∧ doc.setAt pointer w = .ok last := by
  refine ⟨fun after set => ?_, fun found => ?_, fun after set => ?_⟩
  · obtain ⟨writable, rfl⟩ := setAt_eq_ok_iff.mp set
    exact get?_writeTokens fixed writable v
  · exact setAt_eq_ok_iff.mpr ⟨checkWritable_of_get? found pointer, writeTokens_of_get? found⟩
  · obtain ⟨writable, rfl⟩ := setAt_eq_ok_iff.mp set
    obtain ⟨again, same⟩ := writeTokens_writeTokens fixed writable v w
    exact ⟨_, setAt_eq_ok_iff.mpr ⟨again, same⟩, setAt_eq_ok_iff.mpr ⟨writable, rfl⟩⟩

/-- A pointer without its leading slash, with an index behind a zero, an escaped key and a container
to be made, and one of the same document to something that is there. -/
theorem setAt_lens_padded :
    let doc : Json := .object [("b", .null), ("list", .array [.object [("a/b", .bool true)]])]
    let made := "list/02/a~1b"
    let there := "/list/00/a~1b"
    let after (v : Json) : Json := .object [("b", .null),
      ("list", .array [.object [("a/b", .bool true)], .null, .object [("a/b", v)]])]
    append ∉ Pointer.tokens made ∧ append ∉ Pointer.tokens there ∧
      doc.setAt made .null = .ok (after .null) ∧ (after .null).at? made = some .null ∧
      doc.at? there = some (.bool true) ∧ doc.setAt there (.bool true) = .ok doc ∧
      ∃ last, (after .null).setAt made (.bool false) = .ok last ∧
        doc.setAt made (.bool false) = .ok last := by
  intro doc made there after
  have fixed : append ∉ Pointer.tokens made := by decide +kernel
  have known : append ∉ Pointer.tokens there := by decide +kernel
  have set : doc.setAt made .null = .ok (after .null) := by
    subst made
    rfl
  have found : doc.at? there = some (.bool true) := by decide +kernel
  obtain ⟨putGet, -, putPut⟩ := setAt_lens doc fixed .null (.bool false)
  obtain ⟨-, getPut, -⟩ := setAt_lens doc known (.bool true) .null
  exact ⟨fixed, known, set, putGet _ set, found, getPut found, putPut _ set⟩

end Json

end UiStream
