import UiStream.Proofs.Pointer.Written

/-!
# What a write leaves alone

A value that is set at a pointer touches the place that it is set in and nothing else
(`Json.setAt_frame`).

Tokens are texts, and two of them may stand for one item of an array.  So places are told apart by
steps: `Json.place?` gives the steps from a document to what tokens lead to, and `Pointer.target`
those along which a value is set, through containers that are there and others that are made.  Two
places `Fork` if they share some steps, or none, and then part.

At one token a write goes in at one step (`Pointer.entry`).  Behind it there is what was put
(`childAt?_put_entry`), behind every other step what was there before (`childAt?_put_of_ne`), and
where there was nothing there are only the `null`s that fill an array up to the new item
(`childAt?_of_put`).  What holds of a whole pointer follows by induction on its tokens.
-/

namespace UiStream

namespace Pointer

/-! ## Places -/

/-- A step from an array or an object to what is in it. -/
inductive Step where
  | item (index : Nat)
  | member (key : String)
deriving DecidableEq, Repr

/-- Two places share some steps, or none, and then part. -/
inductive Fork : List Step → List Step → Prop
  | here {step other : Step} {rest more : List Step} (differ : step ≠ other) :
      Fork (step :: rest) (other :: more)
  | behind {step : Step} {rest more : List Step} (fork : Fork rest more) :
      Fork (step :: rest) (step :: more)

theorem Fork.ne_nil {a b : List Step} (fork : Fork a b) : b ≠ [] := by
  cases fork <;> exact List.cons_ne_nil _ _

/-- Places part if neither is in the other. -/
theorem fork_of_outside {a b : List Step} (outside : ¬ b <+: a) (around : ¬ a <+: b) :
    Fork a b := by
  induction a generalizing b with
  | nil => exact absurd (List.nil_prefix) around
  | cons step rest ih =>
    cases b with
    | nil => exact absurd (List.nil_prefix) outside
    | cons other more =>
      by_cases same : step = other
      · subst same
        rw [List.cons_prefix_cons] at outside around
        exact .behind (ih (fun h => outside ⟨rfl, h⟩) (fun h => around ⟨rfl, h⟩))
      · exact .here same

end Pointer

open Pointer

namespace Json

/-- What is behind a step. -/
def childAt? : Step → Json → Option Json
  | .item i, .array items => items[i]?
  | .member key, .object members => Members.find? key members
  | _, _ => none

/-- The step that a token stands for. -/
def step? (token : String) : Json → Option Step
  | .array _ => (index? token).map .item
  | .object _ => some (.member token)
  | _ => none

/-- What steps lead to. -/
def reach? : List Step → Json → Option Json
  | [], doc => some doc
  | step :: rest, doc => (doc.childAt? step).bind (reach? rest)

/-- The steps to what tokens lead to. -/
def place? : List String → Json → Option (List Step)
  | [], _ => some []
  | token :: rest, doc =>
    (doc.step? token).bind fun step =>
      (doc.childAt? step).bind fun inner => (place? rest inner).map (step :: ·)

/-- The number of items of the array that steps lead to, 0 if there is none. -/
def lengthAt (place : List Step) (doc : Json) : Nat :=
  match doc.reach? place with
  | some (.array items) => items.length
  | _ => 0

variable {doc inner value : Json} {token : String} {step : Step} {rest : List String}
  {place : List Step}

/-- A token leads to what is behind its step. -/
theorem child?_of_step? (known : doc.step? token = some step) :
    doc.child? token = doc.childAt? step := by
  cases doc with
  | array items =>
    obtain ⟨i, index, rfl⟩ := Option.map_eq_some_iff.mp known
    rw [child?, index]
    rfl
  | object members => cases known; rfl
  | null | bool | number | string => cases known

theorem place?_cons (known : (doc.place? (token :: rest)) = some place) :
    ∃ step inner behind, doc.step? token = some step ∧ doc.childAt? step = some inner ∧
      inner.place? rest = some behind ∧ place = step :: behind := by
  obtain ⟨step, is, known⟩ := Option.bind_eq_some_iff.mp known
  obtain ⟨inner, there, known⟩ := Option.bind_eq_some_iff.mp known
  obtain ⟨behind, further, rfl⟩ := Option.map_eq_some_iff.mp known
  exact ⟨step, inner, behind, is, there, further, rfl⟩

/-- Tokens that lead to something do so along steps. -/
theorem exists_place? {tokens : List String} (there : doc.get? tokens = some value) :
    ∃ place, doc.place? tokens = some place ∧ doc.reach? place = some value := by
  induction tokens generalizing doc with
  | nil => exact ⟨[], rfl, there⟩
  | cons token rest ih =>
    obtain ⟨inner, here, there⟩ := Option.bind_eq_some_iff.mp there
    obtain ⟨place, known, reaches⟩ := ih there
    obtain ⟨step, is⟩ : ∃ step, doc.step? token = some step := by
      cases doc with
      | array items =>
        obtain ⟨i, index, -⟩ := Option.bind_eq_some_iff.mp here
        exact ⟨.item i, congrArg (Option.map Step.item) index⟩
      | object members => exact ⟨.member token, rfl⟩
      | null | bool | number | string => cases here
    rw [child?_of_step? is] at here
    refine ⟨step :: place, ?_, ?_⟩
    · rw [place?, is, Option.bind_some, here, Option.bind_some, known]
      rfl
    · rw [reach?, here, Option.bind_some, reaches]

theorem lengthAt_cons (step : Step) (place : List Step) (doc : Json) :
    doc.lengthAt (step :: place) = ((doc.childAt? step).getD null).lengthAt place := by
  unfold lengthAt
  rw [reach?]
  cases doc.childAt? step with
  | some inner => rfl
  | none =>
    cases place with
    | nil => rfl
    | cons next rest => cases next <;> rfl

end Json

namespace Pointer

/-! ## The step of a write -/

/-- The step at which a write goes into a document, or into the container that it makes of it.  The
append token goes to the item behind the last one. -/
def entry (token : String) (doc : Json) : Step :=
  match vivify token doc with
  | .array items => .item (slot token items.length)
  | _ => .member token

/-- The steps along which a value is set. -/
def target : List String → Json → List Step
  | [], _ => []
  | token :: rest, doc => entry token doc :: target rest (doc.under token)

/-- A place is that of an item between the end of an array, or the beginning if the array is new,
and the item along which a value is set. -/
def Pads (doc : Json) (target place : List Step) : Prop :=
  ∃ shared i j rest, target = shared ++ .item i :: rest ∧ place = shared ++ [.item j] ∧
    doc.lengthAt shared ≤ j ∧ j < i

section Entry

variable {token : String} {doc value inner : Json} {step : Step} {items : List Json}

/-- What a token puts a value into. -/
theorem put_cases (token : String) (doc : Json) :
    (∃ items, vivify token doc = .array items ∧
      entry token doc = .item (slot token items.length) ∧
      ∀ value, put token value doc =
        .array ((padTo (slot token items.length + 1) items).set (slot token items.length) value)) ∨
    ∃ members, vivify token doc = .object members ∧ entry token doc = .member token ∧
      ∀ value, put token value doc = .object (Members.insert token value members) := by
  obtain ⟨items, made, -⟩ | ⟨members, made, -⟩ := vivify_cases token doc
  · exact .inl ⟨items, made, by rw [entry, made], put_array made⟩
  · exact .inr ⟨members, made, by rw [entry, made], put_object made⟩

/-- A container that is made is empty. -/
theorem childAt?_vivify (token : String) (step : Step) (doc : Json) :
    (vivify token doc).childAt? step = doc.childAt? step := by
  cases doc with
  | array items => rfl
  | object members => rfl
  | null | bool | number | string => cases array : isArrayToken token <;> cases step <;>
      simp [vivify, array, Json.childAt?, Members.find?]

theorem lengthAt_nil (made : vivify token doc = .array items) :
    doc.lengthAt [] = items.length := by
  cases doc with
  | array own => cases made; rfl
  | object members => cases made
  | null | bool | number | string =>
    cases array : isArrayToken token <;> simp only [vivify, array] at made <;> cases made
    rfl

/-- What is under a token is what is behind the step of a write there. -/
theorem under_eq (token : String) (doc : Json) :
    doc.under token = (doc.childAt? (entry token doc)).getD .null := by
  rw [← childAt?_vivify token, entry]
  obtain ⟨items, made, under⟩ | ⟨members, made, under⟩ := vivify_cases token doc
  · rw [made, under]; rfl
  · rw [made, under]; rfl

/-- What fills an array under a token fills it in the document. -/
theorem Pads.cons {target place : List Step} (pads : Pads (doc.under token) target place) :
    Pads doc (entry token doc :: target) (entry token doc :: place) := by
  obtain ⟨shared, i, j, rest, rfl, rfl, past, before⟩ := pads
  refine ⟨entry token doc :: shared, i, j, rest, rfl, rfl, ?_, before⟩
  rw [Json.lengthAt_cons, ← under_eq]
  exact past

/-- What was put is behind the step of the write. -/
theorem childAt?_put_entry (token : String) (value doc : Json) :
    (put token value doc).childAt? (entry token doc) = some value := by
  obtain ⟨items, -, here, all⟩ | ⟨members, -, here, all⟩ := put_cases token doc
  · rw [here, all]
    exact List.getElem?_set_self (le_length_padTo _ items)
  · rw [here, all]
    exact Members.find?_insert_self ..

/-- What is behind another step stays there. -/
theorem childAt?_put_of_ne (other : step ≠ entry token doc) (value : Json)
    (there : doc.childAt? step = some inner) :
    (put token value doc).childAt? step = some inner := by
  rw [← childAt?_vivify token] at there
  obtain ⟨items, made, here, all⟩ | ⟨members, made, here, all⟩ := put_cases token doc
  · rw [made] at there
    rw [here] at other
    cases step with
    | member key => cases there
    | item i =>
      have inside : i < items.length := (List.getElem?_eq_some_iff.mp there).1
      have apart : slot token items.length ≠ i := fun same => other (by rw [same])
      rw [all, Json.childAt?, List.getElem?_set_ne apart, padTo,
        List.getElem?_append_left inside]
      exact there
  · rw [made] at there
    rw [here] at other
    cases step with
    | item i => cases there
    | member key =>
      have apart : token ≠ key := fun same => other (by rw [same])
      rw [all, Json.childAt?, Members.find?_insert, if_neg apart]
      exact there

/-- Behind another step there is what was there, or a `null` that fills the array up to the new
item. -/
theorem childAt?_of_put (other : step ≠ entry token doc)
    (there : (put token value doc).childAt? step = some inner) :
    doc.childAt? step = some inner ∨
      inner = .null ∧ ∃ i j, entry token doc = .item i ∧ step = .item j ∧
        doc.lengthAt [] ≤ j ∧ j < i := by
  rw [← childAt?_vivify token]
  obtain ⟨items, made, here, all⟩ | ⟨members, made, here, all⟩ := put_cases token doc
  · rw [here] at other
    rw [all] at there
    rw [made, here, lengthAt_nil made]
    cases step with
    | member key => cases there
    | item j =>
      have apart : slot token items.length ≠ j := fun same => other (by rw [same])
      rw [Json.childAt?, List.getElem?_set_ne apart, padTo, List.getElem?_append] at there
      split at there
      · exact .inl there
      · next outside =>
        obtain ⟨inside, rfl⟩ := List.getElem?_eq_some_iff.mp there
        rw [List.length_replicate] at inside
        exact .inr ⟨List.getElem_replicate .., _, j, rfl, rfl, by omega, by omega⟩
  · rw [here] at other
    rw [all] at there
    rw [made]
    cases step with
    | item i => cases there
    | member key =>
      have apart : token ≠ key := fun same => other (by rw [same])
      rw [Json.childAt?, Members.find?_insert, if_neg apart] at there
      exact .inl there

/-- A container stays what it is. -/
theorem step?_put (there : doc.childAt? step = some inner) (token name : String) (value : Json) :
    (put token value doc).step? name = doc.step? name := by
  cases doc with
  | array items => rfl
  | object members => rfl
  | null | bool | number | string => cases step <;> cases there

end Entry

end Pointer

namespace Json

/-! ## The frame of a write -/

variable {doc inner value found : Json} {tokens other : List String} {place : List Step}

/-- A value is set at the end of its steps. -/
theorem reach?_target (value : Json) (tokens : List String) (doc : Json) :
    (writeTokens setItem value tokens doc).reach? (target tokens doc) = some value := by
  induction tokens generalizing doc with
  | nil => rw [writeTokens]; rfl
  | cons token rest ih =>
    rw [writeTokens_setItem_cons, target, reach?, childAt?_put_entry]
    exact ih (doc.under token)

/-- What is at another place stays there. -/
theorem get?_writeTokens_of_fork (known : doc.place? other = some place)
    (there : doc.get? other = some found) (fork : Fork (target tokens doc) place) (value : Json) :
    (writeTokens setItem value tokens doc).get? other = some found := by
  induction tokens generalizing doc other place with
  | nil => cases fork
  | cons token rest ih =>
    cases other with
    | nil => cases known; cases fork
    | cons name more =>
      obtain ⟨step, inner, behind, is, here, further, rfl⟩ := place?_cons known
      rw [get?, child?_of_step? is, here] at there
      rw [writeTokens_setItem_cons, get?]
      have still := (step?_put here token name
        (writeTokens setItem value rest (doc.under token))).trans is
      rw [child?_of_step? still]
      rw [target] at fork
      cases fork with
      | here differ =>
        rw [childAt?_put_of_ne differ.symm _ here]
        exact there
      | behind fork =>
        have under : doc.under token = inner := by rw [under_eq, here]; rfl
        rw [childAt?_put_entry, under]
        exact ih further there (under ▸ fork)

/-- Only the end of no tokens is in `null`. -/
theorem eq_nil_of_get?_null (there : null.get? other = some found) : other = [] ∧ found = null := by
  cases other with
  | nil => cases there; exact ⟨rfl, rfl⟩
  | cons name more => cases there

/-- What is at another place was there before, or is a `null` that fills an array. -/
theorem get?_of_fork (value : Json)
    (known : (writeTokens setItem value tokens doc).place? other = some place)
    (there : (writeTokens setItem value tokens doc).get? other = some found)
    (fork : Fork (target tokens doc) place) :
    doc.get? other = some found ∨ found = null ∧ Pads doc (target tokens doc) place := by
  induction tokens generalizing doc other place with
  | nil => cases fork
  | cons token rest ih =>
    cases other with
    | nil => cases known; cases fork
    | cons name more =>
      rw [writeTokens_setItem_cons] at known there
      generalize given : writeTokens setItem value rest (doc.under token) = written at known there
      obtain ⟨step, inner, behind, is, here, further, rfl⟩ := place?_cons known
      rw [get?, child?_of_step? is, here] at there
      rw [target] at fork ⊢
      have before {old : Json} (was : doc.childAt? step = some old) :
          doc.child? name = some old :=
        (child?_of_step? ((step?_put was token name written).symm.trans is)).trans was
      cases fork with
      | here differ =>
        obtain was | ⟨rfl, i, j, goes, rfl, past, before⟩ := childAt?_of_put differ.symm here
        · exact .inl (by rw [get?, before was]; exact there)
        · obtain ⟨rfl, rfl⟩ := eq_nil_of_get?_null there
          cases further
          exact .inr ⟨rfl, [], i, j, target rest (doc.under token), by rw [goes]; rfl, rfl, past,
            before⟩
      | behind fork =>
        rw [childAt?_put_entry] at here
        cases here
        rw [← given] at further there
        obtain same | ⟨rfl, pads⟩ := ih further there fork
        · rw [under_eq] at same fork
          cases was : doc.childAt? (entry token doc) with
          | some old =>
            rw [was] at same
            exact .inl (by rw [get?, before was]; exact same)
          | none =>
            rw [was] at same
            obtain ⟨rfl, -⟩ := eq_nil_of_get?_null same
            cases further
            exact absurd rfl fork.ne_nil
        · exact .inr ⟨rfl, pads.cons⟩

/-- The members of an object through which a value is set keep their order. -/
theorem get?_writeTokens_object {first rest : List String} {token : String} {members : Members}
    (there : doc.get? first = some (.object members)) (value : Json) :
    ∃ changed, (writeTokens setItem value (first ++ token :: rest) doc).get? first =
        some (.object changed) ∧
      Members.keys changed =
        if token ∈ Members.keys members then Members.keys members
        else Members.keys members ++ [token] := by
  rw [get?_writeTokens_append (List.cons_ne_nil token rest) there, writeTokens_setItem_cons]
  exact ⟨_, rfl, Members.keys_insert ..⟩

/-- **A write touches its own place only.**  When a value was set at a pointer, it is at the end of
the steps along which it is set, and what is at another place is where it was.  The members of every
object on the way keep their order, and a new one goes last.  Whatever else is outside these steps,
neither around their end nor in it, was there before, or is a `null` that fills an array. -/
theorem setAt_frame {doc after value : Json} {pointer : String}
    (set : doc.setAt pointer value = .ok after) :
    let target := target (Pointer.tokens pointer) doc
    after.reach? target = some value ∧
      (∀ q w, doc.at? q = some w → ∃ place, doc.place? (Pointer.tokens q) = some place ∧
        doc.reach? place = some w ∧ (Fork target place → after.at? q = some w)) ∧
      (∀ first token rest members, Pointer.tokens pointer = first ++ token :: rest →
        doc.get? first = some (.object members) →
        ∃ changed, after.get? first = some (.object changed) ∧
          Members.keys changed =
            if token ∈ Members.keys members then Members.keys members
            else Members.keys members ++ [token]) ∧
      ∀ q w, after.at? q = some w → ∃ place, after.place? (Pointer.tokens q) = some place ∧
        after.reach? place = some w ∧ (¬ place <+: target → ¬ target <+: place →
          doc.at? q = some w ∨ w = null ∧ Pads doc target place) := by
  intro target
  obtain ⟨-, rfl⟩ := setAt_eq_ok_iff.mp set
  refine ⟨reach?_target value _ doc, ?_, ?_, ?_⟩
  · intro q w there
    obtain ⟨place, known, reaches⟩ := exists_place? there
    exact ⟨place, known, reaches, fun fork => get?_writeTokens_of_fork known there fork value⟩
  · intro first token rest members along there
    rw [along]
    exact get?_writeTokens_object there value
  · intro q w there
    obtain ⟨place, known, reaches⟩ := exists_place? there
    exact ⟨place, known, reaches, fun outside around =>
      get?_of_fork value known there (fork_of_outside outside around)⟩

/-- A value that is set behind the end of an array, with an index that begins with a zero: an item
in front of it stays, and one more is filled in. -/
theorem setAt_frame_padded :
    let doc : Json := .object [("a", .array [.object [("x", .bool true)]]), ("b", .null)]
    let after : Json := .object [
      ("a", .array [.object [("x", .bool true)], .null, .object [("k", .string "v")]]),
      ("b", .null)]
    let target : List Step := [.member "a", .item 2, .member "k"]
    doc.setAt "/a/02/k" (.string "v") = .ok after ∧ after.reach? target = some (.string "v") ∧
      doc.at? "a/0/x" = some (.bool true) ∧ after.at? "a/0/x" = some (.bool true) ∧
      (∃ changed, after.get? [] = some (.object changed) ∧ Members.keys changed = ["a", "b"]) ∧
      after.at? "/a/001" = some .null ∧ doc.at? "/a/001" = none ∧
      Pads doc target [.member "a", .item 1] := by
  intro doc after steps
  have set : doc.setAt "/a/02/k" (.string "v") = .ok after := by rfl
  have here : target (Pointer.tokens "/a/02/k") doc = steps := by decide +kernel
  have there : doc.at? "a/0/x" = some (.bool true) := by decide +kernel
  have place : doc.place? (Pointer.tokens "a/0/x") = some [.member "a", .item 0, .member "x"] := by
    decide +kernel
  have filled : after.at? "/a/001" = some .null := by decide +kernel
  have filling : after.place? (Pointer.tokens "/a/001") = some [.member "a", .item 1] := by
    decide +kernel
  have absent : doc.at? "/a/001" = none := by decide +kernel
  obtain ⟨written, kept, ordered, rest⟩ := setAt_frame set
  rw [here] at written kept rest
  refine ⟨set, written, there, ?_, ?_, filled, absent, ?_⟩
  · obtain ⟨_, known, -, kept⟩ := kept _ _ there
    cases place.symm.trans known
    exact kept (.behind (.here (by decide)))
  · exact ordered [] "a" ["02", "k"] _ (by decide +kernel) rfl
  · obtain ⟨_, known, -, rest⟩ := rest _ _ filled
    cases filling.symm.trans known
    obtain same | ⟨-, pads⟩ := rest (by decide +kernel) (by decide +kernel)
    · rw [absent] at same
      cases same
    · exact pads

end Json

end UiStream
