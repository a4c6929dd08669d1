import UiStream.Proofs.Action.Placeholders

/-!
# Templates

`interpolate` goes through a text once.  Where a placeholder begins (`Opens`) it writes the text of
the value and goes on behind the placeholder (`interpolateChars_of_opens`); where none begins it
keeps the character and goes on behind it (`interpolateChars_of_not_opens`).  What it writes it does
not look at again.

A template is literal text with pointers in it (`Template`).  With each pointer in braces behind a
dollar sign it is a text that `interpolate` turns into the template with each value in the place of
its pointer (`Template.interpolate_fill`), for the literal text opens no placeholder, nor does the
end of one together with what stands behind it.
-/

namespace UiStream

/-! ## Where a placeholder begins -/

/-- A text begins with a placeholder: a pointer, which is not empty and has no closing brace in it,
between a dollar sign with an opening brace and a closing brace. -/
structure Opens (text pointer back : List Char) : Prop where
  split : text = '$' :: '\x7b' :: (pointer ++ '\x7d' :: back)
  given : pointer ≠ []
  closed : '\x7d' ∉ pointer

section

variable (state : Json)

/-- The text of the value at a pointer. -/
def textAt (pointer : List Char) : List Char :=
  (Json.displayText? (state.at? (String.ofList pointer))).toList

/-- Without a closing brace the pointer of a placeholder grows. -/
theorem insidePlaceholder_append {pointer : List Char} (closed : '\x7d' ∉ pointer)
    (front rest : List Char) :
    insidePlaceholder state front (pointer ++ rest) =
      insidePlaceholder state (pointer.reverse ++ front) rest := by
  induction pointer generalizing front with
  | nil => rfl
  | cons c pointer ih =>
    obtain ⟨other, closed⟩ := not_or.mp (mt List.mem_cons.mpr closed)
    rw [List.cons_append, insidePlaceholder_cons, if_neg (Ne.symm other), ih closed]
    simp

/-- A placeholder becomes the text of its value, and what is behind it is read from there. -/
theorem interpolateChars_of_opens {text pointer back : List Char}
    (opens : Opens text pointer back) :
    interpolateChars state text = textAt state pointer ++ interpolateChars state back := by
  obtain ⟨rfl, given, closed⟩ := opens
  rw [interpolateChars_cons_cons, if_pos ⟨rfl, rfl⟩, insidePlaceholder_append state closed,
    insidePlaceholder_cons, if_pos rfl]
  simp [given, textAt]

/-- A character that is no dollar sign in front of a brace stays. -/
theorem interpolateChars_cons {c : Char} {rest : List Char}
    (other : c = '$' → rest.head? ≠ some '\x7b') :
    interpolateChars state (c :: rest) = c :: interpolateChars state rest := by
  cases rest with
  | nil => rw [interpolateChars_singleton, interpolateChars]
  | cons d rest =>
    rw [interpolateChars_cons_cons, if_neg]
    rintro ⟨dollar, rfl⟩
    exact other dollar rfl

/-- A text without a closing brace stays. -/
theorem interpolateChars_of_not_mem {text : List Char} (closed : '\x7d' ∉ text) :
    interpolateChars state text = text := by
  induction text with
  | nil => rw [interpolateChars]
  | cons c text ih =>
    obtain ⟨-, behind⟩ := not_or.mp (mt List.mem_cons.mpr closed)
    by_cases opening : c = '$' ∧ text.head? = some '\x7b'
    · obtain ⟨rfl, front⟩ := opening
      obtain ⟨rest, rfl⟩ := List.head?_eq_some_iff.mp front
      have inside : '\x7d' ∉ rest := fun mem => behind (List.mem_cons_of_mem _ mem)
      have through := insidePlaceholder_append state inside [] []
      rw [List.append_nil] at through
      rw [interpolateChars_cons_cons, if_pos ⟨rfl, rfl⟩, through, insidePlaceholder]
      simp
    · rw [interpolateChars_cons state fun dollar front => opening ⟨dollar, front⟩, ih behind]

/-- Where no placeholder begins, a character stays, and what is behind it is read from there. -/
theorem interpolateChars_of_not_opens {c : Char} {rest : List Char}
    (none : ∀ pointer back, ¬ Opens (c :: rest) pointer back) :
    interpolateChars state (c :: rest) = c :: interpolateChars state rest := by
  by_cases opening : c = '$' ∧ rest.head? = some '\x7b'
  · obtain ⟨rfl, front⟩ := opening
    obtain ⟨rest, rfl⟩ := List.head?_eq_some_iff.mp front
    by_cases closing : '\x7d' ∈ rest
    · obtain ⟨pointer, back, rfl, closed⟩ := List.eq_append_cons_of_mem closing
      -- The first closing brace would end a placeholder if there were anything in front of it.
      have nothing : pointer = [] :=
        Decidable.byContradiction fun given => none pointer back ⟨rfl, given, closed⟩
      subst nothing
      rw [interpolateChars_cons_cons, if_pos ⟨rfl, rfl⟩, List.nil_append, insidePlaceholder_cons,
        if_pos rfl, interpolateChars_cons state (by simp), interpolateChars_cons state (by simp)]
      rfl
    · have open_end : '\x7d' ∉ '\x7b' :: rest := by simpa using closing
      rw [interpolateChars_of_not_mem state open_end, interpolateChars_of_not_mem]
      simpa using closing
  · exact interpolateChars_cons state fun dollar front => opening ⟨dollar, front⟩

/-- A text in which no placeholder begins anywhere stays. -/
theorem interpolateChars_of_no_placeholder {text : List Char}
    (none : ∀ front pointer back rest, text = front ++ rest → ¬ Opens rest pointer back) :
    interpolateChars state text = text := by
  induction text with
  | nil => rw [interpolateChars]
  | cons c text ih =>
    have here := interpolateChars_of_not_opens state fun pointer back =>
      none [] pointer back (c :: text) rfl
    rw [here, ih fun front pointer back rest split =>
      none (c :: front) pointer back rest (by rw [split]; rfl)]

/-- Literal text in which nothing opens a placeholder stays, also in front of a placeholder. -/
theorem interpolateChars_literal {literal rest : List Char}
    (plain : ¬ ['$', '\x7b'] <:+: literal) (border : rest.head? ≠ some '\x7b') :
    interpolateChars state (literal ++ rest) = literal ++ interpolateChars state rest := by
  induction literal with
  | nil => rfl
  | cons c literal ih =>
    have later : ¬ ['$', '\x7b'] <:+: literal := fun inside => plain (List.infix_cons inside)
    rw [List.cons_append, interpolateChars_cons, ih later, List.cons_append]
    rintro rfl front
    cases literal with
    | nil => exact border front
    | cons d literal =>
      cases Option.some.inj front
      exact plain (List.IsPrefix.isInfix ⟨literal, rfl⟩)

end

/-! ## Templates -/

/-- Literal text, and pointers with more literal text behind each of them. -/
structure Template where
  front : String
  parts : List (String × String)

namespace Template

/-- A template with something in the place of each pointer. -/
def fill (put : String → String) (template : Template) : String :=
  template.front ++
    String.join (template.parts.map fun (pointer, literal) => put pointer ++ literal)

/-- No literal text opens a placeholder, and the pointers can stand in one. -/
structure Proper (template : Template) : Prop where
  literals : ∀ literal ∈ template.front :: template.parts.map (·.2),
    ¬ ['$', '\x7b'] <:+: literal.toList
  pointers : ∀ pointer ∈ template.parts.map (·.1), pointer ≠ "" ∧ '\x7d' ∉ pointer.toList

theorem fill_cons (put : String → String) (front pointer literal : String)
    (parts : List (String × String)) :
    fill put ⟨front, (pointer, literal) :: parts⟩ =
      front ++ (put pointer ++ fill put ⟨literal, parts⟩) := by
  simp [fill, String.append_assoc]

theorem interpolateChars_fill (state : Json) {template : Template} (proper : template.Proper) :
    interpolateChars state (template.fill fun pointer => "$\x7b" ++ pointer ++ "\x7d").toList =
      (template.fill fun pointer => Json.displayText? (state.at? pointer)).toList := by
  obtain ⟨front, parts⟩ := template
  induction parts generalizing front with
  | nil =>
    have plain := proper.literals front List.mem_cons_self
    have stays : interpolateChars state (front.toList ++ []) =
        front.toList ++ interpolateChars state [] := interpolateChars_literal state plain (by simp)
    simpa [fill, interpolateChars] using stays
  | cons part parts ih =>
    obtain ⟨pointer, literal⟩ := part
    obtain ⟨given, closed⟩ := proper.pointers pointer List.mem_cons_self
    have plain := proper.literals front List.mem_cons_self
    have behind : Proper ⟨literal, parts⟩ :=
      ⟨fun l mem => proper.literals l (List.mem_cons_of_mem _ mem),
        fun p mem => proper.pointers p (List.mem_cons_of_mem _ mem)⟩
    have opens (back : List Char) :
        Opens ('$' :: '\x7b' :: (pointer.toList ++ '\x7d' :: back)) pointer.toList back :=
      ⟨rfl, mt String.toList_eq_nil_iff.mp given, closed⟩
    have text :
        (fill (fun p => "$\x7b" ++ p ++ "\x7d") ⟨front, (pointer, literal) :: parts⟩).toList =
          front.toList ++ '$' :: '\x7b' :: (pointer.toList ++ '\x7d' ::
            (fill (fun p => "$\x7b" ++ p ++ "\x7d") ⟨literal, parts⟩).toList) := by
      simp [fill_cons]
    rw [text, interpolateChars_literal state plain (by simp),
      interpolateChars_of_opens state (opens _), ih literal behind, fill_cons, textAt,
      String.ofList_toList, String.toList_append, String.toList_append]

/-- **Interpolation is one pass from left to right.**  In a template whose literal texts open no
placeholder, and whose pointers are not empty and have no closing brace in them, each placeholder
becomes the display text of the value at its pointer, and all else stays, whatever these texts look
like; a value that is missing or null has no text.  A text with no placeholder in it stays as it
is. -/
theorem interpolate_fill (state : Json) :
    (∀ template : Template, template.Proper →
      interpolate (template.fill fun pointer => "$\x7b" ++ pointer ++ "\x7d") state =
        template.fill fun pointer => Json.displayText? (state.at? pointer)) ∧
    (∀ pointer : String, state.at? pointer = none ∨ state.at? pointer = some .null →
      Json.displayText? (state.at? pointer) = "") ∧
    ∀ text : String,
      (∀ front pointer back : String, pointer ≠ "" → '\x7d' ∉ pointer.toList →
        text ≠ front ++ "$\x7b" ++ pointer ++ "\x7d" ++ back) →
      interpolate text state = text := by
  refine ⟨?_, ?_, ?_⟩
  · intro template proper
    rw [interpolate, interpolateChars_fill state proper, String.ofList_toList]
  · rintro pointer (missing | null)
    · rw [missing]
      rfl
    · rw [null]
      rfl
  · intro text none
    have stays : interpolateChars state text.toList = text.toList := by
      refine interpolateChars_of_no_placeholder state ?_
      rintro front pointer back _ split ⟨rfl, given, closed⟩
      refine none (String.ofList front) (String.ofList pointer) (String.ofList back) ?_ ?_ ?_
      · exact mt String.ofList_eq_empty_iff.mp given
      · rwa [String.toList_ofList]
      · apply String.toList_injective
        simp [split]
    rw [interpolate, stays, String.ofList_toList]

/-- Literal text that ends in a dollar sign or has braces in it, a pointer with an opening brace in
it, a missing value, a null one, and a value that looks like a placeholder. -/
theorem interpolate_fill_lookalikes :
    let state : Json := .object [("a", .string "$\x7bb\x7d"), ("b", .array [.ofInt 1, .null])]
    let template : Template := ⟨"$", [("/a", "\x7d\x7b$"), ("b", " $"), ("/$\x7b", "\x7b")]⟩
    template.Proper ∧
      interpolate "$$\x7b/a\x7d\x7d\x7b$$\x7bb\x7d $$\x7b/$\x7b\x7d\x7b" state =
        "$$\x7bb\x7d\x7d\x7b$1, $\x7b" ∧
      Json.displayText? (state.at? "b/1") = "" ∧
      interpolate "$5 \x7bnet\x7d" state = "$5 \x7bnet\x7d" := by
  intro state template
  have proper : template.Proper := ⟨by decide +kernel, by decide +kernel⟩
  have text : template.fill (fun pointer => "$\x7b" ++ pointer ++ "\x7d") =
      "$$\x7b/a\x7d\x7d\x7b$$\x7bb\x7d $$\x7b/$\x7b\x7d\x7b" := by decide +kernel
  have filled := (interpolate_fill state).1 template proper
  rw [text] at filled
  have null : state.at? "b/1" = some .null := by decide +kernel
  refine ⟨proper, filled.trans (by decide +kernel),
    (interpolate_fill state).2.1 _ (.inr null), (interpolate_fill state).2.2 _ ?_⟩
  intro front pointer back _ _ split
  have opening : ['$', '\x7b'] <:+: "$5 \x7bnet\x7d".toList :=
    ⟨front.toList, pointer.toList ++ '\x7d' :: back.toList, by rw [split]; simp⟩
  exact absurd opening (by decide +kernel)

end Template

end UiStream
