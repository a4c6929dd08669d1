import UiStream.Action.Interpolate

/-!
# Texts with placeholders

How a text is read, character by character (`interpolateChars_cons_cons`, `insidePlaceholder_cons`).
Of the state only the texts of its values matter (`interpolate_congr`).
-/

namespace UiStream

section

variable (state : Json)

/-- A dollar sign and a brace open a placeholder; any other character stays. -/
theorem interpolateChars_cons_cons (c d : Char) (rest : List Char) :
    interpolateChars state (c :: d :: rest) =
      if c = '$' ∧ d = '\x7b' then insidePlaceholder state [] rest
      else c :: interpolateChars state (d :: rest) := by
  split
  · next opens =>
    obtain ⟨rfl, rfl⟩ := opens
    rw [interpolateChars]
  · next other =>
    rw [interpolateChars]
    rintro rest rfl ⟨⟩
    exact other ⟨rfl, rfl⟩

theorem interpolateChars_singleton (c : Char) : interpolateChars state [c] = [c] := by
  rw [interpolateChars, interpolateChars]
  nofun

/-- A brace closes a placeholder, and any other character belongs to its pointer. -/
theorem insidePlaceholder_cons (pointer : List Char) (c : Char) (rest : List Char) :
    insidePlaceholder state pointer (c :: rest) =
      if c = '\x7d' then
        (if pointer.isEmpty then ['$', '\x7b', '\x7d']
          else (Json.displayText? (state.at? (String.ofList pointer.reverse))).toList) ++
          interpolateChars state rest
      else insidePlaceholder state (c :: pointer) rest := by
  split
  · next closes =>
    cases closes
    rw [insidePlaceholder]
  · next other =>
    rw [insidePlaceholder]
    exact other

end

section

variable {a b : Json}

mutual

theorem interpolateChars_congr
    (same : ∀ pointer, Json.displayText? (a.at? pointer) = Json.displayText? (b.at? pointer)) :
    (text : List Char) → interpolateChars a text = interpolateChars b text
  | [] => by rw [interpolateChars, interpolateChars]
  | [c] => by rw [interpolateChars_singleton, interpolateChars_singleton]
  | c :: d :: rest => by
    rw [interpolateChars_cons_cons, interpolateChars_cons_cons,
      insidePlaceholder_congr same [] rest, interpolateChars_congr same (d :: rest)]

theorem insidePlaceholder_congr
    (same : ∀ pointer, Json.displayText? (a.at? pointer) = Json.displayText? (b.at? pointer))
    (pointer : List Char) :
    (text : List Char) → insidePlaceholder a pointer text = insidePlaceholder b pointer text
  | [] => by rw [insidePlaceholder, insidePlaceholder]
  | c :: rest => by
    rw [insidePlaceholder_cons, insidePlaceholder_cons, same, interpolateChars_congr same rest,
      insidePlaceholder_congr same (c :: pointer) rest]
end

/-- A text becomes the same in states whose values have the same texts. -/
theorem interpolate_congr
    (same : ∀ pointer, Json.displayText? (a.at? pointer) = Json.displayText? (b.at? pointer))
    (template : String) : interpolate template a = interpolate template b :=
  congrArg String.ofList (interpolateChars_congr same template.toList)

end

end UiStream
