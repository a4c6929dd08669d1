import UiStream.Proofs.Pointer.Joined

/-!
# When joined pointers compose

A single slash stands for the document, as the empty pointer does, but only the empty pointer is
joined as the document.  In front of a slash and behind one, a single slash leaves an empty token
(`Pointer.parts`), so `Pointer.join` composes addresses exactly if no single slash is joined to a
pointer that is not empty (`Pointer.join_composes_iff`).

It is the same for tokens and for what is read: different lists of tokens read different values in
some document (`Json.get?_ext_iff`), and the document is built from one of the lists
(`Json.nested`).
-/

namespace UiStream

/-! ## Tokens and what they read -/

namespace Json

/-- The document in which the tokens are the only way to `null`. -/
def nested : List String → Json
  | [] => .null
  | token :: rest => .object [(token, nested rest)]

theorem get?_nested_iff {way tokens : List String} :
    (nested tokens).get? way = some .null ↔ way = tokens := by
  induction tokens generalizing way with
  | nil =>
    cases way with
    | nil => simp [nested, get?]
    | cons step way => simp [nested, get?, child?]
  | cons token tokens ih =>
    cases way with
    | nil => simp [nested, get?]
    | cons step way =>
      rw [nested, get?, child?, Members.find?]
      by_cases same : token = step
      · rw [if_pos same, Option.bind_some, ih, same, List.cons.injEq, and_iff_right rfl]
      · rw [if_neg same]
        simp [Members.find?, Ne.symm same]

/-- Tokens that read the same in every document are the same. -/
theorem get?_ext_iff {way other : List String} :
    (∀ doc : Json, doc.get? way = doc.get? other) ↔ way = other := by
  constructor
  · intro same
    rw [← get?_nested_iff, same, get?_nested_iff]
  · rintro rfl doc
    rfl

end Json

namespace Pointer

/-! ## Composing -/

theorem length_parts (pointer : String) :
    (parts pointer).length = (tokens pointer).length + if pointer = "/" then 1 else 0 := by
  by_cases slash : pointer = "/"
  · subst slash
    decide
  · simp [parts, slash]

/-- No single slash is joined to a pointer that is not empty. -/
def Composable (base relative : String) : Prop :=
  (base = "/" → relative = "") ∧ (relative = "/" → base = "")

instance (base relative : String) : Decidable (Composable base relative) :=
  inferInstanceAs (Decidable (_ ∧ _))

theorem tokens_join_iff (base relative : String) :
    tokens (join base relative) = tokens base ++ tokens relative ↔ Composable base relative := by
  by_cases given : relative = ""
  · subst given
    simp [join, tokens, Composable]
  by_cases based : base = ""
  · subst based
    refine iff_of_true ?_ ⟨fun h => absurd h (by decide), fun _ => rfl⟩
    by_cases slash : relative = "/"
    · subst slash
      decide
    · exact tokens_join (by decide) slash
  rw [tokens_join_eq_parts based given, Composable, imp_iff_not given, imp_iff_not based]
  constructor
  · intro same
    have lengths := congrArg List.length same
    rw [List.length_append, List.length_append, length_parts, length_parts] at lengths
    constructor <;> intro slash <;> rw [if_pos slash] at lengths <;> omega
  · rintro ⟨proper, proper'⟩
    rw [parts, if_neg proper, parts, if_neg proper']

/-- **When joining pointers composes addresses.**  The tokens of the joined pointer are those of the
base and then those of the relative pointer, and reading any document at it is reading at the
relative pointer what is at the base, if and only if no single slash is joined to a pointer that is
not empty; otherwise each single slash is an empty token of the joined pointer. -/
theorem join_composes_iff (base relative : String) :
    (tokens (join base relative) = tokens base ++ tokens relative ↔ Composable base relative) ∧
    ((∀ doc : Json, doc.at? (join base relative) =
      (doc.at? base).bind fun inner => inner.at? relative) ↔ Composable base relative) ∧
    (¬ Composable base relative → tokens (join base relative) = parts base ++ parts relative) := by
  have composes := tokens_join_iff base relative
  refine ⟨composes, ?_, fun apart => tokens_join_eq_parts ?_ ?_⟩
  · rw [← composes, ← Json.get?_ext_iff]
    refine forall_congr' fun doc => ?_
    rw [Json.get?_append]
    rfl
  · rintro rfl
    exact apart ⟨fun h => absurd h (by decide), fun _ => rfl⟩
  · rintro rfl
    exact apart ⟨fun _ => rfl, fun h => absurd h (by decide)⟩

/-- A single slash behind the empty pointer, a pointer with an empty token at its end, and a pointer
behind a single slash. -/
theorem join_composes_iff_slashes :
    Composable "" "/" ∧ tokens (join "" "/") = [] ∧
      Composable "rows/0" "/a~1b/" ∧ tokens (join "rows/0" "/a~1b/") = ["rows", "0", "a/b", ""] ∧
      ¬ Composable "/" "done" ∧ tokens (join "/" "done") = ["", "done"] := by
  have whole : Composable "" "/" := by decide
  have ends : Composable "rows/0" "/a~1b/" := by decide
  have apart : ¬ Composable "/" "done" := by decide
  exact ⟨whole, (join_composes_iff "" "/").1.mpr whole,
    ends, ((join_composes_iff "rows/0" "/a~1b/").1.mpr ends).trans (by decide),
    apart, ((join_composes_iff "/" "done").2.2 apart).trans (by decide)⟩

/-- The single slash stands for the whole of a row, but behind the pointer of the row, or in front
of that of a member, it leads nowhere. -/
theorem join_slash_not_root :
    let row : Json := .object [("title", .string "milk")]
    let doc : Json := .object [("todos", .array [row])]
    tokens (join "/todos/0" "/") ≠ tokens "/todos/0" ++ tokens "/" ∧
      ((doc.at? "/todos/0").bind fun inner => inner.at? "/") = some row ∧
      doc.at? (join "/todos/0" "/") = none ∧
      tokens (join "/" "title") ≠ tokens "/" ++ tokens "title" ∧
      ((row.at? "/").bind fun inner => inner.at? "title") = some (.string "milk") ∧
      row.at? (join "/" "title") = none := by
  decide +kernel

end Pointer

end UiStream
