import UiStream.Pointer.Lookup

/-!
# Pointers behind pointers

`Pointer.join` puts texts together, and the tokens of the text are those of the two pointers
(`Pointer.tokens_join`), unless one of them is the single slash that stands for no token, which
next to another slash is an empty token (`Pointer.tokens_join_eq_parts`).  So reading at a joined
pointer is reading at one after the other (`Json.at?_join`).

A position is a token too: the pointer that its digits are has it as its only token, and as an index
it is the position (`Pointer.tokens_position`, `Pointer.index?_position`).
-/

namespace UiStream

/-- A list in which a separator stands is split in front of it and behind it. -/
theorem splitOn_append_cons {α : Type} [DecidableEq α] (sep : α) (front back : List α) :
    splitOn sep (front ++ sep :: back) = splitOn sep front ++ splitOn sep back := by
  induction front with
  | nil => simp [splitOn]
  | cons c front ih =>
    rw [List.cons_append, splitOn, splitOn, ih]
    by_cases same : c = sep
    · rw [if_pos same, if_pos same, List.cons_append]
    · rw [if_neg same, if_neg same]
      cases pieces : splitOn sep front with
      | nil => exact absurd pieces (splitOn_ne_nil sep front)
      | cons piece pieces => rfl

/-- A list without the separator is one piece. -/
theorem splitOn_of_not_mem {α : Type} [DecidableEq α] {sep : α} {s : List α} (none : sep ∉ s) :
    splitOn sep s = [s] := by
  induction s with
  | nil => rfl
  | cons c s ih =>
    obtain ⟨other, none⟩ := not_or.mp (mt List.mem_cons.mpr none)
    rw [splitOn, if_neg (Ne.symm other), ih none]

namespace Pointer

/-! ## Tokens of joined pointers -/

theorem components_append (front back : List Char) :
    components (front ++ '/' :: back) = components front ++ components back := by
  rw [components, splitOn_append_cons, List.map_append]
  rfl

/-- The tokens of a pointer are the components of its text without the leading slash. -/
theorem tokens_eq_components {pointer : String} (given : pointer ≠ "") (proper : pointer ≠ "/") :
    tokens pointer = components (dropSlash pointer.toList) := by
  have given : pointer.toList ≠ [] := mt String.toList_eq_nil_iff.mp given
  have proper : pointer.toList ≠ ['/'] := fun h => proper (String.toList_injective h)
  unfold tokens dropSlash
  split <;> simp_all

theorem dropSlash_append {front : List Char} (given : front ≠ []) (back : List Char) :
    dropSlash (front ++ back) = dropSlash front ++ back := by
  obtain ⟨c, front, rfl⟩ := List.exists_cons_of_ne_nil given
  by_cases slash : c = '/'
  · rw [slash]; rfl
  · simp [dropSlash, slash]

/-- Behind the leading slash of a pointer that stands for tokens there is something. -/
theorem dropSlash_ne_nil {pointer : String} (given : pointer ≠ "") (proper : pointer ≠ "/") :
    dropSlash pointer.toList ≠ [] := by
  have given : pointer.toList ≠ [] := mt String.toList_eq_nil_iff.mp given
  intro nothing
  unfold dropSlash at nothing
  split at nothing
  · next text => exact proper (String.toList_injective (by rw [text, nothing]; rfl))
  · exact given nothing

/-- The tokens of a pointer next to the slash of another, where a single slash is an empty token. -/
def parts (pointer : String) : List String := if pointer = "/" then [""] else tokens pointer

theorem parts_eq_components {pointer : String} (given : pointer ≠ "") :
    parts pointer = components (dropSlash pointer.toList) := by
  by_cases slash : pointer = "/"
  · subst slash
    decide
  · rw [parts, if_neg slash, tokens_eq_components given slash]

theorem toList_join {base relative : String} (given : relative ≠ "") :
    (join base relative).toList = base.toList ++ '/' :: dropSlash relative.toList := by
  rw [join, if_neg given, String.toList_ofList]

/-- A joined pointer that is longer than a slash has the components of its text. -/
theorem tokens_join_of_long {base relative : String} (given : relative ≠ "")
    (long : 2 ≤ (join base relative).toList.length) :
    tokens (join base relative) =
      components (dropSlash (base.toList ++ '/' :: dropSlash relative.toList)) := by
  have some : join base relative ≠ "" := fun h => by rw [h] at long; contradiction
  have more : join base relative ≠ "/" := fun h => by rw [h] at long; contradiction
  rw [tokens_eq_components some more, toList_join given]

/-- Joining two pointers that are not empty joins their parts. -/
theorem tokens_join_eq_parts {base relative : String} (based : base ≠ "") (given : relative ≠ "") :
    tokens (join base relative) = parts base ++ parts relative := by
  have front : base.toList ≠ [] := mt String.toList_eq_nil_iff.mp based
  have long : 2 ≤ (join base relative).toList.length := by
    have := List.length_pos_iff.mpr front
    rw [toList_join given, List.length_append, List.length_cons]
    omega
  rw [tokens_join_of_long given long, dropSlash_append front, components_append,
    parts_eq_components based, parts_eq_components given]

/-- The tokens of a joined pointer are those of its two parts. -/
theorem tokens_join {base relative : String} (based : base ≠ "/") (proper : relative ≠ "/") :
    tokens (join base relative) = tokens base ++ tokens relative := by
  by_cases given : relative = ""
  · subst given
    simp [join, tokens]
  by_cases whole : base = ""
  · subst whole
    have body := dropSlash_ne_nil given proper
    have long : 2 ≤ (join "" relative).toList.length := by
      have := List.length_pos_iff.mpr body
      rw [toList_join given, List.length_append, List.length_cons]
      omega
    rw [tokens_join_of_long given long, tokens_eq_components given proper]
    rfl
  · rw [tokens_join_eq_parts whole given, parts, if_neg based, parts, if_neg proper]

/-! ## Positions -/

theorem replacePair_of_not_mem {first second replacement : Char} {s : List Char}
    (none : first ∉ s) : replacePair first second replacement s = s := by
  fun_induction replacePair first second replacement s with
  | case1 | case2 => rfl
  | case3 c d rest pair ih => exact absurd (pair.1 ▸ List.mem_cons_self) none
  | case4 c d rest pair ih => rw [ih (fun more => none (List.mem_cons_of_mem _ more))]

/-- A text with neither slashes nor tildes is its only token. -/
theorem tokens_of_plain {token : String} (given : token ≠ "") (slash : '/' ∉ token.toList)
    (tilde : '~' ∉ token.toList) : tokens token = [token] := by
  have proper : token ≠ "/" := fun h => slash (h ▸ List.mem_cons_self)
  have front : dropSlash token.toList = token.toList := by
    unfold dropSlash
    split
    · next text => exact absurd (text ▸ List.mem_cons_self) slash
    · rfl
  rw [tokens_eq_components given proper, front, components, splitOn_of_not_mem slash]
  rw [List.map_singleton, unescape, replacePair_of_not_mem tilde, replacePair_of_not_mem tilde,
    String.ofList_toList]

/-- The digits of a position are digits. -/
theorem isDigit_of_mem_position {position : Nat} {c : Char}
    (digit : c ∈ (toString position).toList) : c.isDigit := by
  rw [Nat.toString_eq_ofList_toDigits, String.toList_ofList] at digit
  exact Nat.isDigit_of_mem_toDigits (by decide) (by decide) digit

theorem position_ne_empty (position : Nat) : toString position ≠ "" := by
  rw [Nat.toString_eq_ofList_toDigits]
  exact fun h => Nat.toDigits_ne_nil (String.ofList_eq_empty_iff.mp h)

/-- A text in which a character is no digit is not that of a position. -/
theorem position_ne (position : Nat) {text : String}
    (other : text.toList.any (!·.isDigit) = true) : toString position ≠ text := by
  rintro rfl
  obtain ⟨c, inside, other⟩ := List.any_eq_true.mp other
  rw [isDigit_of_mem_position inside] at other
  cases other

/-- The digits of a position are its only token. -/
theorem tokens_position (position : Nat) : tokens (toString position) = [toString position] := by
  refine tokens_of_plain (position_ne_empty position) (fun slash => ?_) (fun tilde => ?_)
  · exact absurd (isDigit_of_mem_position slash) (by decide)
  · exact absurd (isDigit_of_mem_position tilde) (by decide)

/-- The digits of a position read back as it. -/
theorem digitsValue_position (position : Nat) :
    digitsValue (toString position).toList = position := by
  have read := Nat.ofDigitChars_toDigits (b := 10) (n := position) (by decide) (by decide)
  rw [Nat.toString_eq_ofList_toDigits, String.toList_ofList]
  simpa only [Nat.ofDigitChars, digitsValue, Nat.mul_comm] using read

/-- A position is the index that its digits are, if it is a number of 64 bits. -/
theorem index?_position {position : Nat} (counted : position < indexLimit) :
    index? (toString position) = some position := by
  have numeric : isNumeric (toString position) = true := by
    simp only [isNumeric, Bool.and_eq_true, bne_iff_ne, List.all_eq_true]
    exact ⟨position_ne_empty position, fun c => isDigit_of_mem_position⟩
  rw [index?, digitsValue_position, numeric]
  simp [counted]

end Pointer

/-! ## Reading at joined pointers -/

namespace Json

/-- Reading along tokens is reading along the first of them and then along the others. -/
theorem get?_append (first second : List String) (doc : Json) :
    doc.get? (first ++ second) = (doc.get? first).bind (get? second) := by
  induction first generalizing doc with
  | nil => rfl
  | cons token first ih =>
    rw [List.cons_append, get?, get?, Option.bind_assoc]
    exact congrArg _ (funext ih)

/-- Reading at a joined pointer is reading at one part after the other. -/
theorem at?_join {base relative : String} (based : base ≠ "/") (proper : relative ≠ "/")
    (doc : Json) : doc.at? (Pointer.join base relative) =
      (doc.at? base).bind fun inner => inner.at? relative := by
  rw [at?, Pointer.tokens_join based proper, get?_append]
  rfl

end Json

end UiStream
