import UiStream.Proofs.Pointer.Joined

/-!
# Pointers that are written and read

`Pointer.escape` writes a token character by character, and `Pointer.unescape` reads it by two
replacements in the whole text.  That is reading it once from left to right
(`Pointer.unescape_eq_decode`): what the first replacement writes is no part of what the second one
looks for.  So what was escaped is read as it was (`Pointer.decode_escape`), and a component in
which each tilde stands for something is written as it was (`Pointer.escape_decode`).

Between the slashes stand the components, and no slash is left in one that was escaped.  So tokens
are read as they were written, unless the only one of them is empty (`Pointer.tokens_ofTokens`).  A
pointer is written as it was read exactly if it takes no liberties (`Pointer.ofTokens_tokens_iff`).
-/

namespace UiStream

/-! ## Splitting what was joined -/

section

variable {α : Type} {sep : α}

theorem flatMap_cons_eq_joinWith {pieces : List (List α)} (given : pieces ≠ []) :
    pieces.flatMap (sep :: ·) = sep :: joinWith sep pieces := by
  induction pieces with
  | nil => exact absurd rfl given
  | cons piece pieces ih =>
    cases pieces with
    | nil => simp [joinWith]
    | cons next pieces => rw [List.flatMap_cons, ih (List.cons_ne_nil _ _)]; rfl

variable [DecidableEq α]

/-- Pieces without the separator in them come apart again. -/
theorem splitOn_joinWith {pieces : List (List α)} (given : pieces ≠ [])
    (none : ∀ piece ∈ pieces, sep ∉ piece) : splitOn sep (joinWith sep pieces) = pieces := by
  induction pieces with
  | nil => exact absurd rfl given
  | cons piece pieces ih =>
    have first := splitOn_of_not_mem (none piece List.mem_cons_self)
    cases pieces with
    | nil => exact first
    | cons next pieces =>
      have later := ih (List.cons_ne_nil _ _) fun p mem => none p (List.mem_cons_of_mem _ mem)
      rw [joinWith, splitOn_append_cons, first, later]
      · rfl
      · exact List.cons_ne_nil _ _

/-- No piece has the separator in it. -/
theorem not_mem_of_mem_splitOn {s piece : List α} (mem : piece ∈ splitOn sep s) : sep ∉ piece := by
  induction s generalizing piece with
  | nil =>
    rw [List.mem_singleton.mp mem]
    exact List.not_mem_nil
  | cons c s ih =>
    rw [splitOn] at mem
    by_cases same : c = sep
    · rw [if_pos same] at mem
      rcases List.mem_cons.mp mem with rfl | mem
      · exact List.not_mem_nil
      · exact ih mem
    · rw [if_neg same] at mem
      cases pieces : splitOn sep s with
      | nil => exact absurd pieces (splitOn_ne_nil sep s)
      | cons first rest =>
        rw [pieces] at mem ih
        rcases List.mem_cons.mp mem with rfl | mem
        · have inner := ih List.mem_cons_self
          simp [Ne.symm same, inner]
        · exact ih (List.mem_cons_of_mem _ mem)

end

namespace Pointer

/-! ## Components -/

/-- The token a component stands for, read once from left to right. -/
def decode : List Char → List Char
  | [] => []
  | [c] => [c]
  | c :: d :: rest =>
    if c = '~' ∧ d = '0' then '~' :: decode rest
    else if c = '~' ∧ d = '1' then '/' :: decode rest
    else c :: decode (d :: rest)

section

variable {first second replacement : Char}

theorem replacePair_cons_of_ne {c : Char} (other : c ≠ first) (s : List Char) :
    replacePair first second replacement (c :: s) =
      c :: replacePair first second replacement s := by
  cases s with
  | nil => rfl
  | cons d s => rw [replacePair, if_neg fun pair => other pair.1]

/-- A replacement leaves the first character of a text or puts the new one there. -/
theorem head?_replacePair_cons (d : Char) (s : List Char) :
    (replacePair first second replacement (d :: s)).head? = some d ∨
      (replacePair first second replacement (d :: s)).head? = some replacement := by
  cases s with
  | nil => exact .inl rfl
  | cons e s =>
    rw [replacePair]
    split
    · exact .inr rfl
    · exact .inl rfl

/-- The first character of a text stays if the second of a pair is not behind it. -/
theorem replacePair_cons_of_head? {s : List Char} (other : s.head? ≠ some second) (c : Char) :
    replacePair first second replacement (c :: s) =
      c :: replacePair first second replacement s := by
  cases s with
  | nil => rfl
  | cons d s => rw [replacePair, if_neg fun pair => other (congrArg some pair.2)]

end

/-- The two replacements are one pass from left to right. -/
theorem unescape_eq_decode (s : List Char) : unescape s = decode s := by
  unfold unescape
  fun_induction decode s with
  | case1 | case2 => rfl
  | case3 c d rest pair ih =>
    obtain ⟨rfl, rfl⟩ := pair
    rw [replacePair_cons_of_head? (by simp), replacePair_cons_of_ne (c := '0') (by decide),
      replacePair, if_pos ⟨rfl, rfl⟩, ih]
  | case4 c d rest _ pair ih =>
    obtain ⟨rfl, rfl⟩ := pair
    rw [replacePair, if_pos ⟨rfl, rfl⟩, replacePair_cons_of_ne (by decide), ih]
  | case5 c d rest zero one ih =>
    rw [replacePair, if_neg one]
    by_cases tilde : c = '~'
    · -- Behind the tilde the first replacement may have changed the character, but to no zero.
      have other : (replacePair '~' '1' '/' (d :: rest)).head? ≠ some '0' := by
        intro opens
        rcases head?_replacePair_cons d rest with kept | replaced
        · exact zero ⟨tilde, Option.some.inj (kept.symm.trans opens)⟩
        · exact absurd (replaced.symm.trans opens) (by decide)
      rw [replacePair_cons_of_head? other, ih]
    · rw [replacePair_cons_of_ne tilde, ih]

theorem decode_cons_of_ne {c : Char} (other : c ≠ '~') (s : List Char) :
    decode (c :: s) = c :: decode s := by
  cases s with
  | nil => rfl
  | cons d s => rw [decode, if_neg fun pair => other pair.1, if_neg fun pair => other pair.1]

theorem escape_cons (c : Char) (token : List Char) :
    escape (c :: token) = escapeChar c ++ escape token := List.flatMap_cons

/-- What was escaped is read as it was. -/
theorem decode_escape (token : List Char) : decode (escape token) = token := by
  induction token with
  | nil => rfl
  | cons c token ih =>
    rw [escape_cons, escapeChar]
    split
    · next tilde => simp [decode, ih, tilde]
    · next other =>
      split
      · next slash => simp [decode, ih, slash]
      · rw [List.singleton_append, decode_cons_of_ne other, ih]

theorem slash_not_mem_escape (token : List Char) : '/' ∉ escape token := by
  intro inside
  obtain ⟨c, -, inside⟩ := List.mem_flatMap.mp inside
  unfold escapeChar at inside
  split at inside
  · exact absurd inside (by decide)
  · split at inside
    · exact absurd inside (by decide)
    · next other => exact other (List.mem_singleton.mp inside).symm

theorem decode_eq_nil_iff {s : List Char} : decode s = [] ↔ s = [] := by
  fun_cases decode s <;> simp

/-! ## Tildes -/

/-- Each tilde of a text stands in front of a zero or a one. -/
def Paired (s : List Char) : Prop :=
  ∀ rest, '~' :: rest <:+ s → rest.head? = some '0' ∨ rest.head? = some '1'

theorem paired_nil : Paired [] := fun _ suffix => absurd (List.suffix_nil.mp suffix) (by simp)

theorem paired_cons {c : Char} {s : List Char} :
    Paired (c :: s) ↔ (c = '~' → s.head? = some '0' ∨ s.head? = some '1') ∧ Paired s := by
  constructor
  · intro paired
    refine ⟨?_, fun rest suffix => paired rest (List.suffix_cons_iff.mpr (.inr suffix))⟩
    rintro rfl
    exact paired s List.suffix_rfl
  · rintro ⟨here, later⟩ rest suffix
    rcases List.suffix_cons_iff.mp suffix with same | suffix
    · cases same
      exact here rfl
    · exact later rest suffix

theorem paired_append_slash {s t : List Char} : Paired (s ++ '/' :: t) ↔ Paired s ∧ Paired t := by
  induction s with
  | nil => simp [paired_cons, paired_nil]
  | cons c s ih =>
    -- A slash is no better behind a tilde than the end.
    have behind : (s ++ '/' :: t).head? = some '0' ∨ (s ++ '/' :: t).head? = some '1' ↔
        s.head? = some '0' ∨ s.head? = some '1' := by
      cases s <;> simp
    rw [List.cons_append, paired_cons, paired_cons, ih, behind, and_assoc]

theorem paired_joinWith {pieces : List (List Char)} :
    Paired (joinWith '/' pieces) ↔ ∀ piece ∈ pieces, Paired piece := by
  induction pieces with
  | nil => simp [joinWith, paired_nil]
  | cons piece pieces ih =>
    cases pieces with
    | nil => simp [joinWith]
    | cons next pieces =>
      rw [joinWith, paired_append_slash, ih, ← List.forall_mem_cons]
      exact List.cons_ne_nil _ _

theorem paired_escape (token : List Char) : Paired (escape token) := by
  induction token with
  | nil => exact paired_nil
  | cons c token ih =>
    rw [escape_cons, escapeChar]
    split
    · simp [paired_cons, ih]
    · next other =>
      split
      · simp [paired_cons, ih]
      · simp [paired_cons, ih, other]

/-- A component in which each tilde is paired is written as it was. -/
theorem escape_decode {s : List Char} (paired : Paired s) (slash : '/' ∉ s) :
    escape (decode s) = s := by
  fun_induction decode s with
  | case1 => rfl
  | case2 c =>
    have other : c ≠ '~' := fun tilde => by simpa using (paired_cons.mp paired).1 tilde
    simp only [List.mem_singleton] at slash
    simp [escape, escapeChar, other, Ne.symm slash]
  | case3 c d rest pair ih | case4 c d rest _ pair ih =>
    obtain ⟨rfl, rfl⟩ := pair
    have later := (paired_cons.mp (paired_cons.mp paired).2).2
    rw [escape_cons, ih later fun inside => slash (by simp [inside])]
    rfl
  | case5 c d rest zero one ih =>
    obtain ⟨here, later⟩ := paired_cons.mp paired
    have other : c ≠ '~' := by
      intro tilde
      rcases here tilde with opens | opens
      · exact zero ⟨tilde, Option.some.inj opens⟩
      · exact one ⟨tilde, Option.some.inj opens⟩
    obtain ⟨here, slash⟩ := not_or.mp (mt List.mem_cons.mpr slash)
    rw [escape_cons, ih later slash, escapeChar, if_neg other, if_neg (Ne.symm here),
      List.singleton_append]

/-! ## Pointers -/

theorem toList_ofTokens {list : List String} (given : list ≠ []) :
    (ofTokens list).toList = '/' :: joinWith '/' (list.map fun token => escape token.toList) := by
  have pieces : list.map (fun token => escape token.toList) ≠ [] := by simpa using given
  rw [ofTokens, String.toList_ofList, ← flatMap_cons_eq_joinWith pieces, List.flatMap_map]

/-- Tokens are read as they were written, unless the only one of them is empty. -/
theorem tokens_ofTokens {list : List String} (proper : list ≠ [""]) :
    tokens (ofTokens list) = list := by
  by_cases given : list = []
  · subst given
    rfl
  · have text := toList_ofTokens given
    have pieces : splitOn '/' (joinWith '/' (list.map fun token => escape token.toList)) =
        list.map fun token => escape token.toList := by
      refine splitOn_joinWith (by simpa using given) fun piece mem => ?_
      obtain ⟨token, -, rfl⟩ := List.mem_map.mp mem
      exact slash_not_mem_escape _
    have some : ofTokens list ≠ "" := fun h => by simp [h] at text
    have more : ofTokens list ≠ "/" := by
      intro slash
      rw [slash] at text
      rw [← (List.cons.inj text).2] at pieces
      obtain ⟨token, rfl, nothing⟩ := List.map_eq_singleton_iff.mp pieces.symm
      have blank : token.toList = [] := by rw [← decode_escape token.toList, nothing]; rfl
      exact proper (congrArg (fun t => [t]) (String.toList_eq_nil_iff.mp blank))
    rw [tokens_eq_components some more, text, dropSlash, components, pieces, List.map_map]
    refine (List.map_congr_left fun token _ => ?_).trans (List.map_id list)
    simp [unescape_eq_decode, decode_escape]

/-- No pointer has an empty token as its only one. -/
theorem tokens_ne_empty (pointer : String) : tokens pointer ≠ [""] := by
  by_cases given : pointer = ""
  · subst given
    decide
  by_cases proper : pointer = "/"
  · subst proper
    decide
  intro only
  rw [tokens_eq_components given proper] at only
  obtain ⟨piece, split, read⟩ := List.map_eq_singleton_iff.mp only
  have blank : piece = [] := by
    rwa [String.ofList_eq_empty_iff, unescape_eq_decode, decode_eq_nil_iff] at read
  have body := joinWith_splitOn '/' (dropSlash pointer.toList)
  rw [split, blank] at body
  exact dropSlash_ne_nil given proper body.symm

/-- A pointer that takes no liberties: it is empty or begins with a slash, and each tilde in it
stands for something. -/
structure Strict (pointer : String) : Prop where
  front : pointer = "" ∨ pointer.toList.head? = some '/'
  paired : Paired pointer.toList

theorem strict_ofTokens (list : List String) : Strict (ofTokens list) := by
  by_cases given : list = []
  · subst given
    exact ⟨.inl rfl, paired_nil⟩
  · have text := toList_ofTokens given
    refine ⟨.inr (by rw [text]; rfl), ?_⟩
    rw [text, paired_cons, paired_joinWith]
    refine ⟨fun tilde => absurd tilde (by decide), fun piece mem => ?_⟩
    obtain ⟨token, -, rfl⟩ := List.mem_map.mp mem
    exact paired_escape _

/-- Components in which each tilde is paired are written as they were. -/
theorem toList_ofTokens_components {body : List Char} (paired : Paired body) :
    (ofTokens (components body)).toList = '/' :: body := by
  have pieces := joinWith_splitOn '/' body
  rw [← pieces, paired_joinWith] at paired
  have written : (components body).map (fun token => escape token.toList) = splitOn '/' body := by
    rw [components, List.map_map]
    refine (List.map_congr_left fun piece mem => ?_).trans (List.map_id _)
    simp [unescape_eq_decode, escape_decode (paired piece mem) (not_mem_of_mem_splitOn mem)]
  have given : components body ≠ [] := by simpa [components] using splitOn_ne_nil '/' body
  rw [toList_ofTokens given, written, pieces]

/-- A pointer is written as it was read exactly if it takes no liberties and is not a slash
alone. -/
theorem ofTokens_tokens_iff (pointer : String) :
    ofTokens (tokens pointer) = pointer ↔ Strict pointer ∧ pointer ≠ "/" := by
  constructor
  · intro same
    refine ⟨same ▸ strict_ofTokens _, ?_⟩
    rintro rfl
    exact absurd same (by decide)
  · rintro ⟨⟨rfl | front, paired⟩, proper⟩
    · rfl
    · obtain ⟨body, text⟩ := List.head?_eq_some_iff.mp front
      have given : pointer ≠ "" := by rintro rfl; simp at front
      rw [text, paired_cons] at paired
      rw [tokens_eq_components given proper, text]
      apply String.toList_injective
      rw [text]
      exact toList_ofTokens_components paired.2

/-- **Reading and writing pointers are inverse.**  Tokens are read as they were written, unless the
only one of them is empty, which is never read; so what was read of any pointer is read again of the
pointer that is written for it.  A pointer is written as it was read exactly if it is empty or
begins with a slash, is not a slash alone, and has a zero or a one behind each tilde.  A component
stands for the token that one pass from left to right makes of it. -/
theorem codec_round_trips :
    (∀ list : List String, list ≠ [""] → tokens (ofTokens list) = list) ∧
    (∀ pointer : String, tokens pointer ≠ [""]) ∧
    (∀ pointer : String, tokens (ofTokens (tokens pointer)) = tokens pointer) ∧
    (∀ pointer : String,
      ofTokens (tokens pointer) = pointer ↔ Strict pointer ∧ pointer ≠ "/") ∧
    ∀ component : List Char, unescape component = decode component :=
  ⟨fun _ => tokens_ofTokens, tokens_ne_empty,
    fun pointer => tokens_ofTokens (tokens_ne_empty pointer), ofTokens_tokens_iff,
    unescape_eq_decode⟩

/-- Tokens that are empty, hold a slash or look escaped, and the pointer that is written for
them. -/
theorem codec_round_trips_escaped :
    ["", "a/b", "~01", ""] ≠ [""] ∧ ofTokens ["", "a/b", "~01", ""] = "//a~1b/~001/" ∧
      tokens "//a~1b/~001/" = ["", "a/b", "~01", ""] ∧ Strict "//a~1b/~001/" := by
  obtain ⟨read, -, -, written, -⟩ := codec_round_trips
  have proper : ["", "a/b", "~01", ""] ≠ [""] := by decide
  have text : ofTokens ["", "a/b", "~01", ""] = "//a~1b/~001/" := by decide
  have again := read _ proper
  rw [text] at again
  exact ⟨proper, text, again, ((written _).mp (by rw [again, text])).1⟩

end Pointer

end UiStream
