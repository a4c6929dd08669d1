import UiStream.Proofs.Json.Parsed
import UiStream.Proofs.Text.Trim

/-!
# Leaves with blanks behind them

Blanks behind a number, a string or a literal are not read with it, of whatever kind they are: what
is read of a text with blanks behind it, is read of the text alone, and the blanks are left over
(`Json.Parser.Spares`).  The reason is the same everywhere: no character that goes on with a leaf is
a blank, except inside a string, and blanks alone do not end a string (`stringFrom_blank`).

`Spares` says this only of what is read.  Where reading fails with the blanks, it may fail
differently without them, or not at all.
-/

namespace UiStream

/-! ## Characters that are no blanks -/

/-- A blank is a control character, a space, or outside ASCII. -/
theorem toNat_of_isBlank {c : Char} (blank : isBlank c = true) :
    c.toNat ≤ 0x20 ∨ 0x85 ≤ c.toNat := by
  simp only [isBlank, CodeRanges.has, whiteSpace, List.any_cons, List.any_nil, Bool.or_eq_true,
    Bool.and_eq_true, decide_eq_true_eq, Bool.false_eq_true, or_false] at blank
  omega

theorem ne_of_isBlank {c d : Char} (blank : isBlank c = true) (other : isBlank d = false) :
    c ≠ d := by
  rintro rfl
  rw [blank] at other
  cases other

theorem isDigit_of_isBlank {c : Char} (blank : isBlank c = true) : c.isDigit = false := by
  have code := toNat_of_isBlank blank
  simp only [Char.isDigit, Bool.and_eq_false_iff, decide_eq_false_iff_not, ge_iff_le,
    UInt32.le_iff_toNat_le, Char.toNat, Char.reduceVal, UInt32.reduceToNat] at code ⊢
  omega

theorem digitValue?_of_isBlank {c : Char} (blank : isBlank c = true) (base : Nat) :
    digitValue? base c = none := by
  have code := toNat_of_isBlank blank
  simp only [digitValue?, Char.le_def, UInt32.le_iff_toNat_le, Char.toNat, Char.reduceVal,
    UInt32.reduceToNat] at code ⊢
  rw [if_neg (by omega), if_neg (by omega), if_neg (by omega)]
  rfl

/-- No number is written with a blank. -/
theorem numberOf?_of_isBlank {base : Nat} {digits : List Char} {c : Char} (mem : c ∈ digits)
    (blank : isBlank c = true) : numberOf? base digits = none := by
  have none : digits.mapM (digitValue? base) = none := by
    induction digits with
    | nil => cases mem
    | cons d rest ih =>
      rw [List.mapM_cons]
      rcases List.mem_cons.mp mem with rfl | mem
      · rw [digitValue?_of_isBlank blank]; rfl
      · cases digitValue? base d with
        | none => rfl
        | some value => rw [ih mem]; rfl
  rw [numberOf?, none]
  rfl

namespace Json.Parser

/-- What is read of the long text is read of the short one, and the blanks are left over behind
what the short one leaves, which has fewer characters than the bound.  The bound tells that there is
fuel enough for what is read next. -/
structure Spares {α : Type} (blanks : List Char) (bound : Nat)
    (long short : Except Fault (Read α)) : Prop where
  spared : ∀ v r, long = .ok (v, r) →
    ∃ left, r = left ++ blanks ∧ left.length < bound ∧ short = .ok (v, left)

section Outcomes

variable {α β : Type} {blanks : List Char} {bound : Nat}

theorem spares_ok {v : α} {left : List Char} (shorter : left.length < bound) :
    Spares blanks bound (.ok (v, left ++ blanks)) (.ok (v, left)) :=
  ⟨fun _ _ h => by cases h; exact ⟨left, rfl, shorter, rfl⟩⟩

theorem spares_failBefore (fault : JsonFault) (s : List Char) (short : Except Fault (Read α)) :
    Spares blanks bound (failBefore fault s) short := ⟨fun _ _ h => nomatch h⟩

theorem spares_failInto (fault : JsonFault) (s : List Char) (short : Except Fault (Read α)) :
    Spares blanks bound (failInto fault s) short := ⟨fun _ _ h => nomatch h⟩

theorem Spares.mono {long short : Except Fault (Read α)} (h : Spares blanks bound long short)
    {more : Nat} (le : bound ≤ more) : Spares blanks more long short := by
  refine ⟨fun v r found => ?_⟩
  obtain ⟨left, split, shorter, read⟩ := h.spared v r found
  exact ⟨left, split, Nat.lt_of_lt_of_le shorter le, read⟩

theorem spares_ite {c : Prop} [Decidable c] {one one' other other' : Except Fault (Read α)}
    (h : c → Spares blanks bound one one') (h' : ¬ c → Spares blanks bound other other') :
    Spares blanks bound (if c then one else other) (if c then one' else other') := by
  split
  · next holds => exact h holds
  · next fails => exact h' fails

/-- What is read after something else. -/
theorem Spares.bind {bound' : Nat} {long short : Except Fault (Read α)}
    {next next' : Read α → Except Fault (Read β)} (h : Spares blanks bound long short)
    (h' : ∀ v left, left.length < bound →
      Spares blanks bound' (next (v, left ++ blanks)) (next' (v, left))) :
    Spares blanks bound' (long >>= next) (short >>= next') := by
  refine ⟨fun w r found => ?_⟩
  cases long with
  | error => cases found
  | ok read =>
    obtain ⟨left, split, shorter, same⟩ := h.spared read.1 read.2 rfl
    rw [same]
    refine (h' read.1 left shorter).spared w r ?_
    rw [← split]
    exact found

end Outcomes

variable {blanks : List Char} (blank : Blanks blanks)
include blank

/-! ## Literals -/

theorem spares_literal (value : Json) {expected : List Char}
    (letters : expected.any UiStream.isBlank = false) (s : List Char) :
    Spares blanks (s.length + 1) (literal value expected (s ++ blanks))
      (literal value expected s) := by
  induction expected generalizing s with
  | nil => exact spares_ok (Nat.lt_succ_self _)
  | cons e expected ih =>
    obtain ⟨letter, letters⟩ := Bool.or_eq_false_iff.mp letters
    cases s with
    | nil =>
      cases blanks with
      | nil => exact spares_failBefore ..
      | cons c rest =>
        have other : literal value (e :: expected) (c :: rest) =
            failInto .expectedLiteral (c :: rest) := by
          rw [literal, if_neg (ne_of_isBlank (blank c (.head _)) letter)]
        rw [List.nil_append, other]
        exact spares_failInto ..
    | cons c s =>
      rw [List.cons_append, literal, literal]
      exact spares_ite (fun _ => (ih letters s).mono (Nat.le_succ _))
        fun _ => spares_failInto ..

/-! ## Numbers -/

theorem takeWhile_isDigit_append (s : List Char) :
    (s ++ blanks).takeWhile Char.isDigit = s.takeWhile Char.isDigit := by
  induction s with
  | nil =>
    cases blanks with
    | nil => rfl
    | cons c rest =>
      have other := isDigit_of_isBlank (blank c (.head _))
      exact List.takeWhile_cons_of_neg (ne_true_of_eq_false other)
  | cons c s ih => rw [List.cons_append, List.takeWhile_cons, List.takeWhile_cons, ih]

theorem dropWhile_isDigit_append (s : List Char) :
    (s ++ blanks).dropWhile Char.isDigit = s.dropWhile Char.isDigit ++ blanks := by
  induction s with
  | nil =>
    cases blanks with
    | nil => rfl
    | cons c rest =>
      have other := isDigit_of_isBlank (blank c (.head _))
      exact List.dropWhile_cons_of_neg (ne_true_of_eq_false other)
  | cons c s ih =>
    rw [List.cons_append, List.dropWhile_cons, List.dropWhile_cons, ih]
    split <;> rfl

theorem exponentDigits_append (n : Nat) (s : List Char) :
    exponentDigits n (s ++ blanks) =
      ((exponentDigits n s).1, (exponentDigits n s).2 ++ blanks) := by
  induction s generalizing n with
  | nil =>
    cases blanks with
    | nil => rfl
    | cons c rest =>
      have other : exponentDigits n (c :: rest) = (some n, c :: rest) := by
        rw [exponentDigits, isDigit_of_isBlank (blank c (.head _))]
        rfl
      exact other
  | cons c s ih =>
    rw [List.cons_append, exponentDigits, exponentDigits]
    dsimp only
    split
    · split
      · rfl
      · exact ih _
    · rfl

omit blank in
theorem length_exponentDigits_le (n : Nat) (s : List Char) :
    (exponentDigits n s).2.length ≤ s.length := by
  induction s generalizing n with
  | nil => exact Nat.le_refl _
  | cons c s ih =>
    rw [exponentDigits]
    dsimp only
    split
    · split
      · exact Nat.le_succ _
      · exact (ih _).trans (Nat.le_succ _)
    · exact Nat.le_refl _

omit blank in
theorem spares_fractional (negative : Bool) (whole fraction : List Char) (exponent : Int)
    (s : List Char) :
    Spares blanks (s.length + 1) (fractional negative whole fraction exponent (s ++ blanks))
      (fractional negative whole fraction exponent s) := by
  unfold fractional
  split
  · exact spares_ok (Nat.lt_succ_self _)
  · exact spares_failBefore ..

omit blank in
theorem spares_whole (negative : Bool) (digits s : List Char) :
    Spares blanks (s.length + 1) (whole negative digits (s ++ blanks))
      (whole negative digits s) := by
  unfold whole
  split
  extract_lets value
  by_cases integral : Integral value
  · rw [dif_pos integral, dif_pos integral]
    exact spares_ite (fun _ => spares_ok (Nat.lt_succ_self _)) fun _ => spares_fractional ..
  · rw [dif_neg integral, dif_neg integral]
    exact spares_fractional ..

/-- The sign of an exponent: whether it is a minus, and what comes behind it. -/
def sign : List Char → Bool × List Char
  | '+' :: s => (false, s)
  | '-' :: s => (true, s)
  | s => (false, s)

/-- The exponent of a number behind its sign. -/
def exponentBody (negative : Bool) (whole fraction : List Char) (down : Bool) (s : List Char) :
    Except Fault (Read Json) :=
  match s with
  | [] => failBefore .endInValue []
  | c :: _ =>
    if !c.isDigit then failInto .invalidNumber s
    else
      match exponentDigits 0 s with
      | (some n, s) => fractional negative whole fraction (if down then -(n : Int) else n) s
      | (none, s) =>
        if down || (whole ++ fraction).all (· == '0') then
          .ok (.number (.double (.zero negative)), s.dropWhile Char.isDigit)
        else failBefore .numberOutOfRange s

omit blank in
theorem exponentPart_eq (negative : Bool) (whole fraction s : List Char) :
    exponentPart negative whole fraction s =
      exponentBody negative whole fraction (sign s).1 (sign s).2 := rfl

omit blank in
theorem sign_cons (c : Char) (s : List Char) :
    sign (c :: s) =
      if c = '+' then (false, s) else if c = '-' then (true, s) else (false, c :: s) := by
  unfold sign
  split
  · next same => cases same; rfl
  · next same => cases same; rfl
  · next plus minus =>
    rw [if_neg fun same => plus s (by rw [same]), if_neg fun same => minus s (by rw [same])]

theorem sign_append (s : List Char) : sign (s ++ blanks) = ((sign s).1, (sign s).2 ++ blanks) := by
  cases s with
  | nil =>
    cases blanks with
    | nil => rfl
    | cons c rest =>
      have other := blank c (.head _)
      rw [List.nil_append, sign_cons, if_neg (ne_of_isBlank other (by decide)),
        if_neg (ne_of_isBlank other (by decide))]
      rfl
  | cons c s =>
    rw [List.cons_append, sign_cons, sign_cons]
    split
    · rfl
    · split <;> rfl

omit blank in
theorem length_sign_le (s : List Char) : (sign s).2.length ≤ s.length := by
  cases s with
  | nil => exact Nat.le_refl _
  | cons c s =>
    rw [sign_cons]
    split
    · exact Nat.le_succ _
    · split
      · exact Nat.le_succ _
      · exact Nat.le_refl _

theorem spares_exponentBody (negative down : Bool) (whole fraction s : List Char) :
    Spares blanks (s.length + 1) (exponentBody negative whole fraction down (s ++ blanks))
      (exponentBody negative whole fraction down s) := by
  cases s with
  | nil =>
    cases blanks with
    | nil => exact spares_failBefore ..
    | cons c rest =>
      have other : exponentBody negative whole fraction down (c :: rest) =
          failInto .invalidNumber (c :: rest) := by
        simp only [exponentBody, isDigit_of_isBlank (blank c (.head _)), Bool.not_false, if_true]
      rw [List.nil_append, other]
      exact spares_failInto ..
  | cons c s =>
    have cut := exponentDigits_append blank 0 (c :: s)
    have shorter := length_exponentDigits_le 0 (c :: s)
    simp only [exponentBody, List.cons_append] at cut ⊢
    refine spares_ite (fun _ => spares_failInto ..) fun _ => ?_
    rw [cut]
    generalize exponentDigits 0 (c :: s) = read at shorter
    obtain ⟨n, left⟩ := read
    cases n with
    | some n => exact (spares_fractional ..).mono (Nat.succ_le_succ shorter)
    | none =>
      refine spares_ite (fun _ => ?_) fun _ => spares_failBefore ..
      rw [dropWhile_isDigit_append blank]
      have dropped := (List.dropWhile_suffix Char.isDigit (l := left)).length_le
      exact spares_ok (Nat.lt_succ_of_le (dropped.trans shorter))

theorem spares_exponentPart (negative : Bool) (whole fraction s : List Char) :
    Spares blanks (s.length + 1) (exponentPart negative whole fraction (s ++ blanks))
      (exponentPart negative whole fraction s) := by
  rw [exponentPart_eq, exponentPart_eq, sign_append blank]
  exact (spares_exponentBody blank ..).mono (Nat.succ_le_succ (length_sign_le s))

/-- What stands behind the digits of a fraction. -/
def behindFraction (negative : Bool) (whole fraction : List Char) :
    List Char → Except Fault (Read Json)
  | [] => fractional negative whole fraction 0 []
  | c :: s =>
    if c = 'e' ∨ c = 'E' then exponentPart negative whole fraction s
    else fractional negative whole fraction 0 (c :: s)

/-- What stands behind the whole digits of a number. -/
def behindWhole (negative : Bool) (first : Char) (digits : List Char) :
    List Char → Except Fault (Read Json)
  | [] => whole negative digits []
  | c :: s =>
    if c = 'e' ∨ c = 'E' then exponentPart negative digits [] s
    else if c = '.' then
      if (s.takeWhile Char.isDigit).isEmpty then
        failInto (if s.isEmpty then .endInValue else .invalidNumber) s
      else behindFraction negative digits (s.takeWhile Char.isDigit) (s.dropWhile Char.isDigit)
    else if first = '0' && c.isDigit then failInto .invalidNumber (c :: s)
    else whole negative digits (c :: s)

omit blank in
theorem number_cons (negative : Bool) (c : Char) (s : List Char) :
    number negative (c :: s) =
      if !c.isDigit then failInto .invalidNumber (c :: s)
      else behindWhole negative c (if c = '0' then ['0'] else (c :: s).takeWhile Char.isDigit)
        (if c = '0' then s else (c :: s).dropWhile Char.isDigit) := by
  unfold number
  dsimp only
  refine if_congr Iff.rfl rfl ?_
  generalize (if c = '0' then ['0'] else (c :: s).takeWhile Char.isDigit) = digits
  generalize (if c = '0' then s else (c :: s).dropWhile Char.isDigit) = rest
  unfold behindWhole
  split
  · next s =>
    simp only [Char.reduceEq, or_self, if_false, if_true]
    refine if_congr Iff.rfl rfl ?_
    unfold behindFraction
    generalize s.dropWhile Char.isDigit = s
    split
    · rfl
    · rfl
    · next small large =>
      cases s with
      | nil => rfl
      | cons d s =>
        have off : ¬ (d = 'e' ∨ d = 'E') :=
          not_or.mpr ⟨fun same => small s (by rw [same]), fun same => large s (by rw [same])⟩
        exact (if_neg off).symm
  · rfl
  · rfl
  · next d rest point small large =>
    dsimp only
    rw [if_neg (not_or.mpr ⟨small, large⟩), if_neg point]
  · rfl

theorem spares_behindFraction (negative : Bool) (whole fraction s : List Char) :
    Spares blanks (s.length + 1) (behindFraction negative whole fraction (s ++ blanks))
      (behindFraction negative whole fraction s) := by
  cases s with
  | cons c s =>
    refine spares_ite (fun _ => ?_) fun _ => spares_fractional ..
    exact (spares_exponentPart blank ..).mono (Nat.le_succ _)
  | nil =>
    have other : behindFraction negative whole fraction blanks =
        fractional negative whole fraction 0 blanks := by
      cases blanks with
      | nil => rfl
      | cons c rest =>
        have off {d : Char} (h : UiStream.isBlank d = false) := ne_of_isBlank (blank c (.head _)) h
        rw [behindFraction, if_neg (not_or.mpr ⟨off (by decide), off (by decide)⟩)]
    rw [List.nil_append, other]
    exact spares_fractional negative whole fraction 0 []

theorem spares_behindWhole (negative : Bool) (first : Char) (digits s : List Char) :
    Spares blanks (s.length + 1) (behindWhole negative first digits (s ++ blanks))
      (behindWhole negative first digits s) := by
  cases s with
  | cons c s =>
    rw [List.cons_append, behindWhole, behindWhole]
    refine spares_ite (fun _ => ?_) fun _ => spares_ite (fun _ => ?_) fun _ => ?_
    · exact (spares_exponentPart blank ..).mono (Nat.le_succ _)
    · rw [takeWhile_isDigit_append blank, dropWhile_isDigit_append blank]
      refine spares_ite (fun _ => spares_failInto ..) fun _ => ?_
      refine (spares_behindFraction blank ..).mono (Nat.succ_le_succ ?_)
      exact (List.dropWhile_suffix _).length_le.trans (Nat.le_succ _)
    · exact spares_ite (fun _ => spares_failInto ..) fun _ => spares_whole negative digits (c :: s)
  | nil =>
    have other : behindWhole negative first digits blanks = whole negative digits blanks := by
      cases blanks with
      | nil => rfl
      | cons c rest =>
        have off {d : Char} (h : UiStream.isBlank d = false) := ne_of_isBlank (blank c (.head _)) h
        rw [behindWhole, if_neg (not_or.mpr ⟨off (by decide), off (by decide)⟩),
          if_neg (off (by decide)), isDigit_of_isBlank (blank c (.head _)), Bool.and_false,
          if_neg Bool.false_ne_true]
    rw [List.nil_append, other]
    exact spares_whole negative digits []

theorem spares_number (negative : Bool) (s : List Char) :
    Spares blanks s.length (number negative (s ++ blanks)) (number negative s) := by
  cases s with
  | nil =>
    cases blanks with
    | nil => exact spares_failBefore ..
    | cons c rest =>
      rw [List.nil_append, number_cons, isDigit_of_isBlank (blank c (.head _))]
      exact spares_failInto ..
  | cons c s =>
    rw [List.cons_append, number_cons, number_cons, ← List.cons_append,
      takeWhile_isDigit_append blank, dropWhile_isDigit_append blank]
    refine spares_ite (fun _ => spares_failInto ..) fun digit => ?_
    split
    · exact spares_behindWhole blank ..
    · refine (spares_behindWhole blank ..).mono (Nat.succ_le_of_lt ?_)
      have digit : c.isDigit = true := by simpa using digit
      rw [List.dropWhile_cons_of_pos digit]
      exact Nat.lt_succ_of_le (List.dropWhile_suffix _).length_le

/-! ## Strings -/

theorem spares_fourHex (s : List Char) :
    Spares blanks (s.length + 1) (fourHex (s ++ blanks)) (fourHex s) := by
  by_cases long : 4 ≤ s.length
  · have all : ¬ (s ++ blanks).length < 4 := by rw [List.length_append]; omega
    unfold fourHex
    rw [List.take_append_of_le_length long, List.drop_append_of_le_length long]
    split
    · rw [if_neg all, if_neg (Nat.not_lt.mpr long)]
      exact spares_ok (Nat.lt_succ_of_le (List.length_drop ▸ Nat.sub_le ..))
    · split
      · exact spares_failBefore ..
      · exact ⟨fun _ _ h => nomatch h⟩
  · refine ⟨fun n r found => ?_⟩
    unfold fourHex at found
    split at found
    · next hex =>
      split at found
      · cases found
      · next all =>
        -- The fourth digit would be a blank.
        have inside : s.length < (s ++ blanks).length := by omega
        have mem : (s ++ blanks)[s.length] ∈ (s ++ blanks).take 4 :=
          List.mem_take_iff_getElem.mpr ⟨s.length, by omega, rfl⟩
        rw [List.getElem_append_right (Nat.le_refl _)] at mem
        rw [numberOf?_of_isBlank mem (blank _ (List.getElem_mem _))] at hex
        cases hex
    · split at found <;> cases found

/-- What begins a text with blanks behind it and is not blank, begins the text. -/
theorem exists_cons {c : Char} (plain : UiStream.isBlank c = false) {s rest : List Char}
    (h : s ++ blanks = c :: rest) : ∃ left, s = c :: left ∧ rest = left ++ blanks := by
  cases s with
  | nil =>
    have mem : c ∈ blanks := by rw [show blanks = c :: rest from h]; exact .head _
    exact absurd rfl (ne_of_isBlank (blank c mem) plain)
  | cons d left =>
    cases h
    exact ⟨left, rfl, rfl⟩

theorem spares_unicodeEscape (s : List Char) :
    Spares blanks (s.length + 1) (unicodeEscape (s ++ blanks)) (unicodeEscape s) := by
  refine (spares_fourHex blank s).bind fun high left shorter => ?_
  dsimp only
  refine spares_ite (fun _ => spares_failBefore ..) fun _ => ?_
  refine spares_ite (fun _ => spares_ok shorter) fun _ => ?_
  refine ⟨fun c r found => ?_⟩
  split at found
  · cases found
  · cases found
  · next behind split =>
    obtain ⟨left, rfl, behind⟩ := exists_cons blank (by decide) split
    obtain ⟨left, rfl, rfl⟩ := exists_cons blank (by decide) behind.symm
    refine (Spares.bind (spares_fourHex blank left) fun low rest shorter' => ?_).spared c r found
    refine spares_ite (fun _ => spares_ok (Nat.lt_trans shorter' ?_)) fun _ => spares_failBefore ..
    exact Nat.lt_trans (Nat.lt_succ_self _) shorter
  · cases found
  · cases found

theorem spares_escape (s : List Char) :
    Spares blanks (s.length + 1) (escape (s ++ blanks)) (escape s) := by
  refine ⟨fun e r found => ?_⟩
  unfold escape at found
  split at found
  case h_1 | h_11 => cases found
  case h_10 rest split =>
    obtain ⟨left, rfl, rfl⟩ := exists_cons blank (by decide) split
    exact ((spares_unicodeEscape blank left).mono (Nat.le_succ _)).spared e r found
  all_goals
    next rest split =>
    obtain ⟨left, rfl, rfl⟩ := exists_cons blank (by decide) split
    cases found
    exact ⟨left, rfl, Nat.lt_succ_of_lt (Nat.lt_succ_self _), rfl⟩

/-- Blanks alone do not end a string. -/
theorem stringFrom_blank (fuel : Nat) (read : List Char) (text : Read String) :
    stringFrom fuel read blanks ≠ .ok text := by
  induction blanks generalizing fuel read with
  | nil => cases fuel <;> exact nofun
  | cons c rest ih =>
    have off {d : Char} (h : UiStream.isBlank d = false) := ne_of_isBlank (blank c (.head _)) h
    cases fuel with
    | zero => exact nofun
    | succ fuel =>
      rw [stringFrom, if_neg (off (by decide)), if_neg (off (by decide))]
      split
      · exact nofun
      · exact ih (fun d mem => blank d (.tail _ mem)) fuel _

theorem spares_stringFrom (fuel : Nat) {enough : Nat} (read : List Char) {s : List Char}
    (h : s.length < enough) :
    Spares blanks (s.length + 1) (stringFrom fuel read (s ++ blanks))
      (stringFrom enough read s) := by
  -- The two texts differ in length, and so in fuel: any will do for the long one, on which the
  -- induction is, since nothing is claimed where it runs out.
  induction fuel generalizing enough read s with
  | zero => exact spares_failBefore ..
  | succ fuel ih =>
    obtain ⟨enough, rfl⟩ : ∃ n, enough = n + 1 := ⟨enough - 1, by omega⟩
    cases s with
    | nil => exact ⟨fun text r found => (stringFrom_blank blank _ _ _ found).elim⟩
    | cons c s =>
      have room : s.length < enough := Nat.lt_of_succ_lt_succ h
      rw [List.cons_append, stringFrom, stringFrom]
      refine spares_ite (fun _ => ?_) fun _ => spares_ite (fun _ => ?_) fun _ => ?_
      · exact spares_ok (Nat.lt_succ_of_lt (Nat.lt_succ_self _))
      · refine (spares_escape blank s).bind fun e left shorter => ?_
        exact (ih (e :: read) (by omega)).mono (by simp only [List.length_cons]; omega)
      · exact spares_ite (fun _ => spares_failInto ..) fun _ =>
          (ih (c :: read) room).mono (Nat.le_succ _)

theorem spares_stringBody (s : List Char) :
    Spares blanks (s.length + 1) (stringBody (s ++ blanks)) (stringBody s) :=
  spares_stringFrom blank _ [] (Nat.lt_succ_self _)

end Json.Parser

end UiStream
