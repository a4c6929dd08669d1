import UiStream.Regex.Basic
import UiStream.Regex.Flags
import UiStream.Regex.SetName
import UiStream.Text.Digit

/-!
# Escapes in patterns

Behind a backslash a pattern names a character, a set of characters or an assertion.  Characters
that mean something to the pattern stand for themselves, and so do other ASCII characters that
are no letter or digit; of the letters only those with a meaning may follow.
-/

namespace UiStream

/-- What an escape stands for. -/
inductive Escape where
  | char (c : Char)
  | set (set : CodeRanges)
  | assertion (assertion : Assertion)
deriving DecidableEq, Repr

namespace Escape

/-- The text behind a brace that closes. -/
def closed? : List Char → Option (List Char)
  | '\x7d' :: rest => some rest
  | _ => none

/-! ## Characters by code -/

/-- The character whose code digits write. -/
def charOfDigits? (digits : List Char) : Option Char := do
  let code ← numberOf? 16 digits
  if code.isValidChar then some (Char.ofNat code) else none

/-- Reads so many digits, and gives the text behind them. -/
def readDigits? (flags : PatternFlags) : Nat → List Char → Option (List Char × List Char)
  | 0, s => some ([], s)
  | _ + 1, [] => none
  | count + 1, c :: rest =>
    if (digitValue? 16 c).isSome then
      (readDigits? flags count (flags.skip rest)).map fun (digits, rest) => (c :: digits, rest)
    else none

/-- Reads the code of a character in braces, behind the first of them. -/
def readBracedCode? (flags : PatternFlags) (s : List Char) : Option (Escape × List Char) := do
  let (digits, rest) := flags.span (· != '\x7d') s
  let rest ← closed? rest
  if digits.isEmpty then none else some (char (← charOfDigits? digits), flags.skip rest)

/-- Reads the code of a character, in braces or in so many digits.  Two digits beyond ASCII write
a byte where characters are bytes, and no text has such a part. -/
def readCode? (flags : PatternFlags) (count : Nat) (s : List Char) :
    Option (Escape × List Char) := do
  match flags.skip s with
  | '\x7b' :: rest => readBracedCode? flags rest
  | s =>
    let (digits, rest) ← readDigits? flags count s
    let c ← charOfDigits? digits
    if count = 2 ∧ !flags.unicode ∧ 0x80 ≤ c.toNat then none else some (char c, rest)

/-! ## Sets -/

/-- Reads the name of a set, one letter or a text in braces. -/
def readSet? (flags : PatternFlags) (negated : Bool) (s : List Char) :
    Option (Escape × List Char) := do
  let ((named, complement), rest) ← match flags.skip s with
    | '\x7b' :: rest => do
      let (name, rest) := flags.span (· != '\x7d') rest
      let rest ← closed? rest
      pure (← SetName.braced? name, rest)
    | '\\' :: _ | [] => none
    | c :: rest => do pure ((← SetName.single? [c], false), flags.skip rest)
  if flags.unicode then some (set (.complIf (negated != complement) (flags.cased named)), rest)
  else none

/-- The set of a letter such as `d`, and whether the letter asks for the complement. -/
def classLetter? (unicode : Bool) (c : Char) : Option (CodeRanges × Bool) :=
  let digits := if unicode then GeneralCategory.decimalNumber.ranges else [(0x30, 0x39)]
  let blanks := if unicode then whiteSpace else [(0x9, 0xD), (0x20, 0x20)]
  let word :=
    if unicode then CharProperty.word
    else [(0x30, 0x39), (0x41, 0x5A), (0x5F, 0x5F), (0x61, 0x7A)]
  match c with
  | 'd' => some (digits, false)
  | 'D' => some (digits, true)
  | 's' => some (blanks, false)
  | 'S' => some (blanks, true)
  | 'w' => some (word, false)
  | 'W' => some (word, true)
  | _ => none

/-! ## Assertions -/

/-- Whether a character may stand in the name of a boundary. -/
def isBoundaryChar (c : Char) : Bool := c.isAlpha || c == '-'

/-- The boundary of words with a name. -/
def boundaryNamed? (ascii : Bool) (name : List Char) : Option Assertion :=
  match String.ofList name with
  | "start" => some (.wordStart ascii)
  | "end" => some (.wordEnd ascii)
  | "start-half" => some (.noWordBefore ascii)
  | "end-half" => some (.noWordAfter ascii)
  | _ => none

/-- Reads the kind of boundary that is named in braces behind `\b`, and gives the text behind it.
Braces that begin with no letter belong to a repetition. -/
def readBoundary? (flags : PatternFlags) (s : List Char) : Option (Assertion × List Char) :=
  let ascii := !flags.unicode
  match s with
  | '\x7b' :: inside =>
    match flags.skip inside with
    | [] => none
    | c :: rest =>
      if isBoundaryChar c then do
        let (name, rest) := flags.span isBoundaryChar (c :: rest)
        let rest ← closed? rest
        pure (← boundaryNamed? ascii name, rest)
      else some (.wordBoundary ascii, s)
  | s => some (.wordBoundary ascii, s)

/-! ## Reading -/

/-- Whether a character may stand for itself behind a backslash. -/
def standsForItself (c : Char) : Bool :=
  c.toNat < 0x80 && !c.isAlphanum && c != '<' && c != '>'

/-- Reads what follows a backslash. -/
def read? (flags : PatternFlags) : List Char → Option (Escape × List Char)
  | [] => none
  | 'x' :: rest => readCode? flags 2 rest
  | 'u' :: rest => readCode? flags 4 rest
  | 'U' :: rest => readCode? flags 8 rest
  | 'p' :: rest => readSet? flags false rest
  | 'P' :: rest => readSet? flags true rest
  | 'b' :: rest => (readBoundary? flags rest).map fun (a, rest) => (assertion a, rest)
  | c :: rest =>
    let asserted (a : Assertion) := some (assertion a, rest)
    match classLetter? flags.unicode c, c with
    | some (letters, negated), _ =>
      if negated && !flags.unicode then none
      else some (set (.complIf negated letters), rest)
    | none, 'a' => some (char '\x07', rest)
    | none, 'f' => some (char '\x0c', rest)
    | none, 't' => some (char '\t', rest)
    | none, 'n' => some (char '\n', rest)
    | none, 'r' => some (char '\r', rest)
    | none, 'v' => some (char '\x0b', rest)
    | none, 'A' => asserted .textStart
    | none, 'z' => asserted .textEnd
    | none, 'B' => asserted (.noWordBoundary (!flags.unicode))
    | none, '<' => asserted (.wordStart (!flags.unicode))
    | none, '>' => asserted (.wordEnd (!flags.unicode))
    | none, c => if standsForItself c then some (char c, rest) else none

end Escape

end UiStream
