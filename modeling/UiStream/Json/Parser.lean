import UiStream.Json.Basic
import UiStream.Number.Reading
import UiStream.Text.Digit

/-!
# Reading JSON text

`Json.parse` reads one JSON value from a text, strictly: at most `nestingLimit` containers inside
one another, no number beyond the range of a double, and no half of a surrogate pair or raw
control character in a string.

A fault inside the parser is a cause together with the number of bytes that the text still has
behind the place of the fault; `Json.parse` turns it into a line and a column.  `value` recurses
on the nesting that is still allowed, and the loops over items and members on the length of the
text, of which each round takes at least one character.
-/

namespace UiStream

/-- Why a text is not JSON. -/
inductive JsonFault where
  | endInArray
  | endInObject
  | endInString
  | endInValue
  | expectedColon
  | expectedItemEnd
  | expectedMemberEnd
  | expectedLiteral
  | expectedValue
  | invalidEscape
  | invalidNumber
  | numberOutOfRange
  | controlCharacter
  | keyNotString
  | loneSurrogate
  | unfinishedSurrogate
  | trailingComma
  | trailingCharacters
  | nestingTooDeep
deriving DecidableEq, Repr

/-- The wording of a fault. -/
def JsonFault.message : JsonFault → String
  | endInArray => "EOF while parsing a list"
  | endInObject => "EOF while parsing an object"
  | endInString => "EOF while parsing a string"
  | endInValue => "EOF while parsing a value"
  | expectedColon => "expected `:`"
  | expectedItemEnd => "expected `,` or `]`"
  | expectedMemberEnd => "expected `,` or `\x7d`"
  | expectedLiteral => "expected ident"
  | expectedValue => "expected value"
  | invalidEscape => "invalid escape"
  | invalidNumber => "invalid number"
  | numberOutOfRange => "number out of range"
  | controlCharacter => "control character (\\u0000-\\u001F) found while parsing a string"
  | keyNotString => "key must be a string"
  | loneSurrogate => "lone leading surrogate in hex escape"
  | unfinishedSurrogate => "unexpected end of hex escape"
  | trailingComma => "trailing comma"
  | trailingCharacters => "trailing characters"
  | nestingTooDeep => "recursion limit exceeded"

/-- Why and where a text is not JSON.  Lines count from one; the column is the number of bytes
of the line up to and including the place. -/
structure JsonError where
  fault : JsonFault
  line : Nat
  column : Nat
deriving DecidableEq, Repr

/-- The wording of an error, with its place. -/
def JsonError.message (e : JsonError) : String :=
  e.fault.message ++ " at line " ++ toString e.line ++ " column " ++ toString e.column

namespace Json.Parser

/-- A fault and the number of bytes behind its place. -/
structure Fault where
  fault : JsonFault
  remaining : Nat

/-- A part that was read and the rest of the text. -/
abbrev Read (α : Type) := α × List Char

/-- The number of bytes of a text. -/
def byteCount (s : List Char) : Nat := s.foldl (fun n c => n + c.utf8Size) 0

/-- A fault in front of the given rest of the text. -/
def failBefore {α : Type} (fault : JsonFault) (s : List Char) : Except Fault α :=
  .error ⟨fault, byteCount s⟩

/-- A fault one byte into the given rest of the text, or at its end when it is empty. -/
def failInto {α : Type} (fault : JsonFault) (s : List Char) : Except Fault α :=
  .error ⟨fault, byteCount s - 1⟩

/-! ## Leaves -/

/-- Blanks between the parts of a JSON text. -/
def isBlank (c : Char) : Bool := c == ' ' || c == '\n' || c == '\t' || c == '\r'

/-- The text behind its leading blanks. -/
def skipBlanks (s : List Char) : List Char := s.dropWhile isBlank

/-- The rest of a literal whose first letter is read. -/
def literal (value : Json) : List Char → List Char → Except Fault (Read Json)
  | [], s => .ok (value, s)
  | _ :: _, [] => failBefore .endInValue []
  | e :: expected, c :: s =>
    if c = e then literal value expected s else failInto .expectedLiteral (c :: s)

/-- The four digits of an escape. -/
def fourHex (s : List Char) : Except Fault (Read Nat) :=
  match numberOf? 16 (s.take 4) with
  | some n => if s.length < 4 then failBefore .endInString [] else .ok (n, s.drop 4)
  | none =>
    if byteCount s < 4 then failBefore .endInString []
    else .error ⟨.invalidEscape, byteCount s - 4⟩

/-- Whether a code unit is the first half of a surrogate pair. -/
def isHighSurrogate (n : Nat) : Bool := 0xD800 ≤ n && n ≤ 0xDBFF

/-- Whether a code unit is the second half of a surrogate pair. -/
def isLowSurrogate (n : Nat) : Bool := 0xDC00 ≤ n && n ≤ 0xDFFF

/-- The character of an escape by code units, behind its `u`. -/
def unicodeEscape (s : List Char) : Except Fault (Read Char) := do
  let (high, s) ← fourHex s
  if isLowSurrogate high then failBefore .loneSurrogate s
  else if !isHighSurrogate high then return (Char.ofNat high, s)
  else
    match s with
    | [] => failBefore .endInString []
    | '\\' :: [] => failBefore .endInString []
    | '\\' :: 'u' :: s =>
      let (low, s) ← fourHex s
      if isLowSurrogate low then
        return (Char.ofNat ((high - 0xD800) * 0x400 + (low - 0xDC00) + 0x10000), s)
      else failBefore .loneSurrogate s
    | '\\' :: s => failInto .unfinishedSurrogate s
    | s => failInto .unfinishedSurrogate s

/-- The character of an escape, behind its backslash. -/
def escape : List Char → Except Fault (Read Char)
  | [] => failBefore .endInString []
  | '"' :: s => .ok ('"', s)
  | '\\' :: s => .ok ('\\', s)
  | '/' :: s => .ok ('/', s)
  | 'b' :: s => .ok ('\x08', s)
  | 'f' :: s => .ok ('\x0c', s)
  | 'n' :: s => .ok ('\n', s)
  | 'r' :: s => .ok ('\r', s)
  | 't' :: s => .ok ('\t', s)
  | 'u' :: s => unicodeEscape s
  | s => failInto .invalidEscape s

/-- The characters of a string behind its opening quote, in reverse onto `read`.  Each round
takes a character or more, so the length of the text is fuel enough. -/
def stringFrom : Nat → List Char → List Char → Except Fault (Read String)
  | 0, _, _ => failBefore .endInString []
  | _ + 1, _, [] => failBefore .endInString []
  | fuel + 1, read, c :: s =>
    if c = '"' then .ok (String.ofList read.reverse, s)
    else if c = '\\' then do
      let (e, s) ← escape s
      stringFrom fuel (e :: read) s
    else if c.toNat < 0x20 then failInto .controlCharacter (c :: s)
    else stringFrom fuel (c :: read) s

/-- A string behind its opening quote. -/
def stringBody (s : List Char) : Except Fault (Read String) := stringFrom (s.length + 1) [] s

/-! ## Numbers -/

/-- The largest exponent that is kept. -/
def exponentLimit : Nat := 0x7FFFFFFF

/-- The digits of an exponent: their value, or nothing when it passes the limit, in which case
the rest begins behind the digit that passed it. -/
def exponentDigits (n : Nat) : List Char → Option Nat × List Char
  | [] => (some n, [])
  | c :: s =>
    if c.isDigit then
      let next := n * 10 + (c.toNat - '0'.toNat)
      if exponentLimit < next then (none, s) else exponentDigits next s
    else (some n, c :: s)

/-- A number with a point or an exponent, or one too long for an integer. -/
def fractional (negative : Bool) (whole fraction : List Char) (exponent : Int)
    (s : List Char) : Except Fault (Read Json) :=
  match Double.ofDecimal? negative whole fraction exponent with
  | some x => .ok (.number (.double x), s)
  | none => failBefore .numberOutOfRange s

/-- The exponent of a number behind its `e`. -/
def exponentPart (negative : Bool) (whole fraction s : List Char) : Except Fault (Read Json) :=
  let (down, s) :=
    match s with
    | '+' :: s => (false, s)
    | '-' :: s => (true, s)
    | s => (false, s)
  match s with
  | [] => failBefore .endInValue []
  | c :: _ =>
    if !c.isDigit then failInto .invalidNumber s
    else
      match exponentDigits 0 s with
      | (some n, s) => fractional negative whole fraction (if down then -(n : Int) else n) s
      | (none, s) =>
        if down || (whole ++ fraction).all (· == '0') then
          .ok (.number (.double (.zero negative)), s.dropWhile Char.isDigit)
        else failBefore .numberOutOfRange s

/-- A number without point and exponent: an integer when it fits 64 bits and is not the negative
zero. -/
def whole (negative : Bool) (digits s : List Char) : Except Fault (Read Json) :=
  let (n, _, skipped) := absorbDigits 0 0 digits
  let value : Int := if negative then -(n : Int) else n
  if h : Integral value then
    if skipped.isEmpty && !(negative && n == 0) then .ok (.number (.integer value h), s)
    else fractional negative digits [] 0 s
  else fractional negative digits [] 0 s

/-- A number behind its minus sign, if any. -/
def number (negative : Bool) (s : List Char) : Except Fault (Read Json) :=
  match s with
  | [] => failBefore .endInValue []
  | c :: behind =>
    if !c.isDigit then failInto .invalidNumber s
    else
      let digits := if c = '0' then ['0'] else s.takeWhile Char.isDigit
      let s := if c = '0' then behind else s.dropWhile Char.isDigit
      match s with
      | '.' :: s =>
        let fraction := s.takeWhile Char.isDigit
        let s' := s.dropWhile Char.isDigit
        if fraction.isEmpty then
          failInto (if s.isEmpty then .endInValue else .invalidNumber) s
        else
          match s' with
          | 'e' :: s' => exponentPart negative digits fraction s'
          | 'E' :: s' => exponentPart negative digits fraction s'
          | s' => fractional negative digits fraction 0 s'
      | 'e' :: s => exponentPart negative digits [] s
      | 'E' :: s => exponentPart negative digits [] s
      | d :: _ =>
        if c = '0' && d.isDigit then failInto .invalidNumber s
        else whole negative digits s
      | [] => whole negative digits []

/-! ## Containers -/

/-- The items of an array behind its opening bracket or behind an item. -/
def items (item : List Char → Except Fault (Read Json)) :
    Nat → List Json → List Char → Except Fault (Read Json)
  | 0, _, _ => failBefore .endInArray []
  | fuel + 1, read, s =>
    match skipBlanks s with
    | [] => failBefore .endInArray []
    | ']' :: s => .ok (.array read.reverse, s)
    | ',' :: s =>
      if read.isEmpty then do
        let (v, s) ← item (',' :: s)
        items item fuel (v :: read) s
      else
        match skipBlanks s with
        | [] => failBefore .endInValue []
        | ']' :: s => failInto .trailingComma (']' :: s)
        | s => do
          let (v, s) ← item s
          items item fuel (v :: read) s
    | s =>
      if read.isEmpty then do
        let (v, s) ← item s
        items item fuel (v :: read) s
      else failInto .expectedItemEnd s

/-- The colon between a key and its value. -/
def colon (s : List Char) : Except Fault (List Char) :=
  match skipBlanks s with
  | ':' :: s => .ok s
  | [] => failBefore .endInObject []
  | s => failInto .expectedColon s

/-- A member behind the opening quote of its key. -/
def member (item : List Char → Except Fault (Read Json)) (s : List Char) :
    Except Fault (Read (String × Json)) := do
  let (key, s) ← stringBody s
  let s ← colon s
  let (v, s) ← item s
  return ((key, v), s)

/-- The members of an object behind its opening brace or behind a member. -/
def members (item : List Char → Except Fault (Read Json)) :
    Nat → List (String × Json) → List Char → Except Fault (Read Json)
  | 0, _, _ => failBefore .endInObject []
  | fuel + 1, read, s =>
    match skipBlanks s with
    | [] => failBefore .endInObject []
    | c :: s =>
      if c = '}' then .ok (.object (Members.ofPairs read.reverse), s)
      else if read.isEmpty then
        if c = '"' then do
          let (m, s) ← member item s
          members item fuel (m :: read) s
        else failInto .keyNotString (c :: s)
      else if c = ',' then
        match skipBlanks s with
        | [] => failBefore .endInValue []
        | d :: s =>
          if d = '"' then do
            let (m, s) ← member item s
            members item fuel (m :: read) s
          else failInto (if d = '}' then .trailingComma else .keyNotString) (d :: s)
      else failInto .expectedMemberEnd (c :: s)

/-- A value, with the number of containers that may still be opened. -/
def value (nesting : Nat) (s : List Char) : Except Fault (Read Json) :=
  match skipBlanks s with
  | [] => failBefore .endInValue []
  | c :: s =>
    if c = 'n' then literal .null ['u', 'l', 'l'] s
    else if c = 't' then literal (.bool true) ['r', 'u', 'e'] s
    else if c = 'f' then literal (.bool false) ['a', 'l', 's', 'e'] s
    else if c = '-' then number true s
    else if c.isDigit then number false (c :: s)
    else if c = '"' then do
      let (text, s) ← stringBody s
      return (.string text, s)
    else if c = '[' || c = '{' then
      match nesting with
      | 0 => failInto .nestingTooDeep (c :: s)
      | nesting + 1 =>
        if c = '[' then items (value nesting) (s.length + 1) [] s
        else members (value nesting) (s.length + 1) [] s
    else failInto .expectedValue (c :: s)

end Json.Parser

/-- The most containers that may stand inside one another in a JSON text. -/
def nestingLimit : Nat := 127

/-- The line and column of the place with the given number of bytes behind it. -/
def Json.placeOf (text : String) (remaining : Nat) : Nat × Nat :=
  let bytes := text.toUTF8.toList
  let before := bytes.take (bytes.length - remaining)
  (1 + before.count 10, (before.reverse.takeWhile (· != 10)).length)

/-- Reads a text that holds one JSON value and nothing else. -/
def Json.parse (text : String) : Except JsonError Json :=
  let outcome := do
    let (v, s) ← Json.Parser.value nestingLimit text.toList
    match Json.Parser.skipBlanks s with
    | [] => return v
    | s => Json.Parser.failInto .trailingCharacters s
  match outcome with
  | .ok v => .ok v
  | .error e =>
    let (line, column) := Json.placeOf text e.remaining
    .error ⟨e.fault, line, column⟩

/-- The value of a text that is JSON. -/
def Json.parse? (text : String) : Option Json := (Json.parse text).toOption

end UiStream
