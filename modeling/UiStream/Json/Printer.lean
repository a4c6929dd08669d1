import UiStream.Json.Basic
import UiStream.Number.Decimal

/-!
# JSON text of values

`Json.compact` writes a value without spaces, `Json.pretty` with an indentation of two spaces.
In strings the quote, the backslash and the characters below U+0020 are escaped, and nothing
else.  An integer is written in full; a double always shows a point or an exponent, so that it
reads back as a double.
-/

namespace UiStream

/-- The JSON text of a double.  With the exponent of the first digit in `-5 ≤ e < 16` the digits
stand in their places, a whole number with `.0`; otherwise the exponent is written. -/
def Double.jsonText (x : Double) : String :=
  let d := x.shortest
  let body :=
    if -5 ≤ d.exponent && d.exponent < 16 then
      let text := d.positional
      if text.contains '.' then text else text ++ ['.', '0']
    else d.scientific
  String.ofList (x.sign ++ body)

/-- The JSON text of a number. -/
def Number.jsonText : Number → String
  | .integer n _ => toString n
  | .double x => x.jsonText

namespace Json

/-- A hexadecimal digit in lower case. -/
def hexDigit (n : Nat) : Char := (Nat.digitChar (n % 16))

/-- A character inside a JSON string. -/
def escapeChar (c : Char) : List Char :=
  if c = '"' then ['\\', '"']
  else if c = '\\' then ['\\', '\\']
  else if c = '\x08' then ['\\', 'b']
  else if c = '\x0c' then ['\\', 'f']
  else if c = '\n' then ['\\', 'n']
  else if c = '\r' then ['\\', 'r']
  else if c = '\t' then ['\\', 't']
  else if c.toNat < 0x20 then
    ['\\', 'u', '0', '0', hexDigit (c.toNat / 16), hexDigit c.toNat]
  else [c]

/-- A string between quotes, escaped. -/
def stringText (s : String) : String :=
  String.ofList ('"' :: s.toList.flatMap escapeChar ++ ['"'])

mutual

/-- The JSON text of a value without any spaces. -/
def compact : Json → String
  | .null => "null"
  | .bool b => if b then "true" else "false"
  | .number n => n.jsonText
  | .string s => stringText s
  | .array items => "[" ++ ",".intercalate (compactItems items) ++ "]"
  | .object members => "\x7b" ++ ",".intercalate (compactMembers members) ++ "\x7d"

/-- The texts of the items of an array. -/
def compactItems : List Json → List String
  | [] => []
  | v :: rest => compact v :: compactItems rest

/-- The texts of the members of an object. -/
def compactMembers : List (String × Json) → List String
  | [] => []
  | (k, v) :: rest => (stringText k ++ ":" ++ compact v) :: compactMembers rest
end

/-- A line break and the indentation of a nesting level. -/
def lineBreak (level : Nat) : String := "\n" ++ String.ofList (List.replicate (2 * level) ' ')

mutual

/-- The JSON text of a value at a nesting level, one item or member a line. -/
def prettyAt (level : Nat) : Json → String
  | .array [] => "[]"
  | .object [] => "\x7b\x7d"
  | .array items =>
    "[" ++ ",".intercalate (prettyItems (level + 1) items) ++ lineBreak level ++ "]"
  | .object members =>
    "\x7b" ++ ",".intercalate (prettyMembers (level + 1) members) ++ lineBreak level ++ "\x7d"
  | .null => "null"
  | .bool b => if b then "true" else "false"
  | .number n => n.jsonText
  | .string s => stringText s

/-- The items of an array, each on a line of its own. -/
def prettyItems (level : Nat) : List Json → List String
  | [] => []
  | v :: rest => (lineBreak level ++ prettyAt level v) :: prettyItems level rest

/-- The members of an object, each on a line of its own. -/
def prettyMembers (level : Nat) : List (String × Json) → List String
  | [] => []
  | (k, v) :: rest =>
    (lineBreak level ++ stringText k ++ ": " ++ prettyAt level v) :: prettyMembers level rest
end

/-- The JSON text of a value with an indentation of two spaces. -/
def pretty (value : Json) : String := prettyAt 0 value

end Json

end UiStream
