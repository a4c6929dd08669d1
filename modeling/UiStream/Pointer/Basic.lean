import UiStream.Text.Split

/-!
# Pointers

A pointer is a text that addresses a place in a document: tokens, each behind a slash, in which
`~1` stands for a slash and `~0` for a tilde.  The empty text and a single slash both address
the whole document, and the leading slash may be left out.

`Pointer.tokens` reads a pointer, `Pointer.ofTokens` writes one and `Pointer.join` puts a
relative pointer behind another.
-/

namespace UiStream.Pointer

/-- Every occurrence of two characters in a row replaced by one, from the left. -/
def replacePair (first second replacement : Char) : List Char → List Char
  | [] => []
  | [c] => [c]
  | c :: d :: rest =>
    if c = first ∧ d = second then replacement :: replacePair first second replacement rest
    else c :: replacePair first second replacement (d :: rest)

/-- The token a component of a pointer stands for.  `~1` is replaced before `~0`, so that `~01`
is `~1` and not a slash. -/
def unescape (component : List Char) : List Char :=
  replacePair '~' '0' '~' (replacePair '~' '1' '/' component)

/-- A character of a token as a pointer holds it. -/
def escapeChar (c : Char) : List Char :=
  if c = '~' then ['~', '0'] else if c = '/' then ['~', '1'] else [c]

/-- The component of a pointer that stands for a token. -/
def escape (token : List Char) : List Char := token.flatMap escapeChar

/-- The components of a pointer between its slashes. -/
def components (body : List Char) : List String :=
  (splitOn '/' body).map fun component => String.ofList (unescape component)

/-- The tokens of a pointer. -/
def tokens (pointer : String) : List String :=
  match pointer.toList with
  | [] => []
  | ['/'] => []
  | '/' :: body => components body
  | body => components body

/-- The pointer of a list of tokens. -/
def ofTokens (tokens : List String) : String :=
  String.ofList (tokens.flatMap fun token => '/' :: escape token.toList)

/-- A text without one leading slash. -/
def dropSlash (s : List Char) : List Char :=
  match s with
  | '/' :: rest => rest
  | s => s

/-- The pointer that leads from the place of `base` along `relative`. -/
def join (base relative : String) : String :=
  if relative = "" then base
  else String.ofList (base.toList ++ '/' :: dropSlash relative.toList)

/-! ## Tokens as indices -/

/-- A decimal number, with or without leading zeros. -/
def isNumeric (token : String) : Bool := token != "" && token.toList.all Char.isDigit

/-- The value of decimal digits. -/
def digitsValue (digits : List Char) : Nat :=
  digits.foldl (fun n c => n * 10 + (c.toNat - '0'.toNat)) 0

/-- One past the largest index. -/
def indexLimit : Nat := 0x10000000000000000

/-- The index a token is, if it is a decimal number of at most 64 bits. -/
def index? (token : String) : Option Nat :=
  if isNumeric token && digitsValue token.toList < indexLimit then some (digitsValue token.toList)
  else none

/-- The token for the place behind the last item of an array. -/
def append : String := "-"

/-- Whether a token asks for an array rather than an object, where neither exists yet. -/
def isArrayToken (token : String) : Bool := token == append || isNumeric token

end UiStream.Pointer
