import UiStream.Text.Digit
import UiStream.Text.Split

/-!
# Addresses of hosts

The numbers of an IPv4 address are decimal, octal or hexadecimal, and the last of them fills the
bytes that the others leave.  An IPv6 address has eight parts of 16 bits; one gap may stand for
one or more parts that are zero, and an IPv4 address in its strict form for the last two.
-/

namespace UiStream.Url

/-! ## Four bytes -/

/-- The number that a part of an IPv4 address writes.  `0x` introduces hexadecimal digits and `0`
octal ones, and no digits behind them are zero. -/
def partNumber? : List Char → Option Nat
  | [] => none
  | '0' :: 'x' :: digits | '0' :: 'X' :: digits => numberOf? 16 digits
  | '0' :: c :: digits => numberOf? 8 (c :: digits)
  | digits => numberOf? 10 digits

/-- Whether the last label of a name is a number, so that the name has to be an address.  An empty
label at the very end does not count. -/
def endsInNumber (labels : List (List Char)) : Bool :=
  let last? := match labels.reverse with
    | [] :: last :: _ => some last
    | [] :: [] => none
    | last :: _ => some last
    | [] => none
  match last? with
  | some last => (!last.isEmpty && last.all Char.isDigit) || (partNumber? last).isSome
  | none => false

/-- Whether labels are the parts of an IPv4 address. -/
def isIpv4 (labels : List (List Char)) : Bool :=
  let parts := if labels.getLast? = some [] then labels.dropLast else labels
  match parts.mapM partNumber? with
  | none => false
  | some numbers =>
    numbers.length ≤ 4 && numbers.dropLast.all (· ≤ 255) &&
      match numbers.getLast? with
      | some last => last < Nat.pow 256 (5 - numbers.length)
      | none => false

/-- Whether a text is an IPv4 address in its strict form: four decimal numbers without leading
zeros. -/
def isStrictIpv4 (text : List Char) : Bool :=
  let parts := splitOn '.' text
  parts.length == 4 && parts.all fun part =>
    (part.head? != some '0' || part.length == 1) && !part.isEmpty &&
      (match numberOf? 10 part with
      | some n => n ≤ 255
      | none => false)

/-! ## Eight parts of 16 bits -/

/-- Whether a text is a part of an IPv6 address. -/
def isIpv6Part (part : List Char) : Bool :=
  !part.isEmpty && part.length ≤ 4 && (numberOf? 16 part).isSome

/-- How many parts the last text of an address stands for. -/
def lastWidth? (part : List Char) : Option Nat :=
  if isIpv6Part part then some 1 else if isStrictIpv4 part then some 2 else none

/-- How many parts texts stand for, of which the last may be an IPv4 address. -/
def width? : List (List Char) → Option Nat
  | [] => some 0
  | [last] => lastWidth? last
  | part :: rest => if isIpv6Part part then (width? rest).map (· + 1) else none

/-- The texts between the colons beside a gap. -/
def besideGap (text : List Char) : List (List Char) :=
  if text.isEmpty then [] else splitOn ':' text

/-- Whether a text is an IPv6 address. -/
def isIpv6 (text : List Char) : Bool :=
  match splitFirst? [':', ':'] text with
  | none => width? (splitOn ':' text) == some 8
  | some (front, back) =>
    (besideGap front).all isIpv6Part &&
      match width? (besideGap back) with
      | some width => (besideGap front).length + width ≤ 7
      | none => false

end UiStream.Url
