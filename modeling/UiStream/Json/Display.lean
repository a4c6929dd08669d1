import UiStream.Json.Basic
import UiStream.Number.Decimal

/-!
# Values in text and in conditions

`Json.displayText` is the text a value has inside interpolated text, and `Json.truthy` says
whether a value counts as true.
-/

namespace UiStream

/-- The text of a double for display.  A whole number below `10 ^ 21` is written out exactly and
without a point; any other number in places, with the fewest digits that read back. -/
def Double.displayText (x : Double) : String :=
  if x.isWhole && x.wholePart < Nat.pow 10 21 then
    String.ofList (x.sign ++ Nat.toDigits 10 x.wholePart)
  else String.ofList (x.sign ++ x.shortest.positional)

/-- The text of a number for display. -/
def Number.displayText : Number → String
  | .integer n _ => toString n
  | .double x => x.displayText

namespace Json

/-- False are `null`, `false`, zero and the empty string. -/
def truthy : Json → Bool
  | .null => false
  | .bool b => b
  | .number n => n.toDouble.isNonzero
  | .string s => s != ""
  | .array _ => true
  | .object _ => true

/-- Whether a value that may be absent counts as true; an absent one does not. -/
def truthy? : Option Json → Bool
  | none => false
  | some v => v.truthy

mutual

/-- The text of a value inside interpolated text: nothing for `null`, strings as they are, the
items of an array joined by commas, and a fixed text for any object. -/
def displayText : Json → String
  | .null => ""
  | .bool b => if b then "true" else "false"
  | .number n => n.displayText
  | .string s => s
  | .array items => ",".intercalate (displayItems items)
  | .object _ => "[object Object]"

/-- The texts of the items of an array. -/
def displayItems : List Json → List String
  | [] => []
  | v :: rest => displayText v :: displayItems rest
end

/-- The text of a value that may be absent; an absent value has none. -/
def displayText? : Option Json → String
  | none => ""
  | some v => v.displayText

end Json

end UiStream
