import UiStream.Json.Equal
import UiStream.Regex.Limits
import UiStream.Text.Units
import UiStream.Url.Basic

/-!
# The rules of checks

The rules that every field can be checked by.  `CheckRule.accepts` says whether a rule accepts a
value, which may be absent, with given arguments.  A rule about texts accepts nothing else, and a
rule that lacks its argument accepts nothing.
-/

namespace UiStream

/-- A rule by which the value of a field is checked. -/
inductive CheckRule where
  | required
  | email
  | minLength
  | maxLength
  | pattern
  | min
  | max
  | numeric
  | url
  | matching
deriving DecidableEq, Repr

/-- Whether a text is an e-mail address: a user and a host without blanks, with a dot inside the
host. -/
def isEmail (text : List Char) : Bool :=
  match splitOn '@' text with
  | [user, host] =>
    !text.any isBlank && !user.isEmpty && (host.drop 1).dropLast.contains '.'
  | _ => false

/-- Whether a character is a decimal digit of any script. -/
def isDecimalDigit (c : Char) : Bool := GeneralCategory.decimalNumber.ranges.has c.toNat

/-- A text without a sign at its start. -/
def unsigned : List Char → List Char
  | '+' :: rest | '-' :: rest => rest
  | text => text

/-- Whether a text begins with a number, behind blanks. -/
def beginsWithNumber (text : List Char) : Bool :=
  match unsigned (trimStart text) with
  | [] => false
  | '.' :: rest => rest.head?.any isDecimalDigit
  | c :: rest => isDecimalDigit c || "Infinity".toList.isPrefixOf (c :: rest)

namespace CheckRule

/-- The rules by name. -/
def names : List (String × CheckRule) :=
  [("required", required), ("email", email), ("minLength", minLength), ("maxLength", maxLength),
   ("pattern", pattern), ("min", min), ("max", max), ("numeric", numeric), ("url", url),
   ("matches", matching)]

/-- The rule with a name. -/
def ofName? (name : String) : Option CheckRule := names.lookup name

/-- Whether a value is there and is not blank. -/
def isPresent : Option Json → Bool
  | none | some .null => false
  | some (.string s) => !(trim s.toList).isEmpty
  | some (.array items) => !items.isEmpty
  | some _ => true

/-- Whether a text passes a test. -/
def textPasses (test : List Char → Bool) : Option Json → Bool
  | some (.string s) => test s.toList
  | _ => false

/-- The argument with a name, if it is a number. -/
def limit? (name : String) (args : Members) : Option Double :=
  ((Members.find? name args).bind Json.number?).map Number.toDouble

/-- The length of a text as a number. -/
def lengthOf (text : List Char) : Double := .ofInt (unitCount text)

/-- Whether a number and the argument with a name pass a test. -/
def numberPasses (test : Double → Double → Bool) (name : String) (args : Members) :
    Option Json → Bool
  | some (.number n) => (limit? name args).any (test n.toDouble)
  | _ => false

/-- Whether a text has a part that a pattern describes. -/
def isDescribed (pattern : String) (text : List Char) : Bool :=
  (Regex.ofPattern? pattern).any (·.search text)

/-- Whether a rule accepts a value. -/
def accepts (rule : CheckRule) (value? : Option Json) (args : Members) : Bool :=
  match rule with
  | required => isPresent value?
  | email => textPasses isEmail value?
  | minLength => textPasses (fun s => (limit? "min" args).any (·.numLe (lengthOf s))) value?
  | maxLength => textPasses (fun s => (limit? "max" args).any (lengthOf s).numLe) value?
  | pattern => textPasses (fun s => (Members.text? "pattern" args).any (isDescribed · s)) value?
  | min => numberPasses (fun n least => least.numLe n) "min" args value?
  | max => numberPasses (fun n most => n.numLe most) "max" args value?
  | numeric =>
    match value? with
    | some (.number _) => true
    | value? => textPasses beginsWithNumber value?
  | url => textPasses Url.isUrl value?
  | matching => Json.equal? value? (Members.find? "other" args)

end CheckRule

end UiStream
