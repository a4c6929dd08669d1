import UiStream.Action.Binding
import UiStream.Json.Display

/-!
# Checks of a field

An element that takes input has a list of checks, each with a message for the case that it fails.
A check has a type and arguments, and the arguments may be expressions.  The checks of a field
may depend on a condition, and may say when they are made.
-/

namespace UiStream

/-- A check of the value of a field. -/
structure FieldCheck where
  type : String
  args : Members := []
  message : String
deriving DecidableEq, Repr

/-- When the value of a field is checked. -/
inductive CheckMoment where
  | change
  | blur
  | submit
deriving DecidableEq, Repr

/-- The checks of a field. -/
structure FieldChecks where
  checks : List FieldCheck := []
  validateOn? : Option CheckMoment := none
  enabled? : Option Condition := none
deriving Repr

/-! ## In JSON -/

namespace CheckMoment

/-- The moments by name. -/
def names : List (String × CheckMoment) :=
  [("change", .change), ("blur", .blur), ("submit", .submit)]

/-- A moment as JSON. -/
def encode : CheckMoment → Json
  | change => .string "change"
  | blur => .string "blur"
  | submit => .string "submit"

end CheckMoment

namespace FieldCheck

/-- Reads a check. -/
def decode : Reader FieldCheck := fun v => do
  let record ← Record.ofJson "ValidationCheck" ["type", "args", "message"] v
  let type := record.required "type" Reader.text
  let args := record.defaulted "args" Reader.map []
  let message := record.required "message" Reader.text
  record.settle [("type", faultOf type), ("args", faultOf args), ("message", faultOf message)]
  return { type := ← type, args := ← args, message := ← message }

/-- A check as JSON.  Arguments are written if there are any. -/
def encode (check : FieldCheck) : Json :=
  .object <|
    [("type", .string check.type)] ++
    (if check.args.isEmpty then [] else [("args", .object check.args)]) ++
    [("message", .string check.message)]

end FieldCheck

namespace FieldChecks

/-- Reads the checks of a field. -/
def decode : Reader FieldChecks := fun v => do
  let record ← Record.ofJson "ValidationConfig" ["checks", "validateOn", "enabled"] v
  let checks := record.defaulted "checks" (Reader.listOf FieldCheck.decode) []
  let validateOn? := record.optional "validateOn" (Reader.variant CheckMoment.names)
  let enabled? := record.optional "enabled" Reader.condition
  record.settle [("checks", faultOf checks), ("validateOn", faultOf validateOn?),
    ("enabled", faultOf enabled?)]
  return { checks := ← checks, validateOn? := ← validateOn?, enabled? := ← enabled? }

/-- The checks of a field as JSON. -/
def encode (field : FieldChecks) : Json :=
  .object <|
    [("checks", .array (field.checks.map FieldCheck.encode))] ++
    optionalMember "validateOn" (field.validateOn?.map CheckMoment.encode) ++
    optionalMember "enabled" (field.enabled?.map Condition.encode)

end FieldChecks

/-! ## Checks with their usual messages -/

namespace FieldCheck

/-- A check without arguments. -/
def plain (type message : String) : FieldCheck := { type, message }

/-- There is a value. -/
def required : FieldCheck := plain "required" "This field is required"

/-- The value is an e-mail address. -/
def email : FieldCheck := plain "email" "Invalid email address"

/-- The value has at least so many units of text. -/
def minLength (least : Nat) : FieldCheck where
  type := "minLength"
  args := [("min", .ofNat least)]
  message := "Must be at least " ++ toString least ++ " characters"

/-- The value has at most so many units of text. -/
def maxLength (most : Nat) : FieldCheck where
  type := "maxLength"
  args := [("max", .ofNat most)]
  message := "Must be at most " ++ toString most ++ " characters"

/-- Some part of the value is described by a pattern. -/
def pattern (pattern : String) : FieldCheck where
  type := "pattern"
  args := [("pattern", .string pattern)]
  message := "Invalid format"

/-- The value is at least a number. -/
def min (least : Double) : FieldCheck where
  type := "min"
  args := [("min", .number (.double least))]
  message := "Must be at least " ++ least.displayText

/-- The value is at most a number. -/
def max (most : Double) : FieldCheck where
  type := "max"
  args := [("max", .number (.double most))]
  message := "Must be at most " ++ most.displayText

/-- The value is a number or begins with one. -/
def numeric : FieldCheck := plain "numeric" "Must be a number"

/-- The value is a URL. -/
def url : FieldCheck := plain "url" "Invalid URL"

/-- The value equals that at a place of the state. -/
def matching (pointer : String) : FieldCheck where
  type := "matches"
  args := [("other", .object [("$state", .string pointer)])]
  message := "Fields must match"

end FieldCheck

end UiStream
