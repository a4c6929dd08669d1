import UiStream.Expression.Condition
import UiStream.Text.Quoted

/-!
# Why a document does not decode

A typed reader takes a value of the shape it wants and names the value it found instead.  The
faults here are those of every reader of the library; the wording is one function.
-/

namespace UiStream

/-- The shape a reader wants. -/
inductive Wanted where
  | string
  | map
  | sequence
  | unit
  | variant
  | record (name : String)
deriving DecidableEq, Repr

/-- The name of a shape. -/
def Wanted.phrase : Wanted → String
  | string => "a string"
  | map => "a map"
  | sequence => "a sequence"
  | unit => "unit"
  | variant => "string or map"
  | record name => "struct " ++ name

/-- The name of what a value is. -/
def Json.phrase : Json → String
  | .null => "null"
  | .bool b => "boolean `" ++ (if b then "true" else "false") ++ "`"
  | .number (.integer n _) => "integer `" ++ toString n ++ "`"
  | .number x => "floating point `" ++ x.jsonText ++ "`"
  | .string s => "string " ++ quoted s
  | .array _ => "sequence"
  | .object _ => "map"

/-- Why a value does not decode. -/
inductive DecodeFault where
  | wrongType (found : Json) (wanted : Wanted)
  | missingField (field : String)
  | missingItem (index : Nat) (record : String) (fields : Nat)
  | tooManyItems (length : Nat)
  | unknownVariant (name : String) (known : List String)
  | notSingleKey
  | noAlternative (union : String)
  | condition (fault : ConditionFault)
deriving DecidableEq, Repr

/-- The known names of a variant, as a fault lists them. -/
def variantPhrase (known : List String) : String :=
  let names := known.map fun name => "`" ++ name ++ "`"
  match names with
  | [a, b] => a ++ " or " ++ b
  | names => "one of " ++ ", ".intercalate names

/-- The wording of the fault. -/
def DecodeFault.message : DecodeFault → String
  | wrongType found wanted =>
    "invalid type: " ++ found.phrase ++ ", expected " ++ wanted.phrase
  | missingField field => "missing field `" ++ field ++ "`"
  | missingItem index record fields =>
    "invalid length " ++ toString index ++ ", expected struct " ++ record ++ " with " ++
      toString fields ++ " elements"
  | tooManyItems length =>
    "invalid length " ++ toString length ++ ", expected fewer elements in array"
  | unknownVariant name known =>
    "unknown variant `" ++ name ++ "`, expected " ++ variantPhrase known
  | notSingleKey => "invalid value: map, expected map with a single key"
  | noAlternative union => "data did not match any variant of untagged enum " ++ union
  | condition fault => fault.message

/-- The fault of an outcome, if it is one. -/
def faultOf {ε α : Type} : Except ε α → Option ε
  | .error fault => some fault
  | .ok _ => none

end UiStream
