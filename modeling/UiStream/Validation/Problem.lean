import UiStream.Record.Fault

/-!
# Problems of a specification

A `Problem` says what is wrong with a specification, and the wording, the code and the severity
follow from it.  A problem is an error unless the interface could be drawn regardless.
-/

namespace UiStream

/-- The fields of an element that are easily written among its properties by mistake. -/
inductive ElementField where
  | visible
  | on
  | repetition
deriving DecidableEq, Repr

namespace ElementField

/-- The name of the field. -/
def name : ElementField → String
  | visible => "visible"
  | on => "on"
  | repetition => "repeat"

/-- The fields in the order in which they are looked for. -/
def all : List ElementField := [visible, on, repetition]

end ElementField

/-- Why an element of a document is not one. -/
inductive ElementFault where
  | notObject
  | field (name : String) (fault : DecodeFault)
deriving DecidableEq, Repr

/-- What is wrong with a specification. -/
inductive Problem where
  | missingRoot
  | rootNotFound (root : String)
  | emptySpec
  | invalidElement (key : String) (fault : ElementFault)
  | missingChild (key child : String)
  | misplacedField (key : String) (field : ElementField)
  | orphan (key root : String)
deriving DecidableEq, Repr

/-- How bad a problem is. -/
inductive Severity where
  | error
  | warning
deriving DecidableEq, Repr

/-- The name of a severity. -/
def Severity.name : Severity → String
  | error => "error"
  | warning => "warning"

namespace Problem

/-- An element that cannot be reached does no harm; all else is an error. -/
def severity : Problem → Severity
  | orphan _ _ => .warning
  | _ => .error

/-- The code of a problem. -/
def code : Problem → String
  | missingRoot => "missing_root"
  | rootNotFound _ => "root_not_found"
  | emptySpec => "empty_spec"
  | invalidElement _ _ => "invalid_element"
  | missingChild _ _ => "missing_child"
  | misplacedField _ .visible => "visible_in_props"
  | misplacedField _ .on => "on_in_props"
  | misplacedField _ .repetition => "repeat_in_props"
  | orphan _ _ => "orphaned_element"

/-- The key of the element that has the problem. -/
def element? : Problem → Option String
  | missingRoot | rootNotFound _ | emptySpec => none
  | invalidElement key _ | missingChild key _ | misplacedField key _ | orphan key _ => some key

/-- A key between quotation marks. -/
def marked (key : String) : String := "\"" ++ key ++ "\""

/-- The wording of a problem. -/
def message : Problem → String
  | missingRoot => "Spec has no root element defined."
  | rootNotFound root => "Root element " ++ marked root ++ " not found in elements map."
  | emptySpec => "Spec has no elements."
  | invalidElement key .notObject => "Element " ++ marked key ++ " is invalid: expected an object."
  | invalidElement key (.field name fault) =>
    "Element " ++ marked key ++ " has an invalid " ++ marked name ++ " field: " ++
      fault.message ++ "."
  | missingChild key child =>
    "Element " ++ marked key ++ " references child " ++ marked child ++
      " which does not exist in the elements map."
  | misplacedField key field =>
    "Element " ++ marked key ++ " has " ++ marked field.name ++ " inside \"props\". " ++
      "It should be a top-level field on the element (sibling of type/props/children)."
  | orphan key root =>
    "Element " ++ marked key ++ " is not reachable from root " ++ marked root ++ "."

end Problem

/-- Whether problems leave a specification valid: none of them is an error. -/
def allHarmless (problems : List Problem) : Bool := problems.all (·.severity != .error)

/-- The errors as a request to repair the specification; nothing if there are none. -/
def repairRequest (problems : List Problem) : String :=
  match problems.filter (·.severity == .error) with
  | [] => ""
  | errors =>
    "The generated UI spec has the following errors:" ++
      String.join (errors.map fun problem => "\n- " ++ problem.message)

end UiStream
