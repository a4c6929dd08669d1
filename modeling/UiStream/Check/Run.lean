import UiStream.Check.Basic
import UiStream.Check.Rule
import UiStream.Expression.Resolve

/-!
# Running checks

A check resolves its arguments in the state and is then made by the rule of its type.  A type that
is no rule may be one that the host knows, and passes if not.  `FieldChecks.run` makes the checks
of a field in order; the field is valid if none of them fails.
-/

namespace UiStream

/-- A check of the host's: what it says of a value with arguments. -/
abbrev HostCheck := Option Json → Members → Bool

/-- What a field is checked in: its value, which may be absent, the state, and the checks that the
host knows. -/
structure FieldContext where
  value? : Option Json
  state : Json
  hostChecks : List (String × HostCheck) := []

/-- What a check of the host's was asked. -/
structure HostQuestion where
  value? : Option Json
  args : Members
deriving DecidableEq, Repr

/-- The outcome of a check, and what it asked the host. -/
structure CheckVerdict where
  type : String
  valid : Bool
  message : String
  question? : Option HostQuestion := none
deriving DecidableEq, Repr

/-- Makes a check. -/
def FieldCheck.run (check : FieldCheck) (context : FieldContext) : CheckVerdict :=
  let args := resolveProps { state := context.state } check.args
  let verdict (valid : Bool) (question? : Option HostQuestion) : CheckVerdict :=
    { type := check.type, valid, message := check.message, question? }
  match CheckRule.ofName? check.type with
  | some rule => verdict (rule.accepts context.value? args) none
  | none =>
    match context.hostChecks.lookup check.type with
    | some accepts => verdict (accepts context.value? args) (some ⟨context.value?, args⟩)
    | none => verdict true none

namespace FieldChecks

/-- Whether the checks of a field are made in a state. -/
def areEnabled (field : FieldChecks) (state : Json) : Bool := visible { state } field.enabled?

/-- Makes the checks of a field. -/
def run (field : FieldChecks) (context : FieldContext) : List CheckVerdict :=
  if field.areEnabled context.state then field.checks.map (·.run context) else []

end FieldChecks

/-- The messages of the checks that failed, in order. -/
def failureMessages (verdicts : List CheckVerdict) : List String :=
  (verdicts.filter (!·.valid)).map (·.message)

/-- Whether no check failed. -/
def allValid (verdicts : List CheckVerdict) : Bool := verdicts.all (·.valid)

end UiStream
