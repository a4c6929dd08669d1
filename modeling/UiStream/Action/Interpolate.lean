import UiStream.Action.Binding
import UiStream.Expression.Resolve

/-!
# Texts with values in them

`interpolate` replaces each `${pointer}` in a text by the display text of the value in the state.
It reads the text once from left to right, so a value that looks like a placeholder stays as it
is.  A dollar sign and brace without a closing brace, or with nothing between, are plain text.
-/

namespace UiStream

mutual

/-- Replaces the placeholders in a text. -/
def interpolateChars (state : Json) : List Char → List Char
  | [] => []
  | '$' :: '\x7b' :: rest => insidePlaceholder state [] rest
  | c :: rest => c :: interpolateChars state rest

/-- Goes on inside a placeholder, whose pointer begins with `pointer`, in reverse. -/
def insidePlaceholder (state : Json) (pointer : List Char) : List Char → List Char
  | [] => '$' :: '\x7b' :: pointer.reverse
  | '\x7d' :: rest =>
    (if pointer.isEmpty then ['$', '\x7b', '\x7d']
      else (Json.displayText? (state.at? (String.ofList pointer.reverse))).toList) ++
      interpolateChars state rest
  | c :: rest => insidePlaceholder state (c :: pointer) rest
end

/-- Replaces the placeholders in a text. -/
def interpolate (template : String) (state : Json) : String :=
  String.ofList (interpolateChars state template.toList)

/-- A prompt with its title and message interpolated. -/
def Confirm.inState (state : Json) (confirm : Confirm) : Confirm :=
  { confirm with
    title := interpolate confirm.title state
    message := interpolate confirm.message state }

/-- A binding as it runs in a state: with its parameters resolved, undefined ones left out, and
the texts of its prompt interpolated. -/
def Binding.inState (state : Json) (binding : Binding) : Binding :=
  { binding with
    params := resolveProps { state } binding.params
    confirm? := binding.confirm?.map (·.inState state) }

end UiStream
