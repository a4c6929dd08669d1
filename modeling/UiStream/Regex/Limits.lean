import UiStream.Regex.Automaton.Size
import UiStream.Regex.Pattern

/-!
# Patterns within limits

`Regex.ofPattern?` reads the regular expression of a pattern, and refuses one whose automata would
be too large.
-/

namespace UiStream

/-- The regular expression of a pattern, if it is one. -/
def Regex.ofPattern? (pattern : String) : Option Regex :=
  ((NestedRegex.ofPattern? pattern.toList).map (·.regex)).filter Regex.fits

end UiStream
