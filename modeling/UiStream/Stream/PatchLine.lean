import UiStream.Json.Display
import UiStream.Json.Parser
import UiStream.Patch.Codec
import UiStream.Text.Blank

/-!
# Lines that are patches

A line of a stream is a patch when its text, without the blanks around it, is a JSON object that
decodes as one.  Everything else is prose.
-/

namespace UiStream

/-- The patch in a line whose blanks are trimmed.  The first brace, the operation and the path
are looked at before the patch is decoded. -/
def patchOfTrimmed? (trimmed : List Char) : Option Patch :=
  if trimmed.head? = some '{' then
    match Json.parse? (String.ofList trimmed) with
    | some (.object members) =>
      if Json.truthy? (Members.find? "op" members) && Members.has "path" members then
        (Patch.decode (.object members)).toOption
      else none
    | _ => none
  else none

/-- The patch in a line. -/
def patchOfLine? (line : List Char) : Option Patch := patchOfTrimmed? (trim line)

end UiStream
