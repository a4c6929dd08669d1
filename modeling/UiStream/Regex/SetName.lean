import UiStream.Character.Age
import UiStream.Character.ScriptExtensions
import UiStream.Character.Segmentation
import UiStream.Text.Split

/-!
# Sets of characters by name

A set of characters is named by a property, a general category or a script, or by a property and
one of its values.  Names are compared without regard to case and to separators.
-/

namespace UiStream

namespace SetName

/-- A name in the form in which names are compared: in lower case, without separators and
characters beyond ASCII, and without a leading `is`. -/
def plain (name : List Char) : String :=
  let kept (name : List Char) : List Char :=
    (name.filter fun c => c.toNat < 0x80 && c != ' ' && c != '_' && c != '-').map Char.toLower
  match name with
  | i :: s :: rest =>
    if i.toLower == 'i' && s.toLower == 's' then
      String.ofList (if kept rest == ['c'] then ['i', 's', 'c'] else kept rest)
    else String.ofList (kept name)
  | name => String.ofList (kept name)

/-- The set of a general category. -/
def category? (name : String) : Option CodeRanges :=
  match name with
  | "any" => some .everything
  | "assigned" => some GeneralCategory.unassigned.ranges.compl
  | "ascii" => some [(0, 0x7F)]
  | name => (CategoryGroup.ofName? name).map CategoryGroup.ranges

/-- The set of a script. -/
def script? (name : String) : Option CodeRanges := (scriptNamed? name).map (·.2)

/-- The set with a name of its own: that of a property, a category or a script. -/
def single? (name : List Char) : Option CodeRanges :=
  let name := plain name
  CharProperty.ofName? name <|> category? name <|> script? name

/-- The set of the characters for which a property has a value. -/
def valued? (property value : List Char) : Option CodeRanges :=
  let value := plain value
  match plain property with
  | "gc" | "generalcategory" => category? value
  | "sc" | "script" => script? value
  | "scx" | "scriptextensions" => scriptUsers? value
  | "age" => charactersOf? value
  | "gcb" | "graphemeclusterbreak" => CodeRanges.named? GraphemeBreak.names value
  | "wb" | "wordbreak" => CodeRanges.named? WordBreak.names value
  | "sb" | "sentencebreak" => CodeRanges.named? SentenceBreak.names value
  | _ => none

/-- The set that a text between braces names, and whether it asks for the complement. -/
def braced? (text : List Char) : Option (CodeRanges × Bool) :=
  match splitFirst? ['!', '='] text, splitFirst? [':'] text, splitFirst? ['='] text with
  | some (property, value), _, _ => (valued? property value).map (·, true)
  | none, some (property, value), _
  | none, none, some (property, value) => (valued? property value).map (·, false)
  | none, none, none => (single? text).map (·, false)

end SetName

end UiStream
