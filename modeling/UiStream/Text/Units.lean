/-!
# The length of a text in units of sixteen bits

A character of the first plane is one unit, and any other is two.
-/

namespace UiStream

/-- The number of units of a character. -/
def unitsOf (c : Char) : Nat := if c.toNat < 0x10000 then 1 else 2

/-- The number of units of a text. -/
def unitCount (text : List Char) : Nat := text.foldl (fun n c => n + unitsOf c) 0

end UiStream
