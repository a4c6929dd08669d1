import UiStream.Character.Category.Invisible
import UiStream.Character.Category.Marks
import UiStream.Character.Listed

/-!
# Quoted text

Messages show a text between double quotes, so that it is clear where it begins and ends and
which characters it holds: `quoted` escapes the quote and the backslash, writes the usual
control characters by letters, and writes any other character that would not show, or that would
join the one before it, by its code.
-/

namespace UiStream

/-- The ranges of the characters that show no mark of their own. -/
def invisible : List CodeRanges :=
  [Category.control, Category.spaceSeparator, Category.lineSeparator,
   Category.paragraphSeparator, Category.format, Category.surrogate, Category.privateUse,
   Category.unassigned]

/-- The ranges of the characters that join the one before them. -/
def extending : List CodeRanges :=
  [Category.nonspacingMark, Category.enclosingMark, Listed.otherGraphemeExtend]

/-- Whether a character shows as itself: it is a space, or it is visible and stands alone. -/
def isShown (c : Char) : Bool :=
  c == ' ' || !(extending ++ invisible).any (·.has c.toNat)

/-- A character inside quoted text. -/
def quotedChar (c : Char) : List Char :=
  if c = '"' then ['\\', '"']
  else if c = '\\' then ['\\', '\\']
  else if c = '\n' then ['\\', 'n']
  else if c = '\r' then ['\\', 'r']
  else if c = '\t' then ['\\', 't']
  else if c = '\x00' then ['\\', '0']
  else if 0x20 ≤ c.toNat ∧ c.toNat < 0x7F then [c]
  else if isShown c then [c]
  else '\\' :: 'u' :: '{' :: Nat.toDigits 16 c.toNat ++ ['}']

/-- A text between double quotes. -/
def quoted (s : String) : String := String.ofList ('"' :: s.toList.flatMap quotedChar ++ ['"'])

end UiStream
