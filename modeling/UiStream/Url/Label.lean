import UiStream.Character.Direction
import UiStream.Character.Joining
import UiStream.Url.Punycode
import UiStream.Url.Spelling

/-!
# Labels of domains

Between its dots a domain has labels, in the spelling of domains.  A label has only characters that
may stand in a domain, no mark comes first in it, and a joiner has a place where it joins something.
If some character of a domain is written from right to left, no label may mix directions.
-/

namespace UiStream.Url

/-! ## Characters -/

/-- Whether a character of the spelling of domains may stand in a label. -/
def isDomainChar (c : Char) : Bool :=
  0x80 ≤ c.toNat || ('!' ≤ c && c ≤ '~' && !"%#/:<>?@[\\]^|".toList.contains c)

/-- Whether a label begins with a mark. -/
def beginsWithMark (label : List Char) : Bool :=
  label.head?.any fun c => CategoryGroup.mark.has c.toNat

/-! ## Joiners -/

/-- Whether letters of a kind are reached across marks. -/
def reaches (kind : CodeRanges) (text : List Char) : Bool :=
  (text.dropWhile fun c => Joining.transparent.has c.toNat).head?.any fun c =>
    kind.has c.toNat || Joining.dual.has c.toNat

/-- Whether joiners stand in their places, behind given text with the last character first.  The
mark that silences a vowel may have either joiner behind it; the joiner that keeps letters apart may
stand between letters that would be joined. -/
def joinersFit (before : List Char) : List Char → Bool
  | [] => true
  | c :: rest =>
    (c != '\u200C' && c != '\u200D' ||
      before.head?.any (combiningClass ·.toNat == 9) ||
      (c == '\u200C' && reaches Joining.leading before && reaches Joining.trailing rest)) &&
    joinersFit (c :: before) rest

/-! ## Directions -/

/-- Whether some character is written from right to left. -/
def hasRightToLeft (text : List Char) : Bool :=
  text.any fun c =>
    Direction.rightToLeft.has c.toNat || Direction.arabicNumber.has c.toNat

/-- Whether all characters of a text, and the last one that is no mark, are in given sets. -/
def allAndLast (all last : List CodeRanges) (text : List Char) : Bool :=
  let isIn (sets : List CodeRanges) (c : Char) : Bool := sets.any (·.has c.toNat)
  let plain := text.reverse.dropWhile fun c => Direction.nonspacing.has c.toNat
  plain.all (isIn all) && plain.head?.any (isIn last)

open Direction in
/-- Whether a label is written in one direction, which its first character tells.  From right to
left it has digits of one kind only. -/
def isOneWay (label : List Char) : Bool :=
  match label with
  | [] => true
  | first :: _ =>
    if leftToRight.has first.toNat then
      allAndLast [leftToRight, europeanNumber, neutral, nonspacing]
        [leftToRight, europeanNumber] label
    else
      rightToLeft.has first.toNat &&
      allAndLast [rightToLeft, arabicNumber, europeanNumber, neutral, nonspacing]
        [rightToLeft, arabicNumber, europeanNumber] label &&
      !(label.any (arabicNumber.has ·.toNat) && label.any (europeanNumber.has ·.toNat))

/-! ## Labels -/

/-- How many characters a label in letters beyond ASCII may have. -/
def longestLabel : Nat := 1000

/-- How many characters the form of a label in ASCII may have. -/
def longestForm : Nat := 2000

/-- Whether a text in the spelling of domains is a label in its own letters. -/
def isPlainLabel (label : List Char) : Bool :=
  label.all isDomainChar && !beginsWithMark label && joinersFit [] label &&
    (label.all (·.toNat < 0x80) || label.length ≤ longestLabel)

/-- The label in its own letters that a text in the spelling of domains stands for.  One that is
marked as the form in ASCII of another stands for that, which has other letters. -/
def plainLabel? : List Char → Option (List Char)
  | 'x' :: 'n' :: '-' :: '-' :: form => do
    let label ← if form.length ≤ longestForm then Punycode.decode? form else none
    if label.any (0x80 ≤ ·.toNat) && isSpelled label && isPlainLabel label then some label else none
  | label => if isPlainLabel label then some label else none

end UiStream.Url
