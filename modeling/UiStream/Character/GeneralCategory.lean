import UiStream.Character.Category.Letters
import UiStream.Character.Category.Marks
import UiStream.Character.Category.Numbers
import UiStream.Character.Category.Punctuation
import UiStream.Character.Category.Symbols
import UiStream.Character.Category.Invisible

/-!
# General categories

Every character has one general category, and the categories fall into groups.  Both are known by
a short and by a long name.
-/

namespace UiStream

/-- The general categories. -/
inductive GeneralCategory where
  | uppercaseLetter
  | lowercaseLetter
  | titlecaseLetter
  | modifierLetter
  | otherLetter
  | nonspacingMark
  | spacingMark
  | enclosingMark
  | decimalNumber
  | letterNumber
  | otherNumber
  | connectorPunctuation
  | dashPunctuation
  | openPunctuation
  | closePunctuation
  | initialPunctuation
  | finalPunctuation
  | otherPunctuation
  | mathSymbol
  | currencySymbol
  | modifierSymbol
  | otherSymbol
  | spaceSeparator
  | lineSeparator
  | paragraphSeparator
  | control
  | format
  | surrogate
  | privateUse
  | unassigned
deriving DecidableEq, Repr

namespace GeneralCategory

/-- The characters of a category. -/
def ranges : GeneralCategory → CodeRanges
  | uppercaseLetter => Category.uppercaseLetter
  | lowercaseLetter => Category.lowercaseLetter
  | titlecaseLetter => Category.titlecaseLetter
  | modifierLetter => Category.modifierLetter
  | otherLetter => Category.otherLetter
  | nonspacingMark => Category.nonspacingMark
  | spacingMark => Category.spacingMark
  | enclosingMark => Category.enclosingMark
  | decimalNumber => Category.decimalNumber
  | letterNumber => Category.letterNumber
  | otherNumber => Category.otherNumber
  | connectorPunctuation => Category.connectorPunctuation
  | dashPunctuation => Category.dashPunctuation
  | openPunctuation => Category.openPunctuation
  | closePunctuation => Category.closePunctuation
  | initialPunctuation => Category.initialPunctuation
  | finalPunctuation => Category.finalPunctuation
  | otherPunctuation => Category.otherPunctuation
  | mathSymbol => Category.mathSymbol
  | currencySymbol => Category.currencySymbol
  | modifierSymbol => Category.modifierSymbol
  | otherSymbol => Category.otherSymbol
  | spaceSeparator => Category.spaceSeparator
  | lineSeparator => Category.lineSeparator
  | paragraphSeparator => Category.paragraphSeparator
  | control => Category.control
  | format => Category.format
  | surrogate => Category.surrogate
  | privateUse => Category.privateUse
  | unassigned => Category.unassigned

end GeneralCategory

/-- Groups of categories.  A category is a group of one. -/
inductive CategoryGroup where
  | one (category : GeneralCategory)
  | casedLetter
  | letter
  | mark
  | number
  | punctuation
  | symbol
  | separator
  | other
deriving DecidableEq, Repr

namespace CategoryGroup

open GeneralCategory in
/-- The categories of a group. -/
def categories : CategoryGroup → List GeneralCategory
  | one category => [category]
  | casedLetter => [uppercaseLetter, lowercaseLetter, titlecaseLetter]
  | letter => [uppercaseLetter, lowercaseLetter, titlecaseLetter, modifierLetter, otherLetter]
  | mark => [nonspacingMark, spacingMark, enclosingMark]
  | number => [decimalNumber, letterNumber, otherNumber]
  | punctuation =>
    [connectorPunctuation, dashPunctuation, openPunctuation, closePunctuation,
     initialPunctuation, finalPunctuation, otherPunctuation]
  | symbol => [mathSymbol, currencySymbol, modifierSymbol, otherSymbol]
  | separator => [spaceSeparator, lineSeparator, paragraphSeparator]
  | other => [control, format, surrogate, privateUse, unassigned]

/-- The characters of a group. -/
def ranges (group : CategoryGroup) : CodeRanges :=
  .unions (group.categories.map GeneralCategory.ranges)

/-- Whether a character belongs to a group. -/
def has (group : CategoryGroup) (code : Nat) : Bool :=
  group.categories.any (·.ranges.has code)

open GeneralCategory in
/-- The groups by name, in lower case and without separators.  Halves of surrogate pairs are no
characters of a text, and their category has no name. -/
def names : List (String × CategoryGroup) :=
  [("lu", one uppercaseLetter), ("uppercaseletter", one uppercaseLetter),
   ("ll", one lowercaseLetter), ("lowercaseletter", one lowercaseLetter),
   ("lt", one titlecaseLetter), ("titlecaseletter", one titlecaseLetter),
   ("lm", one modifierLetter), ("modifierletter", one modifierLetter),
   ("lo", one otherLetter), ("otherletter", one otherLetter),
   ("mn", one nonspacingMark), ("nonspacingmark", one nonspacingMark),
   ("mc", one spacingMark), ("spacingmark", one spacingMark),
   ("me", one enclosingMark), ("enclosingmark", one enclosingMark),
   ("nd", one decimalNumber), ("decimalnumber", one decimalNumber),
   ("digit", one decimalNumber),
   ("nl", one letterNumber), ("letternumber", one letterNumber),
   ("no", one otherNumber), ("othernumber", one otherNumber),
   ("pc", one connectorPunctuation), ("connectorpunctuation", one connectorPunctuation),
   ("pd", one dashPunctuation), ("dashpunctuation", one dashPunctuation),
   ("ps", one openPunctuation), ("openpunctuation", one openPunctuation),
   ("pe", one closePunctuation), ("closepunctuation", one closePunctuation),
   ("pi", one initialPunctuation), ("initialpunctuation", one initialPunctuation),
   ("pf", one finalPunctuation), ("finalpunctuation", one finalPunctuation),
   ("po", one otherPunctuation), ("otherpunctuation", one otherPunctuation),
   ("sm", one mathSymbol), ("mathsymbol", one mathSymbol),
   ("sc", one currencySymbol), ("currencysymbol", one currencySymbol),
   ("sk", one modifierSymbol), ("modifiersymbol", one modifierSymbol),
   ("so", one otherSymbol), ("othersymbol", one otherSymbol),
   ("zs", one spaceSeparator), ("spaceseparator", one spaceSeparator),
   ("zl", one lineSeparator), ("lineseparator", one lineSeparator),
   ("zp", one paragraphSeparator), ("paragraphseparator", one paragraphSeparator),
   ("cc", one control), ("control", one control), ("cntrl", one control),
   ("cf", one format), ("format", one format),
   ("co", one privateUse), ("privateuse", one privateUse),
   ("cn", one unassigned), ("unassigned", one unassigned),
   ("lc", casedLetter), ("casedletter", casedLetter),
   ("l", letter), ("letter", letter),
   ("m", mark), ("mark", mark), ("combiningmark", mark),
   ("n", number), ("number", number),
   ("p", punctuation), ("punctuation", punctuation), ("punct", punctuation),
   ("s", symbol), ("symbol", symbol),
   ("z", separator), ("separator", separator),
   ("c", other), ("other", other)]

/-- The group with a name. -/
def ofName? (name : String) : Option CategoryGroup := names.lookup name

end CategoryGroup

end UiStream
