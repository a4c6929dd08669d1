import UiStream.Character.CaseChange
import UiStream.Character.GeneralCategory
import UiStream.Character.Listed
import UiStream.Text.Blank

/-!
# Properties of characters

The properties that follow from the general categories, each with the few characters that are listed
beside them, and the table of all properties by name.
-/

namespace UiStream

open CodeRanges

namespace CharProperty

/-- Characters with the property Lowercase. -/
def lowercase : CodeRanges := union Category.lowercaseLetter Listed.otherLowercase

/-- Characters with the property Uppercase. -/
def uppercase : CodeRanges := union Category.uppercaseLetter Listed.otherUppercase

/-- Characters with the property Cased. -/
def cased : CodeRanges := unions [lowercase, uppercase, Category.titlecaseLetter]

/-- Characters with the property Case_Ignorable. -/
def caseIgnorable : CodeRanges :=
  unions [Category.nonspacingMark, Category.enclosingMark, Category.format,
    Category.modifierLetter, Category.modifierSymbol, Listed.otherCaseIgnorable]

/-- Characters that some change of case changes. -/
def whenCasemapped : CodeRanges :=
  unions [CaseChange.whenLowercased, CaseChange.whenUppercased, CaseChange.whenTitlecased]

/-- Letters, and numbers that look like letters. -/
def letterOrLetterNumber : CodeRanges :=
  union CategoryGroup.letter.ranges Category.letterNumber

/-- Characters with the property Alphabetic: letters in the wide sense. -/
def alphabetic : CodeRanges :=
  unions [letterOrLetterNumber, Listed.otherAlphabetic, Listed.otherLowercase,
    Listed.otherUppercase]

/-- Characters with the property Math. -/
def math : CodeRanges := union Category.mathSymbol Listed.otherMath

/-- Characters that are passed over where they cannot be shown. -/
def defaultIgnorable : CodeRanges :=
  minus
    (unions [Listed.otherDefaultIgnorable, Category.format, Listed.variationSelector])
    (unions [whiteSpace, Listed.prependedConcatenationMark,
      [(0xFFF9, 0xFFFB), (0x13430, 0x1343F)]])

/-- Characters that belong to the syntax of patterns. -/
def patternCharacter : CodeRanges := union Listed.patternSyntax Listed.patternWhiteSpace

/-- Characters that may begin an identifier. -/
def idStart : CodeRanges :=
  minus (union letterOrLetterNumber Listed.otherIdStart) patternCharacter

/-- Characters that may stand in an identifier. -/
def idContinue : CodeRanges :=
  minus
    (unions [idStart, Category.nonspacingMark, Category.spacingMark, Category.decimalNumber,
      Category.connectorPunctuation, Listed.otherIdContinue])
    patternCharacter

/-- Characters that may begin an identifier in every form of a text. -/
def stableIdStart : CodeRanges :=
  minus idStart (union Listed.unstableIdStart Listed.unstableIdContinue)

/-- Characters that may stand in an identifier in every form of a text. -/
def stableIdContinue : CodeRanges := minus idContinue Listed.unstableIdContinue

/-- Characters that extend the one before them. -/
def graphemeExtend : CodeRanges :=
  unions [Category.nonspacingMark, Category.enclosingMark, Listed.otherGraphemeExtend]

/-- Characters that others can extend. -/
def graphemeBase : CodeRanges :=
  compl (unions [CategoryGroup.other.ranges, Category.lineSeparator,
    Category.paragraphSeparator, graphemeExtend])

/-- Characters that belong to a word: letters, marks, digits, connectors and joiners. -/
def word : CodeRanges :=
  unions [alphabetic, CategoryGroup.mark.ranges, Category.decimalNumber,
    Category.connectorPunctuation, Listed.joinControl]

/-- The properties, by their names in lower case and without separators. -/
def names : List (List String × CodeRanges) :=
  [(["ahex", "asciihexdigit"], Listed.asciiHexDigit),
   (["alpha", "alphabetic"], alphabetic),
   (["bidic", "bidicontrol"], Listed.bidiControl),
   (["bidim", "bidimirrored"], Listed.bidiMirrored),
   (["cased"], cased),
   (["ci", "caseignorable"], caseIgnorable),
   (["cwcf", "changeswhencasefolded"], CaseChange.whenCasefolded),
   (["cwcm", "changeswhencasemapped"], whenCasemapped),
   (["cwl", "changeswhenlowercased"], CaseChange.whenLowercased),
   (["cwt", "changeswhentitlecased"], CaseChange.whenTitlecased),
   (["cwu", "changeswhenuppercased"], CaseChange.whenUppercased),
   (["dash"], Listed.dash),
   (["dep", "deprecated"], Listed.deprecated),
   (["di", "defaultignorablecodepoint"], defaultIgnorable),
   (["dia", "diacritic"], Listed.diacritic),
   (["ebase", "emojimodifierbase"], Listed.emojiModifierBase),
   (["ecomp", "emojicomponent"], Listed.emojiComponent),
   (["emod", "emojimodifier"], Listed.emojiModifier),
   (["emoji"], Listed.emoji),
   (["epres", "emojipresentation"], Listed.emojiPresentation),
   (["ext", "extender"], Listed.extender),
   (["extpict", "extendedpictographic"], Listed.extendedPictographic),
   (["grbase", "graphemebase"], graphemeBase),
   (["grext", "graphemeextend"], graphemeExtend),
   (["grlink", "graphemelink"], Listed.graphemeLink),
   (["hex", "hexdigit"], Listed.hexDigit),
   (["hyphen"], Listed.hyphen),
   (["idc", "idcontinue"], idContinue),
   (["idcompatmathcontinue"], Listed.compatMathContinue),
   (["idcompatmathstart"], Listed.compatMathStart),
   (["ideo", "ideographic"], Listed.ideographic),
   (["ids", "idstart"], idStart),
   (["idsb", "idsbinaryoperator"], Listed.idsBinaryOperator),
   (["idst", "idstrinaryoperator"], Listed.idsTrinaryOperator),
   (["idsu", "idsunaryoperator"], Listed.idsUnaryOperator),
   (["joinc", "joincontrol"], Listed.joinControl),
   (["loe", "logicalorderexception"], Listed.logicalOrderException),
   (["lower", "lowercase"], lowercase),
   (["math"], math),
   (["mcm", "modifiercombiningmark"], Listed.modifierCombiningMark),
   (["nchar", "noncharactercodepoint"], Listed.noncharacter),
   (["oalpha", "otheralphabetic"], Listed.otherAlphabetic),
   (["odi", "otherdefaultignorablecodepoint"], Listed.otherDefaultIgnorable),
   (["ogrext", "othergraphemeextend"], Listed.otherGraphemeExtend),
   (["oidc", "otheridcontinue"], Listed.otherIdContinue),
   (["oids", "otheridstart"], Listed.otherIdStart),
   (["olower", "otherlowercase"], Listed.otherLowercase),
   (["omath", "othermath"], Listed.otherMath),
   (["oupper", "otheruppercase"], Listed.otherUppercase),
   (["patsyn", "patternsyntax"], Listed.patternSyntax),
   (["patws", "patternwhitespace"], Listed.patternWhiteSpace),
   (["pcm", "prependedconcatenationmark"], Listed.prependedConcatenationMark),
   (["qmark", "quotationmark"], Listed.quotationMark),
   (["radical"], Listed.radical),
   (["ri", "regionalindicator"], Listed.regionalIndicator),
   (["sd", "softdotted"], Listed.softDotted),
   (["sterm", "sentenceterminal"], Listed.sentenceTerminal),
   (["term", "terminalpunctuation"], Listed.terminalPunctuation),
   (["uideo", "unifiedideograph"], Listed.unifiedIdeograph),
   (["upper", "uppercase"], uppercase),
   (["vs", "variationselector"], Listed.variationSelector),
   (["wspace", "whitespace", "space"], whiteSpace),
   (["xidc", "xidcontinue"], stableIdContinue),
   (["xids", "xidstart"], stableIdStart)]

/-- The characters with the property that has a name. -/
def ofName? : String → Option CodeRanges := named? names

end CharProperty

end UiStream
