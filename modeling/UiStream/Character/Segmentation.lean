import UiStream.Character.Property
import UiStream.Character.Script

/-!
# How characters break a text

Three properties say how characters behave where a text is broken into what a reader takes for one
character, into words, and into sentences.  Each value of such a property is a set of characters;
the sets follow from the other properties and from short lists.
-/

namespace UiStream

open CodeRanges

/-- The characters of a script, none for a name that is none. -/
def ofScript (name : String) : CodeRanges := ((scriptNamed? name).map (·.2)).getD []

/-! ## What a reader takes for one character -/

namespace GraphemeBreak

/-- Characters that lie on the one before them. -/
def extend : CodeRanges := union CharProperty.graphemeExtend Listed.emojiModifier

/-- Characters that lie in front of the one behind them. -/
def prepended : CodeRanges :=
  unions [Listed.prependedConcatenationMark,
    [(0xD4E, 0xD4E), (0x111C2, 0x111C3), (0x113D1, 0x113D1), (0x1193F, 0x1193F),
     (0x11941, 0x11941), (0x11A3A, 0x11A3A), (0x11A84, 0x11A89), (0x11D46, 0x11D46),
     (0x11F02, 0x11F02)]]

/-- Characters that stand alone because they show nothing. -/
def control : CodeRanges :=
  minus
    (unions [Category.control, Category.format, Category.lineSeparator,
      Category.paragraphSeparator, inter Category.unassigned CharProperty.defaultIgnorable])
    (unions [[(0xA, 0xA), (0xD, 0xD), (0x200C, 0x200D)], prepended, extend])

/-- Marks with room of their own, except those behind which a text may break. -/
def spacing : CodeRanges :=
  minus (union Category.spacingMark [(0xE33, 0xE33), (0xEB3, 0xEB3)])
    (unions [extend,
      [(0x102B, 0x102C), (0x1038, 0x1038), (0x1062, 0x1064), (0x1067, 0x106D), (0x1083, 0x1083),
       (0x1087, 0x108C), (0x108F, 0x108F), (0x109A, 0x109C), (0x1A61, 0x1A61), (0x1A63, 0x1A64),
       (0xAA7B, 0xAA7B), (0xAA7D, 0xAA7D), (0x11720, 0x11721)]])

/-- The syllables of Hangul. -/
def syllable : CodeRanges := [(0xAC00, 0xD7A3)]

/-- The syllables of Hangul without a final consonant. -/
def openSyllable : CodeRanges := .ofRuns [(0xAC00, 0xD788, 28)]

/-- The sets by name. -/
def names : List (List String × CodeRanges) :=
  [(["cr"], [(0xD, 0xD)]), (["lf"], [(0xA, 0xA)]), (["cn", "control"], control),
   (["ex", "extend"], extend), (["zwj"], [(0x200D, 0x200D)]),
   (["ri", "regionalindicator"], Listed.regionalIndicator), (["pp", "prepend"], prepended),
   (["sm", "spacingmark"], spacing),
   (["l"], [(0x1100, 0x115F), (0xA960, 0xA97C)]),
   (["v"], [(0x1160, 0x11A7), (0xD7B0, 0xD7C6), (0x16D63, 0x16D63), (0x16D67, 0x16D6A)]),
   (["t"], [(0x11A8, 0x11FF), (0xD7CB, 0xD7FB)]),
   (["lv"], openSyllable), (["lvt"], minus syllable openSyllable)]

end GraphemeBreak

/-! ## Words -/

namespace WordBreak

/-- Characters that belong to the one before them. -/
def extend : CodeRanges :=
  minus (unions [CharProperty.graphemeExtend, Category.spacingMark, Listed.emojiModifier])
    [(0x200D, 0x200D)]

/-- Signs that stand in front of digits and count as digits. -/
def numberSigns : CodeRanges :=
  [(0x600, 0x605), (0x6DD, 0x6DD), (0x890, 0x891), (0x8E2, 0x8E2), (0x110BD, 0x110BD),
   (0x110CD, 0x110CD)]

/-- Characters of the layout that words pass over. -/
def format : CodeRanges :=
  minus Category.format
    (unions [[(0x200B, 0x200D)], Listed.prependedConcatenationMark, extend])

/-- Katakana. -/
def katakana : CodeRanges :=
  minus
    (union (ofScript "katakana")
      [(0x3031, 0x3035), (0x309B, 0x309C), (0x30A0, 0x30A0), (0x30FC, 0x30FC), (0xFF70, 0xFF70)])
    extend

/-- Hebrew letters. -/
def hebrewLetter : CodeRanges := inter (ofScript "hebrew") Category.otherLetter

/-- Characters of scripts that write words without a gap. -/
def gapless : CodeRanges :=
  [(0xE01, 0xE3A), (0xE40, 0xE4E), (0xE81, 0xE82), (0xE84, 0xE84), (0xE86, 0xE8A),
   (0xE8C, 0xEA3), (0xEA5, 0xEA5), (0xEA7, 0xEBD), (0xEC0, 0xEC4), (0xEC6, 0xEC6),
   (0xEC8, 0xECE), (0xEDC, 0xEDF), (0x1000, 0x103F), (0x1050, 0x108F), (0x109A, 0x109F),
   (0x1780, 0x17D3), (0x17D7, 0x17D7), (0x17DC, 0x17DD), (0x1950, 0x196D), (0x1970, 0x1974),
   (0x1980, 0x19AB), (0x19B0, 0x19C9), (0x19DA, 0x19DA), (0x19DE, 0x19DF), (0x1A20, 0x1A5E),
   (0x1A60, 0x1A7C), (0x1AA0, 0x1AAD), (0xA9E0, 0xA9EF), (0xA9FA, 0xA9FE), (0xAA60, 0xAAC2),
   (0xAADB, 0xAADF), (0x11700, 0x1171A), (0x1171D, 0x1172B), (0x1173A, 0x1173B),
   (0x1173F, 0x11746)]

/-- Signs that stand in a word like letters. -/
def letterSigns : CodeRanges :=
  [(0x2C2, 0x2C5), (0x2D2, 0x2D7), (0x2DE, 0x2DF), (0x2E5, 0x2EB), (0x2ED, 0x2ED),
   (0x2EF, 0x2FF), (0x55A, 0x55C), (0x55E, 0x55E), (0x58A, 0x58A), (0x5F3, 0x5F3),
   (0x70F, 0x70F), (0xA708, 0xA716), (0xA720, 0xA721), (0xA789, 0xA78A), (0xAB5B, 0xAB5B)]

/-- Letters of words with gaps between them. -/
def letter : CodeRanges :=
  minus (union CharProperty.alphabetic letterSigns)
    (unions [Listed.ideographic, katakana, gapless, ofScript "hiragana", extend, hebrewLetter])

/-- Digits, and signs like them. -/
def numeric : CodeRanges := unions [Category.decimalNumber, numberSigns, [(0x66B, 0x66B)]]

/-- The sets by name. -/
def names : List (List String × CodeRanges) :=
  [(["cr"], [(0xD, 0xD)]), (["lf"], [(0xA, 0xA)]),
   (["nl", "newline"], [(0xB, 0xC), (0x85, 0x85), (0x2028, 0x2029)]),
   (["extend"], extend), (["zwj"], [(0x200D, 0x200D)]),
   (["ri", "regionalindicator"], Listed.regionalIndicator), (["fo", "format"], format),
   (["ka", "katakana"], katakana), (["hl", "hebrewletter"], hebrewLetter),
   (["le", "aletter"], letter), (["sq", "singlequote"], [(0x27, 0x27)]),
   (["dq", "doublequote"], [(0x22, 0x22)]),
   (["mb", "midnumlet"],
    [(0x2E, 0x2E), (0x2018, 0x2019), (0x2024, 0x2024), (0xFE52, 0xFE52), (0xFF07, 0xFF07),
     (0xFF0E, 0xFF0E)]),
   (["ml", "midletter"],
    [(0x3A, 0x3A), (0xB7, 0xB7), (0x387, 0x387), (0x55F, 0x55F), (0x5F4, 0x5F4),
     (0x2027, 0x2027), (0xFE13, 0xFE13), (0xFE55, 0xFE55), (0xFF1A, 0xFF1A)]),
   (["mn", "midnum"],
    [(0x2C, 0x2C), (0x3B, 0x3B), (0x37E, 0x37E), (0x589, 0x589), (0x60C, 0x60D),
     (0x66C, 0x66C), (0x7F8, 0x7F8), (0x2044, 0x2044), (0xFE10, 0xFE10), (0xFE14, 0xFE14),
     (0xFE50, 0xFE50), (0xFE54, 0xFE54), (0xFF0C, 0xFF0C), (0xFF1B, 0xFF1B)]),
   (["nu", "numeric"], numeric),
   (["ex", "extendnumlet"], union Category.connectorPunctuation [(0x202F, 0x202F)]),
   (["wsegspace"],
    minus Category.spaceSeparator [(0xA0, 0xA0), (0x2007, 0x2007), (0x202F, 0x202F)])]

end WordBreak

/-! ## Sentences -/

namespace SentenceBreak

/-- Characters that belong to the one before them. -/
def extend : CodeRanges :=
  unions [CharProperty.graphemeExtend, Category.spacingMark, [(0x200C, 0x200D)]]

/-- Separators of paragraphs. -/
def separator : CodeRanges := [(0x85, 0x85), (0x2028, 0x2029)]

/-- Digits, and signs like them. -/
def numeric : CodeRanges :=
  unions [Category.decimalNumber, WordBreak.numberSigns, [(0x66B, 0x66C)]]

/-- Characters of the layout that sentences pass over. -/
def format : CodeRanges := minus Category.format (union extend WordBreak.numberSigns)

/-- Letters in lower case, except Georgian ones. -/
def lower : CodeRanges :=
  minus CharProperty.lowercase
    (union CharProperty.graphemeExtend [(0x10D0, 0x10FA), (0x10FD, 0x10FF)])

/-- Letters in upper or in title case, except Georgian ones. -/
def upper : CodeRanges :=
  minus (union CharProperty.uppercase Category.titlecaseLetter)
    [(0x1C90, 0x1CBA), (0x1CBD, 0x1CBF)]

/-- Other letters. -/
def otherLetter : CodeRanges :=
  minus (union CharProperty.alphabetic [(0x5F3, 0x5F3)]) (unions [lower, upper, extend])

/-- Full stops, which may also stand in a number. -/
def fullStop : CodeRanges :=
  [(0x2E, 0x2E), (0x2024, 0x2024), (0xFE52, 0xFE52), (0xFF0E, 0xFF0E)]

/-- Other ends of sentences. -/
def terminal : CodeRanges := minus Listed.sentenceTerminal fullStop

/-- Punctuation behind which a sentence goes on. -/
def continuing : CodeRanges :=
  [(0x2C, 0x2D), (0x3A, 0x3B), (0x37E, 0x37E), (0x55D, 0x55D), (0x60C, 0x60D), (0x7F8, 0x7F8),
   (0x1802, 0x1802), (0x1808, 0x1808), (0x2013, 0x2014), (0x3001, 0x3001), (0xFE10, 0xFE11),
   (0xFE13, 0xFE14), (0xFE31, 0xFE32), (0xFE50, 0xFE51), (0xFE54, 0xFE55), (0xFE58, 0xFE58),
   (0xFE63, 0xFE63), (0xFF0C, 0xFF0D), (0xFF1A, 0xFF1B), (0xFF64, 0xFF64)]

/-- Brackets and quotation marks. -/
def closing : CodeRanges :=
  unions [Category.openPunctuation, Category.closePunctuation, Category.initialPunctuation,
    Category.finalPunctuation, otherQuotes]
where
  /-- Quotation marks of other categories. -/
  otherQuotes : CodeRanges :=
    [(0x22, 0x22), (0x27, 0x27), (0x275B, 0x2760), (0x2E00, 0x2E01), (0x2E06, 0x2E08),
     (0x2E0B, 0x2E0B), (0x1F676, 0x1F678)]

/-- The sets by name. -/
def names : List (List String × CodeRanges) :=
  [(["cr"], [(0xD, 0xD)]), (["lf"], [(0xA, 0xA)]), (["se", "sep"], separator),
   (["ex", "extend"], extend), (["fo", "format"], format),
   (["sp"], minus whiteSpace (union separator [(0xA, 0xA), (0xD, 0xD)])),
   (["lo", "lower"], lower), (["up", "upper"], upper), (["le", "oletter"], otherLetter),
   (["nu", "numeric"], numeric), (["at", "aterm"], fullStop), (["st", "sterm"], terminal),
   (["sc", "scontinue"], continuing), (["cl", "close"], closing)]

end SentenceBreak

end UiStream
