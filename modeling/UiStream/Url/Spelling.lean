import UiStream.Character.CaseFolding
import UiStream.Character.Listed
import UiStream.Character.GeneralCategory
import UiStream.Character.NormalForm
import UiStream.Url.Spelling.Characters
import UiStream.Url.Spelling.Texts

/-!
# The spelling of domains

A domain is spelled in small letters, without characters that are mere forms of others and without
those that cannot be seen.  `respelled?` brings a text into that spelling, unless it has a character
that no domain may have.  `isSpelled` says whether a text is in that spelling already.
-/

namespace UiStream.Url

/-- Characters that a domain leaves out. -/
def ignored : CodeRanges :=
  [(0xAD, 0xAD), (0x34F, 0x34F), (0x115F, 0x1160), (0x17B4, 0x17B5), (0x180B, 0x180F),
   (0x200B, 0x200B), (0x2060, 0x2064), (0x206A, 0x206F), (0x3164, 0x3164), (0xFE00, 0xFE0F),
   (0xFEFF, 0xFEFF), (0xFFA0, 0xFFA0), (0x1BCA0, 0x1BCA3), (0x1D173, 0x1D17A),
   (0xE0100, 0xE01EF)]

/-- Characters that no domain has, apart from those of ASCII. -/
def refused : CodeRanges :=
  .inter [(0x80, lastCode)]
    (.union (.minus CategoryGroup.other.ranges (.union ignored Listed.joinControl)) refusedSigns)
where
  /-- Separators, signs of several dots, and signs that describe others. -/
  refusedSigns : CodeRanges :=
    [(0x1680, 0x1680), (0x2024, 0x2026), (0x2028, 0x2029), (0x2488, 0x249B), (0x2FF0, 0x2FFF),
     (0x31EF, 0x31EF), (0x33C2, 0x33C2), (0x33C7, 0x33C7), (0x33D8, 0x33D8), (0xFE12, 0xFE12),
     (0xFE19, 0xFE19), (0xFE30, 0xFE30), (0xFE52, 0xFE52), (0xFFFC, 0xFFFD), (0x1F100, 0x1F100)]

/-- The member of a run that a code is. -/
def inRun? {α : Type} (code first : Nat) (members : List α) : Option α :=
  if first ≤ code then members[code - first]? else none

/-- What a domain spells for a mere form of other characters.  The wide forms of ASCII characters
come in the order of those. -/
def formSpelling? (code : Nat) : Option (List Char) :=
  if 0xFF01 ≤ code ∧ code ≤ 0xFF5E then some [(Char.ofNat (code - 0xFEE0)).toLower]
  else
    (characterSpellings.findSome? fun (first, targets) =>
      (inRun? code first targets.toList).map ([·])) <|>
    (textSpellings.findSome? fun (first, texts) => (inRun? code first texts).map String.toList)

/-- What a domain spells for a character.  The small sigma at the end of a word stays what it
is. -/
def spelling (c : Char) : List Char :=
  if c.toNat < 0x80 then [c.toLower]
  else if ignored.has c.toNat then []
  else
    match formSpelling? c.toNat with
    | some text => text
    | none => if c = 'ς' then [c] else [Char.ofNat (foldCode c.toNat)]

/-- The normal form of a text. -/
def composed (text : List Char) : List Char :=
  (normalForm (text.map Char.toNat)).map Char.ofNat

/-- A text in the spelling of domains, unless no domain has some character of it. -/
def respelled? (text : List Char) : Option (List Char) :=
  if text.any (refused.has ·.toNat) then none else some (composed (text.flatMap spelling))

/-- Whether a text is in the spelling of domains. -/
def isSpelled (text : List Char) : Bool :=
  text.all (fun c => !refused.has c.toNat && spelling c == [c]) && composed text == text

end UiStream.Url
