import UiStream.Stream.Fence

/-!
# Patches in streams of text parts

Here a stream is a sequence of parts: texts, each begun, continued in small deltas and ended,
and parts of other kinds.  `PartFilter` takes the patches out of the texts as parts of their own
and lets the prose through.

Prose goes on at once.  Only a line that might be a patch is held until its line break comes:
one whose first character is a brace or a backtick, and every line inside a fence.  Spaces and
tabs at the start of a line are held until its first character decides.
-/

namespace UiStream

/-- A part of a stream. -/
inductive StreamPart where
  | textStart (id : String)
  | textDelta (id delta : String)
  | textEnd (id : String)
  | patch (patch : Patch)
  | other (value : Json)
deriving DecidableEq, Repr

/-- What a delta gives out: prose or a patch. -/
inductive Piece where
  | prose (text : List Char)
  | patch (patch : Patch)
deriving DecidableEq, Repr

namespace Piece

/-- Prose pieces that follow one another made one, and empty ones left out. -/
def merge : List Piece → List Piece
  | [] => []
  | .patch p :: rest => .patch p :: merge rest
  | .prose text :: rest =>
    match text, merge rest with
    | [], merged => merged
    | c :: cs, .prose later :: merged => .prose (c :: cs ++ later) :: merged
    | c :: cs, merged => .prose (c :: cs) :: merged

/-- A piece as a part of the text with the given identifier. -/
def toPart (id : String) : Piece → StreamPart
  | .prose text => .textDelta id (String.ofList text)
  | .patch p => .patch p

end Piece

/-- A filter between two parts: the fence, the held beginning of a line, and whether that
beginning is held until the line is complete. -/
structure PartFilter where
  fence : Fence := {}
  line : List Char := []
  holding : Bool := false
  atLineStart : Bool := true
  textId : String := ""
deriving DecidableEq, Repr

namespace PartFilter

/-- What a held line gives out when its line break comes. -/
def completed (line : List Char) (inside : Bool) : LineKind → List Piece
  | .patch patch => [.patch patch]
  | .blank => if inside then [] else [.prose ['\n']]
  | .text => [.prose (line ++ ['\n'])]
  | .marker | .dropped => []

/-- What a held line gives out when the text ends without a line break. -/
def unfinished (line : List Char) : LineKind → List Piece
  | .patch patch => [.patch patch]
  | .text => [.prose line]
  | .marker | .dropped | .blank => []

/-- Takes a line break. -/
def lineBreak (filter : PartFilter) : List Piece × PartFilter :=
  let next := { filter with line := [], atLineStart := true }
  if filter.holding then
    let (kind, fence) := filter.fence.read filter.line
    (completed filter.line fence.inside kind, { next with fence, holding := false })
  else if filter.fence.inside then ([], next)
  else ([.prose (filter.line ++ ['\n'])], next)

/-- Takes a character that is not a line break. -/
def character (filter : PartFilter) (c : Char) : List Piece × PartFilter :=
  if filter.holding then ([], { filter with line := filter.line ++ [c] })
  else if !filter.atLineStart then ([.prose [c]], filter)
  else if c = ' ' || c = '\t' then ([], { filter with line := filter.line ++ [c] })
  else if filter.fence.inside || c = '{' || c = '`' then
    ([], { filter with line := filter.line ++ [c], holding := true, atLineStart := false })
  else ([.prose (filter.line ++ [c])], { filter with line := [], atLineStart := false })

/-- Takes the next character of a text. -/
def step (filter : PartFilter) (c : Char) : List Piece × PartFilter :=
  if c = '\n' then filter.lineBreak else filter.character c

/-- Takes characters in order. -/
def feed : PartFilter → List Char → List Piece × PartFilter
  | filter, [] => ([], filter)
  | filter, c :: rest =>
    let (now, filter) := filter.step c
    let (later, filter) := feed filter rest
    (now ++ later, filter)

/-- Gives out the held line. -/
def flushLine (filter : PartFilter) : List Piece × PartFilter :=
  let next := { filter with line := [], holding := false }
  if filter.line.isEmpty then ([], filter)
  else if filter.holding then
    let (kind, fence) := filter.fence.read filter.line
    (unfinished filter.line kind, { next with fence })
  else if filter.fence.inside then ([], next)
  else ([.prose filter.line], next)

/-- Pieces as parts of the current text. -/
def emit (filter : PartFilter) (pieces : List Piece) : List StreamPart :=
  (Piece.merge pieces).map (Piece.toPart filter.textId)

/-- Gives out what is held. -/
def flush (filter : PartFilter) : List StreamPart × PartFilter :=
  let (pieces, next) := filter.flushLine
  (filter.emit pieces, next)

/-- Takes a part of the stream. -/
def transform (filter : PartFilter) : StreamPart → List StreamPart × PartFilter
  | .textStart id => ([.textStart id], { filter with textId := id, atLineStart := true })
  | .textDelta id delta =>
    let filter := { filter with textId := id }
    let (pieces, next) := filter.feed delta.toList
    (filter.emit pieces, next)
  | .textEnd id =>
    let (parts, next) := filter.flush
    (parts ++ [.textEnd id], { next with atLineStart := true })
  | part => ([part], filter)

end PartFilter

end UiStream
