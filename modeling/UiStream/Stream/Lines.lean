import UiStream.Text.Split
import UiStream.Text.Utf8

/-!
# Lines of a stream

A stream arrives in pieces of text or of bytes, cut anywhere.  `LineBuffer` holds the text
behind the last line break and the bytes of an unfinished character, and gives out each line as
soon as its line break has come.
-/

namespace UiStream

/-- What has arrived of a line that is not complete: its text, and bytes that are the beginning
of a character. -/
structure LineBuffer where
  pending : List Char := []
  held : List UInt8 := []
deriving DecidableEq, Repr

namespace LineBuffer

/-- The complete lines of a text, and what stands behind its last line break. -/
def cut (text : List Char) : List (List Char) × List Char :=
  let pieces := splitOn '\n' text
  (pieces.dropLast, pieces.getLast?.getD [])

/-- Takes a piece of text.  Bytes held back stay held back. -/
def push (buffer : LineBuffer) (text : List Char) : List (List Char) × LineBuffer :=
  let (lines, pending) := cut (buffer.pending ++ text)
  (lines, { buffer with pending })

/-- Takes a piece in bytes, behind the bytes held back. -/
def pushBytes (buffer : LineBuffer) (bytes : List UInt8) : List (List Char) × LineBuffer :=
  let (text, held) := Utf8.feed buffer.held bytes
  push { buffer with held } text

/-- Everything that has arrived as text, with the bytes held back as a replacement
character. -/
def restText (buffer : LineBuffer) : List Char := buffer.pending ++ Utf8.finish buffer.held

/-- Takes out the incomplete line, if there is one. -/
def takeRest (buffer : LineBuffer) : Option (List Char) × LineBuffer :=
  let rest := buffer.restText
  (if rest.isEmpty then none else some rest, {})

end LineBuffer

end UiStream
