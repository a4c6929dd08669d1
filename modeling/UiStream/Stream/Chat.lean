import UiStream.Stream.Fence
import UiStream.Stream.Lines

/-!
# Prose with patches in it

`ChatReader` reads a stream in which prose and patches alternate, and reports each line as a
patch or as text, in order.  Markers, blank lines and what a fence holds besides patches are
not reported.
-/

namespace UiStream

/-- A line that a reader reports. -/
inductive ChatEvent where
  | patch (patch : Patch)
  | text (line : List Char)
deriving DecidableEq, Repr

/-- The patch of an event. -/
def ChatEvent.patch? : ChatEvent → Option Patch
  | patch p => some p
  | text _ => none

/-- The text of an event. -/
def ChatEvent.text? : ChatEvent → Option (List Char)
  | patch _ => none
  | text line => some line

/-- A reader of prose with patches. -/
structure ChatReader where
  fence : Fence := {}
  buffer : LineBuffer := {}
deriving DecidableEq, Repr

namespace ChatReader

/-- What a reader reports of a line of some kind. -/
def eventOf (line : List Char) : LineKind → Option ChatEvent
  | .patch patch => some (.patch patch)
  | .text => some (.text line)
  | .marker | .dropped | .blank => none

/-- The events of complete lines, and the fence behind them. -/
def readLines : Fence → List (List Char) → List ChatEvent × Fence
  | fence, [] => ([], fence)
  | fence, line :: rest =>
    let (kind, fence) := fence.read line
    let (later, fence) := readLines fence rest
    ((eventOf line kind).toList ++ later, fence)

/-- Takes the lines that a piece of the stream has completed. -/
def process (reader : ChatReader) (lines : List (List Char)) : List ChatEvent × ChatReader :=
  let (events, fence) := readLines reader.fence lines
  (events, { reader with fence })

/-- Takes a piece of text. -/
def push (reader : ChatReader) (text : List Char) : List ChatEvent × ChatReader :=
  let (lines, buffer) := reader.buffer.push text
  process { reader with buffer } lines

/-- Takes a piece in bytes. -/
def pushBytes (reader : ChatReader) (bytes : List UInt8) : List ChatEvent × ChatReader :=
  let (lines, buffer) := reader.buffer.pushBytes bytes
  process { reader with buffer } lines

/-- Takes the last, incomplete line. -/
def flush (reader : ChatReader) : List ChatEvent × ChatReader :=
  let (rest, buffer) := reader.buffer.takeRest
  process { reader with buffer } rest.toList

/-- Takes pieces in bytes and then the last line. -/
def takeAll (reader : ChatReader) : List (List UInt8) → List ChatEvent × ChatReader
  | [] => reader.flush
  | piece :: rest =>
    let (events, reader) := reader.pushBytes piece
    let (later, reader) := takeAll reader rest
    (events ++ later, reader)

end ChatReader

end UiStream
