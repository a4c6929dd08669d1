import UiStream.Patch.Apply
import UiStream.Stream.Lines
import UiStream.Stream.PatchLine

/-!
# Building a document from a stream of patches

A session holds the document built so far.  Each call takes a piece of the stream, applies the
patches in the lines it completes and answers with the document.  Lines that are no patch are
passed over, and so are, unless told otherwise, lines that came before.

A patch that fails is passed over or ends the session, as `FailurePolicy` says.  A session that
has ended answers nothing but `SessionError.aborted` until it is reset.
-/

namespace UiStream

/-- What a patch that fails does to a session. -/
inductive FailurePolicy where
  | skip
  | abort
deriving DecidableEq, Repr

/-- How a session treats its lines. -/
structure SessionOptions where
  dedupe : Bool := true
  onFailure : FailurePolicy := .skip
deriving DecidableEq, Repr

/-- Why a session does not answer. -/
inductive SessionError where
  | patchFailed (line : String) (error : PatchError)
  | aborted
deriving DecidableEq, Repr

/-- The wording of the error. -/
def SessionError.message : SessionError → String
  | patchFailed line error => "patch line " ++ quoted line ++ " failed: " ++ error.message
  | aborted =>
    "compilation was aborted by an earlier patch failure; reset the compiler to continue"

/-- A document under construction. -/
structure Session where
  document : Json
  options : SessionOptions := {}
  buffer : LineBuffer := {}
  seen : List (List Char) := []
  patches : List Patch := []
  version : Nat := 0
  isAborted : Bool := false
deriving DecidableEq, Repr

/-- What a session answers: the document, and the patches this call applied. -/
structure SessionUpdate where
  document : Json
  applied : List Patch
deriving DecidableEq, Repr

namespace Session

/-- A session at its beginning. -/
def start (document : Json) (options : SessionOptions) : Session := { document, options }

/-- Where a call stands between two lines. -/
structure Progress where
  document : Json
  seen : List (List Char)
  applied : List Patch := []
  failure : Option SessionError := none

/-- Takes one line. -/
def takeLine (options : SessionOptions) (progress : Progress) (line : List Char) : Progress :=
  let line := trim line
  if line.isEmpty || (options.dedupe && progress.seen.contains line) then progress
  else
    let progress :=
      if options.dedupe then { progress with seen := line :: progress.seen } else progress
    match patchOfLine? line with
    | none => progress
    | some patch =>
      let after := patch.apply progress.document
      let progress := { progress with document := after.document }
      match after.error with
      | none => { progress with applied := progress.applied ++ [patch] }
      | some error =>
        match options.onFailure with
        | .skip => progress
        | .abort => { progress with failure := some (.patchFailed (String.ofList line) error) }

/-- Takes lines in order, up to one that ends the session. -/
def takeLines (options : SessionOptions) : Progress → List (List Char) → Progress
  | progress, [] => progress
  | progress, line :: rest =>
    let progress := takeLine options progress line
    match progress.failure with
    | none => takeLines options progress rest
    | some _ => progress

/-- Takes the lines a call has completed.  The version counts the calls that applied a patch. -/
def process (session : Session) (lines : List (List Char)) :
    Except SessionError SessionUpdate × Session :=
  let progress := takeLines session.options ⟨session.document, session.seen, [], none⟩ lines
  let session := { session with
    document := progress.document
    seen := progress.seen
    patches := session.patches ++ progress.applied
    version := if progress.applied.isEmpty then session.version else session.version + 1
    isAborted := progress.failure.isSome }
  match progress.failure with
  | none => (.ok ⟨session.document, progress.applied⟩, session)
  | some error => (.error error, session)

/-- Runs a call on a session that has not ended. -/
def whenLive {α : Type} (session : Session)
    (call : Except SessionError α × Session) : Except SessionError α × Session :=
  if session.isAborted then (.error .aborted, session) else call

/-- Takes a piece of text. -/
def push (session : Session) (text : List Char) : Except SessionError SessionUpdate × Session :=
  session.whenLive <|
    let (lines, buffer) := session.buffer.push text
    process { session with buffer } lines

/-- Takes a piece in bytes. -/
def pushBytes (session : Session) (bytes : List UInt8) :
    Except SessionError SessionUpdate × Session :=
  session.whenLive <|
    let (lines, buffer) := session.buffer.pushBytes bytes
    process { session with buffer } lines

/-- Takes the last, incomplete line, and answers with the document. -/
def result (session : Session) : Except SessionError Json × Session :=
  session.whenLive <|
    let (rest, buffer) := session.buffer.takeRest
    let (answer, session) := process { session with buffer } rest.toList
    (answer.map (·.document), session)

/-- Takes pieces in bytes and then the last line, up to a call that fails: the error of that call,
and the session after it. -/
def takeAll (session : Session) : List (List UInt8) → Option SessionError × Session
  | [] =>
    match session.result with
    | (.ok _, session) => (none, session)
    | (.error error, session) => (some error, session)
  | piece :: rest =>
    match session.pushBytes piece with
    | (.ok _, session) => takeAll session rest
    | (.error error, session) => (some error, session)

/-- Begins afresh with another document.  The options stay, and the version counts on. -/
def reset (session : Session) (document : Json) : Session :=
  { document, options := session.options, version := session.version }

end Session

/-- Applies the patches in the lines of a whole text, up to the first that fails. -/
def compileText (text : List Char) (document : Json) : Except PatchError Json :=
  (Patch.applyAll ((splitOn '\n' text).filterMap patchOfLine?) document).toExcept

end UiStream
