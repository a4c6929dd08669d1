import UiStream.Command.Arguments
import UiStream.Json.Printer
import UiStream.Stream.Chat
import UiStream.Stream.Pieces
import UiStream.Stream.Session
import UiStream.Validation.Repair
import UiStream.Validation.Validate

/-!
# Running the command

The command reads a stream of patches, builds a document, and writes it with a report of its
problems.  In mixed mode the stream is prose with patches in it, and the prose goes to the report.

The input arrives in pieces of `chunkSize` bytes.  The two modes read them by a `Session` and by a
`ChatReader`, and neither depends on where the pieces are cut.
-/

namespace UiStream

/-- Why the command gives no document. -/
inductive CommandError where
  | initial (error : JsonError)
  | session (error : SessionError)
  | patch (error : PatchError)
deriving DecidableEq, Repr

/-- The wording of the error. -/
def CommandError.message : CommandError → String
  | initial error => "invalid --initial document: " ++ error.message
  | session error => error.message
  | patch error => error.message

/-- What a run of the command writes, and how it ends: with an error, or with whether the document
is good enough. -/
structure CommandRun where
  output : String
  report : String
  outcome : Except CommandError Bool

/-- Applies patches in order.  One that fails is passed over, or ends the run. -/
def applyPatches (onFailure : FailurePolicy) (patches : List Patch) (document : Json) :
    Except PatchError Json :=
  match onFailure with
  | .skip => .ok (patches.foldl (fun document patch => (patch.apply document).document) document)
  | .abort => (Patch.applyAll patches document).toExcept

/-- Lines, each with a line break. -/
def linesText (lines : List String) : String := String.join (lines.map (· ++ "\n"))

/-- The line that reports a problem. -/
def Problem.report (problem : Problem) : String :=
  problem.severity.name ++ "[" ++ problem.code ++ "]: " ++ problem.message

/-- The line that reports a relocation. -/
def Relocation.report (moved : Relocation) : String := "fixed: " ++ moved.message

namespace CommandOptions

/-- What a patch that fails does. -/
def onFailure (options : CommandOptions) : FailurePolicy :=
  if options.abortOnError then .abort else .skip

/-- The document at the beginning. -/
def initialDocument (options : CommandOptions) : Except CommandError Json :=
  match options.initial? with
  | none => .ok .emptyObject
  | some text => (Json.parse text).mapError .initial

/-- Builds a document from pieces of a stream of patches. -/
def compileStream (options : CommandOptions) (document : Json) (pieces : List (List UInt8)) :
    Except CommandError Json :=
  match (Session.start document { onFailure := options.onFailure }).takeAll pieces with
  | (none, session) => .ok session.document
  | (some error, _) => .error (.session error)

/-- What pieces of prose with patches hold. -/
def chatEvents (options : CommandOptions) (pieces : List (List UInt8)) : List ChatEvent :=
  let reader : ChatReader := { fence := { options := { heuristic := !options.fencedOnly } } }
  (reader.takeAll pieces).1

/-- Reads the input: the lines of its prose, and the document it builds. -/
def compile (options : CommandOptions) (input : List UInt8) :
    List String × Except CommandError Json :=
  match options.initialDocument with
  | .error error => ([], .error error)
  | .ok document =>
    let pieces := piecesOf options.chunkSize input
    if options.mixed then
      let events := options.chatEvents pieces
      ((events.filterMap ChatEvent.text?).map String.ofList,
       (applyPatches options.onFailure (events.filterMap ChatEvent.patch?) document).mapError
         .patch)
    else ([], options.compileStream document pieces)

/-- Moves misplaced fields, if that is asked for. -/
def repairDocument (options : CommandOptions) (document : Json) : List Relocation × Json :=
  if options.autoFix then repair document else ([], document)

/-- Runs the command on its input. -/
def run (options : CommandOptions) (input : List UInt8) : CommandRun :=
  match options.compile input with
  | (prose, .error error) => { output := "", report := linesText prose, outcome := .error error }
  | (prose, .ok document) =>
    let (moved, document) := options.repairDocument document
    let problems := documentProblems document options.checkOrphans
    { output := document.pretty ++ "\n"
      report := linesText (prose ++ moved.map Relocation.report ++ problems.map Problem.report)
      outcome := .ok (allHarmless problems || !options.strict) }

end CommandOptions

end UiStream
