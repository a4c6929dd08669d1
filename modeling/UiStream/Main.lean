import UiStream.Command.Run

/-!
# The command

Reads a stream of patches from the standard input and writes the document that it builds to the
standard output, and the report to the standard error.  The status is zero for a document that is
good enough.
-/

open UiStream

/-- What the command is for, and its names. -/
def helpText : String :=
  "Builds an interface specification from a stream of patches.\n\n" ++
  "Usage: ui-stream [OPTIONS]\n\nOptions:\n" ++
  String.join (ArgumentName.names.map fun (name, _) => "      --" ++ name ++ "\n")

/-- The name and version of the command. -/
def versionText : String := "ui-stream 0.1.0\n"

/-- What is wrong with the arguments. -/
def UiStream.UsageFault.message : UsageFault → String
  | help => helpText
  | version => versionText
  | unknown argument => "error: unexpected argument " ++ quoted argument ++ "\n"
  | surplusValue name => "error: no value is expected for --" ++ name ++ "\n"
  | missingValue .chunkSize => "error: a value is required for --chunk-size\n"
  | missingValue .initial => "error: a value is required for --initial\n"
  | malformedValue _ value => "error: invalid value " ++ quoted value ++ " for --chunk-size\n"
  | repeated _ => "error: an argument is given more than once\n"
  | fencedWithoutMixed => "error: --fenced-only requires --mixed\n"

/-- Reads a stream to its end. -/
partial def readAll (stream : IO.FS.Stream) (bytes : ByteArray) : IO ByteArray := do
  let piece ← stream.read 4096
  if piece.isEmpty then return bytes else readAll stream (bytes ++ piece)

/-- Runs the command. -/
def main (arguments : List String) : IO UInt32 := do
  match CommandOptions.ofArguments arguments with
  | .error .help =>
    IO.print helpText
    return 0
  | .error .version =>
    IO.print versionText
    return 0
  | .error fault =>
    IO.eprint fault.message
    return 2
  | .ok options =>
    let run := options.run (← readAll (← IO.getStdin) ByteArray.empty).toList
    IO.eprint run.report
    match run.outcome with
    | .error error =>
      IO.eprintln ("Error: " ++ error.message)
      return 1
    | .ok good =>
      IO.print run.output
      return if good then 0 else 1
