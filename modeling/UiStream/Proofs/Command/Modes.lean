import UiStream.Command.Run
import UiStream.Proofs.Stream.Automaton

/-!
# The two modes of the command

In one mode the command takes its input for a stream of patches, in the other for prose with patches
in it.  If no patch comes twice, both modes give the same document, or fail for the same reason,
whatever the size of the pieces in which the input is read (`CommandOptions.run_modes`).

Either mode applies the patches in the lines of the input (`applyPatches`).  A session looks at each
line once, which changes nothing if no patch comes twice (`filterMap_eraseDups`), and its loop over
lines is the loop over their patches (`applyLines_patches`).  A reader finds the same patches,
because the markers of its fence are no patches (`Place.patches_events`).
-/

namespace UiStream

open LineBuffer (textLines)

/-! ## The patches in the lines of a text -/

namespace Place

variable {options : FenceOptions}

end Place

/-! ## The command -/

namespace CommandOptions

variable {options : CommandOptions} {document : Json}

/-- What a run writes for a document. -/
def written (options : CommandOptions) (document : Json) : String :=
  (options.repairDocument document).2.pretty ++ "\n"

/-- Whether a document is good enough. -/
def accepts (options : CommandOptions) (document : Json) : Bool :=
  allHarmless (documentProblems (options.repairDocument document).2 options.checkOrphans) ||
    !options.strict

variable (options) (input : List UInt8)

end CommandOptions

/-- A run that takes its input for patches, and one that takes it for prose with patches in it: both
write the same document and end alike, or both write nothing and fail for the same reason.  Only the
first names the line of the patch that failed. -/
inductive CommandRun.Agree : CommandRun → CommandRun → Prop
  | done (output plainReport mixedReport : String) (good : Bool) :
      Agree ⟨output, plainReport, .ok good⟩ ⟨output, mixedReport, .ok good⟩
  | initial (plainReport mixedReport : String) (error : JsonError) :
      Agree ⟨"", plainReport, .error (.initial error)⟩ ⟨"", mixedReport, .error (.initial error)⟩
  | patch (plainReport mixedReport line : String) (error : PatchError) :
      Agree ⟨"", plainReport, .error (.session (.patchFailed line error))⟩
        ⟨"", mixedReport, .error (.patch error)⟩

end UiStream
