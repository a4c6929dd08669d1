import UiStream.Stream.PatchLine

/-!
# Fences around patches

Patches may come between two marker lines in the middle of prose.  `Fence.read` says what a line
is, given whether the fence is open: a line that begins with the opening marker opens it, a line
that is the closing marker closes it, and inside only patches count.  Outside, a line that is a
patch counts as one only if `FenceOptions.heuristic` says so.
-/

namespace UiStream

/-- The markers of a fence, and whether a patch may stand outside one. -/
structure FenceOptions where
  opening : String := "```spec"
  closing : String := "```"
  heuristic : Bool := true
deriving DecidableEq, Repr

/-- What a line of a stream with prose is. -/
inductive LineKind where
  | marker
  | patch (patch : Patch)
  | dropped
  | blank
  | text
deriving DecidableEq, Repr

/-- A fence that is open or not. -/
structure Fence where
  options : FenceOptions := {}
  inside : Bool := false
deriving DecidableEq, Repr

namespace Fence

/-- A trimmed line opens the fence. -/
def opens (options : FenceOptions) (line : List Char) : Bool :=
  options.opening.toList.isPrefixOf line

/-- A trimmed line closes the fence. -/
def closes (options : FenceOptions) (line : List Char) : Bool :=
  line == options.closing.toList

/-- What a line is, and the fence after it. -/
def read (fence : Fence) (line : List Char) : LineKind × Fence :=
  let line := trim line
  if !fence.inside && opens fence.options line then (.marker, { fence with inside := true })
  else if fence.inside && closes fence.options line then
    (.marker, { fence with inside := false })
  else if line.isEmpty then (.blank, fence)
  else if fence.inside then
    match patchOfLine? line with
    | some patch => (.patch patch, fence)
    | none => (.dropped, fence)
  else if fence.options.heuristic then
    match patchOfLine? line with
    | some patch => (.patch patch, fence)
    | none => (.text, fence)
  else (.text, fence)

end Fence

end UiStream
