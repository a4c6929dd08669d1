import UiStream.Regex.Escape

/-!
# Sets in brackets

Brackets in a pattern list characters, ranges, named sets and further brackets, and combine such
lists by `&&`, `--` and `~~` from left to right.  Every step of the reader takes at least one
character, so the length of the text bounds the number of steps.
-/

namespace UiStream

/-- How two lists in brackets are combined. -/
inductive SetOperator where
  | inter
  | minus
  | apart
deriving DecidableEq, Repr

/-- What an operator makes of two sets. -/
def SetOperator.apply : SetOperator → CodeRanges → CodeRanges → CodeRanges
  | inter => .inter
  | minus => .minus
  | apart => .apart

/-- A set that a part of brackets stands for, and how deep brackets, operators and lists of several
items are nested in that part. -/
structure NestedSet where
  set : CodeRanges
  depth : Nat := 0
deriving DecidableEq, Repr

/-- Brackets that are still open: the operation that waits for its right side, and the items that
have been listed since. -/
structure OpenBracket where
  negated : Bool
  left? : Option (NestedSet × SetOperator) := none
  listed : List NestedSet := []
deriving DecidableEq, Repr

namespace OpenBracket

/-- Adds an item to the list. -/
def add (bracket : OpenBracket) (item : NestedSet) : OpenBracket :=
  { bracket with listed := item :: bracket.listed }

/-- What the list stands for. -/
def union (bracket : OpenBracket) : NestedSet :=
  let deepest := bracket.listed.foldl (fun depth item => max depth item.depth) 0
  { set := .unions (bracket.listed.map (·.set))
    depth := if 2 ≤ bracket.listed.length then deepest + 1 else deepest }

/-- What has been read so far. -/
def combined (flags : PatternFlags) (bracket : OpenBracket) : NestedSet :=
  let right := bracket.union
  match bracket.left? with
  | none => right
  | some (left, operator) =>
    { set := operator.apply (flags.cased left.set) (flags.cased right.set)
      depth := max left.depth right.depth + 1 }

/-- Goes on with the right side of an operation. -/
def operate (flags : PatternFlags) (operator : SetOperator) (bracket : OpenBracket) :
    OpenBracket :=
  { bracket with left? := some (bracket.combined flags, operator), listed := [] }

/-- The set of brackets that close. -/
def close (flags : PatternFlags) (bracket : OpenBracket) : NestedSet :=
  let inside := bracket.combined flags
  { set := .complIf bracket.negated (flags.cased inside.set), depth := inside.depth + 1 }

end OpenBracket

namespace Bracket

/-- The ASCII sets by name. -/
def asciiSets : List (String × CodeRanges) :=
  [("alnum", [(0x30, 0x39), (0x41, 0x5A), (0x61, 0x7A)]),
   ("alpha", [(0x41, 0x5A), (0x61, 0x7A)]),
   ("ascii", [(0, 0x7F)]),
   ("blank", [(0x9, 0x9), (0x20, 0x20)]),
   ("cntrl", [(0, 0x1F), (0x7F, 0x7F)]),
   ("digit", [(0x30, 0x39)]),
   ("graph", [(0x21, 0x7E)]),
   ("lower", [(0x61, 0x7A)]),
   ("print", [(0x20, 0x7E)]),
   ("punct", [(0x21, 0x2F), (0x3A, 0x40), (0x5B, 0x60), (0x7B, 0x7E)]),
   ("space", [(0x9, 0xD), (0x20, 0x20)]),
   ("upper", [(0x41, 0x5A)]),
   ("word", [(0x30, 0x39), (0x41, 0x5A), (0x5F, 0x5F), (0x61, 0x7A)]),
   ("xdigit", [(0x30, 0x39), (0x41, 0x46), (0x61, 0x66)])]

/-- Reads an ASCII set such as `[:alpha:]`, behind its first bracket.  A caret in front of the name
asks for the complement. -/
def readAscii? (s : List Char) : Option (CodeRanges × Bool × List Char) :=
  match s with
  | ':' :: s =>
    let (negated, s) := match s with
      | '^' :: rest => (true, rest)
      | s => (false, s)
    let name := s.takeWhile (· != ':')
    match s.drop name.length, asciiSets.lookup (String.ofList name) with
    | ':' :: ']' :: rest, some set => some (set, negated, rest)
    | _, _ => none
  | _ => none

/-- Opens brackets, behind the first of them.  Hyphens that come first stand for themselves, and so
does a closing bracket. -/
def readOpen (flags : PatternFlags) (s : List Char) : OpenBracket × List Char :=
  let (negated, s) := match flags.skip s with
    | '^' :: rest => (true, rest)
    | s => (false, s)
  match flags.span (· == '-') s with
  | ([], ']' :: rest) => ({ negated, listed := [⟨.one ']', 0⟩] }, rest)
  | (hyphens, rest) => ({ negated, listed := hyphens.map fun c => ⟨.one c, 0⟩ }, rest)

/-- Reads one item, a character or a set.  A character beyond ASCII is no byte. -/
def readItem? (flags : PatternFlags) (s : List Char) : Option (Escape × List Char) := do
  let (item, rest) ← match s with
    | '\\' :: rest => Escape.read? flags rest
    | c :: rest => some (.char c, rest)
    | [] => none
  match item with
  | .char c => if flags.unicode || c.toNat < 0x80 then some (item, rest) else none
  | item => some (item, rest)

/-- Reads an item or a range of characters. -/
def readRange? (flags : PatternFlags) (s : List Char) : Option (CodeRanges × List Char) := do
  let (first, rest) ← readItem? flags s
  let rest := flags.skip rest
  let single : Option (CodeRanges × List Char) :=
    match first with
    | .char c => some (.one c, rest)
    | .set set => some (set, rest)
    | .assertion _ => none
  match rest with
  | '-' :: behind =>
    if flags.ahead? behind = some ']' ∨ flags.ahead? behind = some '-' then single
    else
      match first, ← readItem? flags (flags.skip behind) with
      | .char first, (.char last, rest) =>
        if first ≤ last then some ([(first.toNat, last.toNat)], rest) else none
      | _, _ => none
  | _ => single

/-- Where the reader of brackets stands: the brackets around the innermost, and the text. -/
structure Reader where
  inner : OpenBracket
  outer : List OpenBracket
  rest : List Char

/-- What a step of the reader leads to. -/
inductive Step where
  | more (reader : Reader)
  | done (set : NestedSet) (rest : List Char)

/-- Reads one part of the list.  Where characters are bytes, the complement of a set is none. -/
def step (flags : PatternFlags) (reader : Reader) : Option Step :=
  let added (set : CodeRanges) (rest : List Char) : Step :=
    .more { reader with inner := reader.inner.add { set }, rest }
  let operated (operator : SetOperator) (rest : List Char) : Step :=
    .more { reader with inner := reader.inner.operate flags operator, rest }
  match flags.skip reader.rest with
  | [] => none
  | '[' :: rest =>
    match readAscii? rest with
    | some (set, negated, rest) =>
      if negated && !flags.unicode then none
      else some (added (.complIf negated (flags.cased set)) rest)
    | none =>
      let (inner, rest) := readOpen flags rest
      if inner.negated && !flags.unicode then none
      else some (.more { inner, outer := reader.inner :: reader.outer, rest })
  | ']' :: rest =>
    let set := reader.inner.close flags
    match reader.outer with
    | [] => some (.done set rest)
    | inner :: outer => some (.more { inner := inner.add set, outer, rest })
  | '&' :: '&' :: rest => some (operated .inter rest)
  | '-' :: '-' :: rest => some (operated .minus rest)
  | '~' :: '~' :: rest => some (operated .apart rest)
  | s => (readRange? flags s).map fun (set, rest) => added set rest

/-- Takes at most so many steps. -/
def run (flags : PatternFlags) : Nat → Reader → Option (NestedSet × List Char)
  | 0, _ => none
  | steps + 1, reader =>
    match step flags reader with
    | none => none
    | some (.done set rest) => some (set, rest)
    | some (.more reader) => run flags steps reader

/-- Reads a set in brackets, behind the first bracket. -/
def read? (flags : PatternFlags) (s : List Char) : Option (NestedSet × List Char) :=
  let (inner, rest) := readOpen flags s
  if inner.negated && !flags.unicode then none
  else run flags (s.length + 1) { inner, outer := [], rest }

end Bracket

end UiStream
