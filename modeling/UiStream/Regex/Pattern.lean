import UiStream.Regex.Bracket
import UiStream.Regex.Normal

/-!
# Patterns

`NestedRegex.ofPattern?` reads a regular expression from the text of a pattern.  Groups may be named
and may set flags; repetitions may ask to be short, which makes no difference to whether a text
is described.  Look-around and references to groups are no part of the language, and a pattern
whose parts are nested too deep is refused.

The reader keeps the groups that are still open on a stack.  Each of its steps takes at least
one character of the pattern, so the length of the pattern bounds the number of steps.
-/

namespace UiStream

/-- An expression that a part of a pattern stands for, and how deep repetitions, groups, brackets,
and sequences and choices of several parts are nested in that part. -/
structure NestedRegex where
  regex : Regex
  depth : Nat := 0
deriving Repr

namespace NestedRegex

/-- How deep parts of a pattern may be nested. -/
def depthLimit : Nat := 250

/-- A part around others, unless it is too deep. -/
def around? (regex : Regex) (inside : List NestedRegex) : Option NestedRegex :=
  let depth := inside.foldl (fun depth part => max depth part.depth) 0 + 1
  if depth ≤ depthLimit then some { regex, depth } else none

/-- Parts one behind the other. -/
def ofSeq? : List NestedRegex → Option NestedRegex
  | [part] => some part
  | [] => some { regex := .empty }
  | parts => around? (.ofSeq (parts.map (·.regex))) parts

/-- One of several parts. -/
def ofChoice? : List NestedRegex → Option NestedRegex
  | [part] => some part
  | parts => around? (.ofChoice (parts.map (·.regex))) parts

end NestedRegex

/-- A part of a sequence: an expression, or a change of flags, which cannot be repeated. -/
inductive PatternItem where
  | expression (part : NestedRegex)
  | flagChange
deriving Repr

/-- A change of flags is an empty part. -/
def PatternItem.part : PatternItem → NestedRegex
  | expression part => part
  | flagChange => { regex := .empty }

/-- A group that is still open: the flags to return to, the number of what it keeps, the
alternatives that are complete, and the items of the last one, both in reverse. -/
structure OpenGroup where
  outerFlags : PatternFlags
  number? : Option Nat := none
  alternatives : List NestedRegex := []
  items : List PatternItem := []
deriving Repr

namespace OpenGroup

/-- The last alternative. -/
def last? (group : OpenGroup) : Option NestedRegex :=
  NestedRegex.ofSeq? (group.items.reverse.map PatternItem.part)

/-- What stands between the parentheses of a group. -/
def inside? (group : OpenGroup) : Option NestedRegex := do
  NestedRegex.ofChoice? ((← group.last?) :: group.alternatives).reverse

/-- The expression of a group that closes. -/
def close? (group : OpenGroup) : Option NestedRegex := do
  let inside ← group.inside?
  let regex : Regex := match group.number? with
    | some number => .group number inside.regex
    | none => inside.regex
  NestedRegex.around? regex [inside]

/-- Begins another alternative. -/
def another? (group : OpenGroup) : Option OpenGroup := do
  some { group with alternatives := (← group.last?) :: group.alternatives, items := [] }

/-- Adds an item. -/
def add (group : OpenGroup) (item : PatternItem) : OpenGroup :=
  { group with items := item :: group.items }

end OpenGroup

/-- Where the reader of a pattern stands. -/
structure PatternReader where
  inner : OpenGroup := { outerFlags := {} }
  outer : List OpenGroup := []
  flags : PatternFlags := {}
  names : List (List Char) := []
  groups : Nat := 0
  rest : List Char
deriving Repr

namespace PatternReader

/-- Adds an expression and goes on with the rest. -/
def push (reader : PatternReader) (part : NestedRegex) (rest : List Char) : PatternReader :=
  { reader with inner := reader.inner.add (.expression part), rest }

/-- The expression of a character. -/
def literal (flags : PatternFlags) (c : Char) : Regex := .ofSet (flags.cased (.one c))

/-- Any character, or any that ends no line. -/
def anyChar? (flags : PatternFlags) : Option Regex :=
  if !flags.unicode then none
  else if flags.dotAll then some (.ofSet .everything)
  else if flags.crlf then some (.ofSet (.compl (.unions [.one '\r', .one '\n'])))
  else some (.ofSet (.compl (.one '\n')))

/-- The assertion of a caret. -/
def caret (flags : PatternFlags) : Assertion :=
  if !flags.multiLine then .textStart else if flags.crlf then .lineStartCrlf else .lineStart

/-- The assertion of a dollar sign. -/
def dollar (flags : PatternFlags) : Assertion :=
  if !flags.multiLine then .textEnd else if flags.crlf then .lineEndCrlf else .lineEnd

/-! ## Repetitions -/

/-- Repeats the last item.  A question mark behind a repetition belongs to it. -/
def again? (reader : PatternReader) (least : Nat) (most? : Option Nat) (rest : List Char) :
    Option PatternReader :=
  let (short, rest) := match rest with
    | '?' :: rest => (true, rest)
    | rest => (false, rest)
  match reader.inner.items with
  | .expression part :: items => do
    let greedy := short == reader.flags.frugal
    let part ← NestedRegex.around? (part.regex.repeated least most? greedy) [part]
    some { reader with inner := { reader.inner with items := .expression part :: items }, rest }
  | _ => none

/-- Reads a number of at most 32 bits, with blanks around it. -/
def readNumber? (flags : PatternFlags) (s : List Char) : Option (Nat × List Char) :=
  let (digits, rest) := flags.span Char.isDigit ((flags.skip s).dropWhile isBlank)
  let n := digits.foldl (fun n c => n * 10 + (c.toNat - '0'.toNat)) 0
  if digits.isEmpty || n ≥ 0x100000000 then none
  else some (n, flags.skip (rest.dropWhile isBlank))

/-- Reads the numbers of a repetition in braces, behind the first brace. -/
def readCounts? (flags : PatternFlags) (s : List Char) :
    Option (Nat × Option Nat × List Char) := do
  let (least, rest) ← readNumber? flags s
  match rest with
  | '\x7d' :: rest => some (least, some least, flags.skip rest)
  | ',' :: rest =>
    match flags.skip rest with
    | '\x7d' :: rest => some (least, none, flags.skip rest)
    | rest =>
      match ← readNumber? flags rest with
      | (most, '\x7d' :: rest) =>
        if least ≤ most then some (least, some most, flags.skip rest) else none
      | _ => none
  | _ => none

/-! ## Groups -/

/-- Opens a group. -/
def openGroup (reader : PatternReader) (number? : Option Nat) (flags : PatternFlags)
    (rest : List Char) : PatternReader :=
  { reader with
    inner := { outerFlags := reader.flags, number? }
    outer := reader.inner :: reader.outer
    flags
    rest }

/-- Opens a group that keeps what it describes. -/
def openKept (reader : PatternReader) (rest : List Char) : PatternReader :=
  let number := reader.groups + 1
  { reader with groups := number }.openGroup (some number) reader.flags rest

/-- Whether a character may stand in the name of a group. -/
def isNameChar (first : Bool) (c : Char) : Bool :=
  c == '_' || CharProperty.alphabetic.has c.toNat ||
    (!first && (c == '.' || c == '[' || c == ']' || CategoryGroup.number.has c.toNat))

/-- Whether a text is the name of a group. -/
def isName : List Char → Bool
  | [] => false
  | c :: rest => isNameChar true c && rest.all (isNameChar false)

/-- Opens a group with a name, behind the bracket before the name. -/
def openNamed? (reader : PatternReader) (s : List Char) : Option PatternReader :=
  let name := s.takeWhile (· != '>')
  match s.drop name.length with
  | _ :: rest =>
    if isName name && !reader.names.contains name then
      some ({ reader with names := name :: reader.names }.openKept rest)
    else none
  | [] => none

/-- Reads flags up to the colon or parenthesis behind them.  A hyphen turns off those behind it.
No letter comes twice, and some letter follows the hyphen. -/
def readFlags? (flags : PatternFlags) (seen : List Char) (on : Bool) :
    List Char → Option (PatternFlags × List Char × List Char)
  | [] => none
  | c :: rest =>
    if c == ':' || c == ')' then
      if seen.head? == some '-' then none else some (flags, seen, c :: rest)
    else if seen.contains c then none
    else if c == '-' then readFlags? flags (c :: seen) false rest
    else (flags.set? c on).bind fun flags => readFlags? flags (c :: seen) on rest

/-- Reads what follows the parenthesis that opens a group. -/
def openAny? (reader : PatternReader) (s : List Char) : Option PatternReader :=
  match reader.flags.skip s with
  | '?' :: '=' :: _ | '?' :: '!' :: _ | '?' :: '<' :: '=' :: _ | '?' :: '<' :: '!' :: _ => none
  | '?' :: 'P' :: '<' :: rest | '?' :: '<' :: rest => reader.openNamed? rest
  | '?' :: rest => do
    let (flags, seen, rest) ← readFlags? reader.flags [] true rest
    match rest with
    | ':' :: rest => some (reader.openGroup none flags rest)
    | _ :: rest =>
      if seen.isEmpty then none
      else some { reader with flags, inner := reader.inner.add .flagChange, rest }
    | [] => none
  | s => some (reader.openKept s)

/-- Closes the innermost group. -/
def closeGroup? (reader : PatternReader) (rest : List Char) : Option PatternReader :=
  match reader.outer with
  | [] => none
  | inner :: outer => do
    some { reader with
      inner := inner.add (.expression (← reader.inner.close?))
      outer
      flags := reader.inner.outerFlags
      rest }

/-! ## The reader -/

/-- The expression of an escape. -/
def escapeRegex (flags : PatternFlags) : Escape → Regex
  | .char c => literal flags c
  | .set set => .ofSet set
  | .assertion a => .assertion a

/-- Reads one part of a pattern, whose first character is given. -/
def step? (reader : PatternReader) (c : Char) (rest : List Char) : Option PatternReader :=
  let flags := reader.flags
  match c with
  | '(' => reader.openAny? rest
  | ')' => reader.closeGroup? rest
  | '|' => do some { reader with inner := ← reader.inner.another?, rest }
  | '[' =>
    (Bracket.read? flags rest).map fun (set, rest) =>
      reader.push { regex := .ofSet set.set, depth := set.depth } rest
  | '?' => reader.again? 0 (some 1) rest
  | '*' => reader.again? 0 none rest
  | '+' => reader.again? 1 none rest
  | '\x7b' => do
    let (least, most?, rest) ← readCounts? flags rest
    reader.again? least most? rest
  | '\\' =>
    (Escape.read? flags rest).map fun (escape, rest) =>
      reader.push { regex := escapeRegex flags escape } rest
  | '.' => (anyChar? flags).map fun regex => reader.push { regex } rest
  | '^' => some (reader.push { regex := .assertion (caret flags) } rest)
  | '$' => some (reader.push { regex := .assertion (dollar flags) } rest)
  | c => some (reader.push { regex := literal flags c } rest)

/-- Takes at most so many steps. -/
def run? : Nat → PatternReader → Option PatternReader
  | 0, _ => none
  | steps + 1, reader =>
    match reader.flags.skip reader.rest with
    | [] => some reader
    | c :: rest => (reader.step? c rest).bind (run? steps)

end PatternReader

/-- The regular expression of a pattern, if it is one. -/
def NestedRegex.ofPattern? (pattern : List Char) : Option NestedRegex := do
  let reader ← PatternReader.run? (pattern.length + 1) { rest := pattern }
  let whole ← reader.inner.inside?
  if reader.outer.isEmpty && whole.depth ≤ depthLimit then some whole else none

end UiStream
