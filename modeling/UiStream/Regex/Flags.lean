import UiStream.Character.CaseFolding
import UiStream.Text.Blank

/-!
# Flags of patterns

Flags say how a part of a pattern is read, and what its characters and sets stand for.

In a verbose pattern blanks do not count, nor do comments, which a number sign begins and a line
break ends.  `PatternFlags.span` collects the characters that count, and `PatternFlags.skip` passes
over the others; where the pattern is not verbose, every character counts.
-/

namespace UiStream

/-- How a part of a pattern is read. -/
structure PatternFlags where
  insensitive : Bool := false
  multiLine : Bool := false
  dotAll : Bool := false
  frugal : Bool := false
  unicode : Bool := true
  crlf : Bool := false
  verbose : Bool := false
deriving DecidableEq, Repr

namespace PatternFlags

/-- Sets a flag by its letter. -/
def set? (flags : PatternFlags) (letter : Char) (on : Bool) : Option PatternFlags :=
  match letter with
  | 'i' => some { flags with insensitive := on }
  | 'm' => some { flags with multiLine := on }
  | 's' => some { flags with dotAll := on }
  | 'U' => some { flags with frugal := on }
  | 'u' => some { flags with unicode := on }
  | 'R' => some { flags with crlf := on }
  | 'x' => some { flags with verbose := on }
  | _ => none

/-! ## Characters that do not count -/

/-- Collects characters that pass a test, inside or outside a comment, and gives the text from the
first on that counts and fails it. -/
def spanFrom (flags : PatternFlags) (accepts : Char → Bool) (comment : Bool) :
    List Char → List Char × List Char
  | [] => ([], [])
  | c :: rest =>
    if comment then spanFrom flags accepts (c != '\n') rest
    else if flags.verbose && isBlank c then spanFrom flags accepts false rest
    else if flags.verbose && c == '#' then spanFrom flags accepts true rest
    else if accepts c then
      let (taken, rest) := spanFrom flags accepts false rest
      (c :: taken, rest)
    else ([], c :: rest)

/-- The characters at the start of a text that pass a test, and the text behind them. -/
def span (flags : PatternFlags) (accepts : Char → Bool) (s : List Char) : List Char × List Char :=
  flags.spanFrom accepts false s

/-- A text from the first character on that counts. -/
def skip (flags : PatternFlags) (s : List Char) : List Char := (flags.span (fun _ => false) s).2

/-- The character that is taken for the next one when a range may begin.  It is the next one that
counts, but of a comment in front of it only the number sign is passed over. -/
def ahead? (flags : PatternFlags) (s : List Char) : Option Char :=
  if flags.verbose then
    let beyond := match s.dropWhile isBlank with
      | '#' :: rest => rest.dropWhile isBlank
      | rest => rest
    beyond.head? <|> s.head?
  else s.head?

/-! ## Case -/

/-- A set, with the case variants of its members if case does not matter. -/
def cased (flags : PatternFlags) (set : CodeRanges) : CodeRanges :=
  if !flags.insensitive then set else if flags.unicode then set.cased else set.asciiCased

end PatternFlags

end UiStream
