/-!
# Sets of characters by ranges

A set of characters is a list of ranges of code points, ends included, in ascending order and with
gaps between them.  The operations on sets keep that form, and `CodeRanges.ofList` brings any list
of ranges into it.
-/

namespace UiStream

/-- Ranges of code points, ends included. -/
abbrev CodeRanges := List (Nat × Nat)

/-- The last code point. -/
def lastCode : Nat := 0x10FFFF

namespace CodeRanges

/-- Whether a code point lies in one of the ranges. -/
def has (ranges : CodeRanges) (code : Nat) : Bool :=
  ranges.any fun (first, last) => first ≤ code && code ≤ last

/-- The set of one character. -/
def one (c : Char) : CodeRanges := [(c.toNat, c.toNat)]

/-- Every code point. -/
def everything : CodeRanges := [(0, lastCode)]

/-- Joins a range with those behind it that it touches. -/
def join (first last : Nat) : CodeRanges → CodeRanges
  | [] => [(first, last)]
  | (first', last') :: rest =>
    if first' ≤ last + 1 then join first (max last last') rest
    else (first, last) :: join first' last' rest

/-- Ranges in ascending order, with those joined that touch. -/
def joined : CodeRanges → CodeRanges
  | [] => []
  | (first, last) :: rest => join first last rest

/-- Whether one range begins no later than another. -/
def isBefore (a b : Nat × Nat) : Bool := a.1 ≤ b.1

/-- The set of ranges in any order. -/
def ofList (ranges : List (Nat × Nat)) : CodeRanges := joined (ranges.mergeSort isBefore)

/-- The set of runs, each with its first and last member and the step from one to the next. -/
def ofRuns (runs : List (Nat × Nat × Nat)) : CodeRanges :=
  runs.flatMap fun (first, last, step) =>
    if step = 1 then [(first, last)]
    else (List.range ((last - first) / step + 1)).map fun i =>
      (first + i * step, first + i * step)

/-- The code points in one of two sets. -/
def union (a b : CodeRanges) : CodeRanges := joined (a.merge b isBefore)

/-- The code points from one on that are not in a set. -/
def gapsFrom (first : Nat) : CodeRanges → CodeRanges
  | [] => if first ≤ lastCode then [(first, lastCode)] else []
  | (first', last') :: rest =>
    if first < first' then (first, first' - 1) :: gapsFrom (last' + 1) rest
    else gapsFrom (last' + 1) rest

/-- The code points outside a set. -/
def compl (a : CodeRanges) : CodeRanges := gapsFrom 0 a

/-- The code points in two sets. -/
def inter (a b : CodeRanges) : CodeRanges := compl (union (compl a) (compl b))

/-- The code points in one set and not in another. -/
def minus (a b : CodeRanges) : CodeRanges := compl (union (compl a) b)

/-- The code points in exactly one of two sets. -/
def apart (a b : CodeRanges) : CodeRanges := union (minus a b) (minus b a)

/-- A set, or its complement. -/
def complIf (negated : Bool) (a : CodeRanges) : CodeRanges := if negated then compl a else a

/-- The code points in one of several sets. -/
def unions (sets : List CodeRanges) : CodeRanges := ofList sets.flatten

/-- The set in a table with one of the names that stand beside it. -/
def named? (table : List (List String × CodeRanges)) (name : String) : Option CodeRanges :=
  (table.find? fun (names, _) => names.contains name).map (·.2)

/-- Whether all members are ASCII characters. -/
def isAscii (a : CodeRanges) : Bool := a.all fun (_, last) => last < 0x80

end CodeRanges

end UiStream
