import UiStream.Regex.Basic

/-!
# Normal forms of regular expressions

`Regex.ofSet`, `Regex.repeated`, `Regex.ofSeq` and `Regex.ofChoice` build expressions in normal
form: a set of one character is a literal, neighbouring literals are one, sequences and choices are
flat, a choice of characters or of sets is a set, and what sequences begin with in common stands in
front of their choice.
-/

namespace UiStream

namespace Regex

/-! ## Lengths -/

/-- The number of bytes of the character with a code. -/
def codeSize (code : Nat) : Nat :=
  if code < 0x80 then 1 else if code < 0x800 then 2 else if code < 0x10000 then 3 else 4

/-- The number of bytes of a text. -/
def textSize (text : List Char) : Nat := text.foldl (fun size c => size + codeSize c.toNat) 0

mutual

/-- The number of bytes of a shortest part that is described.  An empty set in a place where it
must be passed leaves none. -/
def least? : Regex → Option Nat
  | empty | assertion _ => some 0
  | literal text => some (textSize text)
  | set s => s.head?.map fun (first, _) => codeSize first
  | times r least _ _ => (least? r).map (· * least)
  | group _ r => least? r
  | seq rs => leastOfSeq? rs
  | choice rs => leastOfChoice? rs

/-- The number of bytes of a shortest part that expressions describe one behind the other. -/
def leastOfSeq? : List Regex → Option Nat
  | [] => some 0
  | r :: rest => return (← least? r) + (← leastOfSeq? rest)

/-- The number of bytes of a shortest part that one of several expressions describes. -/
def leastOfChoice? : List Regex → Option Nat
  | [] => none
  | [r] => least? r
  | r :: rest => return min (← least? r) (← leastOfChoice? rest)

end

mutual

/-- The number of bytes of a longest part that is described, if there is a bound. -/
def most? : Regex → Option Nat
  | empty | assertion _ => some 0
  | literal text => some (textSize text)
  | set s => s.getLast?.map fun (_, last) => codeSize last
  | times r _ count? _ => return (← most? r) * (← count?)
  | group _ r => most? r
  | seq rs => mostOfSeq? rs
  | choice rs => mostOfChoice? rs

/-- The number of bytes of a longest part that expressions describe one behind the other. -/
def mostOfSeq? : List Regex → Option Nat
  | [] => some 0
  | r :: rest => return (← most? r) + (← mostOfSeq? rest)

/-- The number of bytes of a longest part that one of several expressions describes. -/
def mostOfChoice? : List Regex → Option Nat
  | [] => none
  | [r] => most? r
  | r :: rest => return max (← most? r) (← mostOfChoice? rest)

end

/-! ## Equality -/

mutual

/-- Whether two expressions are the same. -/
def same : Regex → Regex → Bool
  | empty, empty => true
  | literal a, literal b => a == b
  | set a, set b => a == b
  | assertion a, assertion b => a == b
  | times a least most? greedy, times b least' most?' greedy' =>
    least == least' && most? == most?' && greedy == greedy' && same a b
  | group n a, group m b => n == m && same a b
  | seq as, seq bs => sameAll as bs
  | choice as, choice bs => sameAll as bs
  | _, _ => false

/-- Whether two lists hold the same expressions. -/
def sameAll : List Regex → List Regex → Bool
  | [], [] => true
  | a :: as, b :: bs => same a b && sameAll as bs
  | _, _ => false

end

/-! ## Sets and repetitions -/

/-- The halves of surrogate pairs, which are no characters. -/
def surrogates : CodeRanges := [(0xD800, 0xDFFF)]

/-- The expression of one character of a set. -/
def ofSet (s : CodeRanges) : Regex :=
  match s.minus surrogates with
  | [(first, last)] => if first = last then literal [Char.ofNat first] else set [(first, last)]
  | s => set s

/-- An expression, repeated.  What describes empty parts only need not be repeated twice. -/
def repeated (r : Regex) (least : Nat) (count? : Option Nat) (greedy : Bool) : Regex :=
  let (least, count?) :=
    if r.most? = some 0 then (min least 1, some (min (count?.getD 1) 1)) else (least, count?)
  if count? = some 0 then empty
  else if least = 1 ∧ count? = some 1 then r
  else times r least count? greedy

/-! ## Sequences -/

/-- Puts an expression in front of the parts of a sequence. -/
def pushFront : Regex → List Regex → List Regex
  | empty, rs => rs
  | literal a, literal b :: rs => literal (a ++ b) :: rs
  | r, rs => r :: rs

/-- The parts of an expression that describes sequences. -/
def parts : Regex → List Regex
  | seq rs => rs
  | r => [r]

/-- Expressions one behind the other. -/
def ofSeq (rs : List Regex) : Regex :=
  match (rs.flatMap parts).foldr pushFront [] with
  | [] => empty
  | [r] => r
  | rs => seq rs

/-! ## Choices -/

/-- The alternatives of an expression. -/
def alternatives : Regex → List Regex
  | choice rs => rs
  | r => [r]

/-- The character that an expression describes, if it is a literal of one. -/
def singleChar? : Regex → Option (Nat × Nat)
  | literal [c] => some (c.toNat, c.toNat)
  | _ => none

/-- The set of an expression that is one. -/
def asSet? : Regex → Option CodeRanges
  | set s => some s
  | _ => none

/-- The parts of an expression, if it is a sequence. -/
def asSeq? : Regex → Option (List Regex)
  | seq rs => some rs
  | _ => none

/-- What two sequences begin with in common. -/
def commonStart : List Regex → List Regex → List Regex
  | a :: as, b :: bs => if same a b then a :: commonStart as bs else []
  | _, _ => []

/-- What several sequences begin with in common. -/
def commonStarts : List (List Regex) → List Regex
  | [] => []
  | first :: rest => rest.foldl commonStart first

/-- One of several expressions.  Common starts are taken out at most so many times. -/
def ofChoiceWithin : Nat → List Regex → Regex
  | 0, rs => choice rs
  | rounds + 1, rs =>
    let rs := rs.flatMap alternatives
    match rs.mapM singleChar?, rs.mapM asSet?, rs.mapM asSeq? with
    | some chars, _, _ => ofSet (.ofList chars)
    | none, some sets, _ => ofSet (.unions sets)
    | none, none, some seqs =>
      match commonStarts seqs with
      | [] => choice rs
      | start =>
        let ends := seqs.map fun parts => ofSeq (parts.drop start.length)
        ofSeq (start ++ [ofChoiceWithin rounds ends])
    | none, none, none => choice rs

mutual

/-- The number of expressions in an expression. -/
def count : Regex → Nat
  | times r _ _ _ | group _ r => count r + 1
  | seq rs | choice rs => countAll rs + 1
  | _ => 1

/-- The number of expressions in the expressions of a list. -/
def countAll : List Regex → Nat
  | [] => 0
  | r :: rest => count r + countAll rest

end

/-- One of several expressions.  Taking out a common start leaves fewer expressions, so their number
bounds how often that can be done. -/
def ofChoice (rs : List Regex) : Regex := ofChoiceWithin (countAll rs + 1) rs

/-! ## Anchors -/

mutual

/-- Whether only parts at the start of a text are described. -/
def startsText : Regex → Bool
  | assertion a => a == .textStart
  | times r least _ _ => 0 < least && startsText r
  | group _ r => startsText r
  | seq rs => startsTextSeq rs
  | choice rs => startsTextAll rs
  | _ => false

/-- Whether a sequence begins with an expression of the start of a text, perhaps behind others of
empty parts. -/
def startsTextSeq : List Regex → Bool
  | [] => false
  | r :: rest => startsText r || (r.most? == some 0 && startsTextSeq rest)

/-- Whether all alternatives begin with the start of a text. -/
def startsTextAll : List Regex → Bool
  | [] => true
  | r :: rest => startsText r && startsTextAll rest

end

mutual

/-- Whether only parts at the end of a text are described. -/
def endsText : Regex → Bool
  | assertion a => a == .textEnd
  | times r least _ _ => 0 < least && endsText r
  | group _ r => endsText r
  | seq rs => (endsTextSeq rs).1
  | choice rs => endsTextAll rs
  | _ => false

/-- Whether a sequence ends with an expression of the end of a text, perhaps in front of others of
empty parts, and whether the sequence describes empty parts only. -/
def endsTextSeq : List Regex → Bool × Bool
  | [] => (false, true)
  | r :: rest =>
    let (found, isEmpty) := endsTextSeq rest
    (found || (isEmpty && endsText r), isEmpty && r.most? == some 0)

/-- Whether all alternatives end with the end of a text. -/
def endsTextAll : List Regex → Bool
  | [] => true
  | r :: rest => endsText r && endsTextAll rest

end

end Regex

end UiStream
