import UiStream.Regex.Automaton.Basic

/-!
# Choices of words in automata

A choice of words is built as the tree of their beginnings.  Since the order of the words counts, a
node keeps its arms in blocks: a word that ends in the node closes a block, and longer words behind
it begin another.
-/

namespace UiStream

/-- A node of the tree of words: the blocks of arms that words have closed, and the open block. -/
inductive WordTree where
  | node (closed : List (List (Nat × WordTree))) (arms : List (Nat × WordTree))

namespace WordTree

/-- The tree of no words. -/
def empty : WordTree := node [] []

/-- Whether nothing leads on from a node. -/
def isLeaf : WordTree → Bool
  | node closed arms => closed.all List.isEmpty && arms.isEmpty

/-- Changes the node behind a byte, which may be new. -/
def change (byte : Nat) (f : WordTree → WordTree) :
    List (Nat × WordTree) → List (Nat × WordTree)
  | [] => [(byte, f empty)]
  | (byte', tree) :: rest =>
    if byte = byte' then (byte, f tree) :: rest else (byte', tree) :: change byte f rest

/-- Adds a word. -/
def add : List Nat → WordTree → WordTree
  | [], node closed arms =>
    if (node closed arms).isLeaf && !closed.isEmpty then node closed arms
    else node (closed ++ [arms]) []
  | byte :: rest, node closed arms => node closed (change byte (add rest) arms)

/-- The size after a node with so many arms in each block has been added.  A block is a switch, or a
single byte, and the node is a fork to its blocks; between two blocks stands the end. -/
def addNode (blocks : List Nat) (size : AutomatonSize) : AutomatonSize :=
  let size := blocks.foldl (fun size arms =>
    match arms with
    | 0 => size
    | 1 => (size.addStates 1).addBranches 1
    | arms => (size.addSwitch arms).addBranches 1) size
  (size.addStates 1).addBranches (blocks.length - 1)

mutual

/-- Builds the nodes of a tree. -/
def build : WordTree → AutomatonSize → AutomatonSize
  | node closed arms, size =>
    if closed.all List.isEmpty && arms.isEmpty then size
    else
      addNode ((closed ++ [arms]).map List.length) (buildArms arms (buildBlocks closed size))

/-- Builds the nodes behind the arms of blocks. -/
def buildBlocks : List (List (Nat × WordTree)) → AutomatonSize → AutomatonSize
  | [], size => size
  | arms :: rest, size => buildBlocks rest (buildArms arms size)

/-- Builds the nodes behind arms. -/
def buildArms : List (Nat × WordTree) → AutomatonSize → AutomatonSize
  | [], size => size
  | (_, tree) :: rest, size => buildArms rest (build tree size)

end

end WordTree

/-- Builds a choice of words, each given by its bytes in the order in which they are read. -/
def buildWords (words : List (List Nat)) (size : AutomatonSize) : AutomatonPart :=
  let tree := words.foldl (fun tree word => tree.add word) WordTree.empty
  { size := tree.build (size.addStates 1) }

end UiStream
