/-
This file merges a choice of literals into a tree. Literals that start with the same bytes share their
branches, as long as no literal ends between them in the order of preference.
-/

namespace Forms.Pattern

/-- The ways to go on from a node, with the last ones first. A node that accepts ends a literal, and
what was there before is not changed any more. -/
inductive LiteralTree where
  | done
  | branch (byte : UInt8) (child next : LiteralTree)
  | accept (next : LiteralTree)
deriving DecidableEq, Repr

namespace LiteralTree

/-- The tree of one literal. -/
def ofLiteral : List UInt8 → LiteralTree
  | [] => .accept .done
  | byte :: rest => .branch byte (ofLiteral rest) .done

/-- A node that nothing leads on from accepts once. -/
def addEnd (tree : LiteralTree) : LiteralTree :=
  if tree = .accept .done then tree else .accept tree

/-- A literal follows the branches that were added after the last end of a literal. -/
def insert : LiteralTree → List UInt8 → LiteralTree
  | tree, [] => tree.addEnd
  | .branch other child next, byte :: rest =>
      if other = byte then .branch other (child.insert rest) next
      else .branch other child (next.insert (byte :: rest))
  | tree, byte :: rest => .branch byte (ofLiteral rest) tree
termination_by structural tree => tree

def ofLiterals (literals : List (List UInt8)) : LiteralTree := literals.foldl insert .done

/-- Nothing leads on from a leaf. -/
def isLeaf : LiteralTree → Bool
  | .done => true
  | .branch _ _ _ => false
  | .accept next => next.isLeaf

end LiteralTree

end Forms.Pattern
