/-
This file measures machines that read texts byte by byte. A machine is made of states, and only the
room that they take is known here. Sets of characters and choices of literals share their states
where they can.
-/

import Std.Data.HashMap
import Forms.Pattern.Bytes
import Forms.Pattern.LiteralTree
import Forms.Pattern.Shape

namespace Forms.Pattern

/-- What is known of a machine that is being built: the number of its states, the room that its
states take beyond their own size, and whether the last piece ends in a state that may lead to
several others. -/
structure Machine where
  states : Nat := 0
  extra : Nat := 0
  endsInFork : Bool := false

namespace Machine

/-- The size of a state. -/
def stateSize : Nat := 32

/-- A fork grows with each state that it leads to. -/
def linkSize : Nat := 4

/-- A state that reads one of several ranges of bytes grows with each range. -/
def rangeSize : Nat := 8

def sizeLimit : Nat := 10 * Nat.pow 2 20

def size (machine : Machine) : Nat := machine.states * stateSize + machine.extra

end Machine

/-- A step of building fails when the machine is too large. -/
abbrev Build := StateT Machine Option

namespace Build

/-- A new state has the number of states before it as its name. -/
def state (extra : Nat) : Build Nat := fun machine =>
  let grown : Machine := ⟨machine.states + 1, machine.extra + extra, false⟩
  if grown.size ≤ Machine.sizeLimit then some (machine.states, grown) else none

def states (count extra : Nat) : Build Unit := fun machine =>
  let grown : Machine := ⟨machine.states + count, machine.extra + extra, false⟩
  if grown.size ≤ Machine.sizeLimit then some ((), grown) else none

def fork (links : Nat) : Build Unit := states 1 (links * Machine.linkSize)

def link : Build Unit := fun machine =>
  some ((), { machine with extra := machine.extra + Machine.linkSize })

/-- The last piece is linked to the next one. Only a fork takes room for that. -/
def close : Build Unit := fun machine =>
  some ((), ⟨machine.states, machine.extra + if machine.endsInFork then Machine.linkSize else 0, false⟩)

/-- A loop ends in the fork that leads back to its start. -/
def endInFork : Build Unit := fun machine => some ((), { machine with endsInFork := true })

def times (piece : Build Unit) : (count : Nat) → Build Unit
  | 0, machine => some ((), machine)
  | count + 1, machine =>
      match piece machine with
      | none => none
      | some (_, grown) => times piece count grown

end Build

/-- States that read bytes are found again by what they read. The table has a fixed number of slots,
and a new state replaces the one in its slot. -/
abbrev Slots := Std.HashMap Nat (List Nat × Nat)

namespace Slots

/-- The slot of a key. Each number of the key is mixed in and spread over 64 bits. -/
def slotOf (count : Nat) (key : List Nat) : Nat :=
  (key.foldl (fun mixed number => (mixed ^^^ number.toUInt64) * 1099511628211)
    (14695981039346656037 : UInt64)).toNat % count

/-- The state of a key. It is built if its slot holds another one. -/
def share (slots : Slots) (count : Nat) (key : List Nat) (extra : Nat) : Build (Nat × Slots) :=
  let slot := slotOf count key
  match slots[slot]? with
  | some (present, state) =>
      if present = key then pure (state, slots) else build slot
  | none => build slot
where
  build (slot : Nat) : Build (Nat × Slots) := do
    let state ← Build.state extra
    pure (state, slots.insert slot (key, state))

end Slots

namespace Build

/-- The number of slots for machines that read forward. -/
def forwardSlots : Nat := 10000

/-- The number of slots for machines that read backward. -/
def backwardSlots : Nat := 1000

/-- A node reads the next byte of some sequences in order. Nodes that read the same bytes and lead to
the same nodes are one. -/
def node (target : Nat) : (depth : Nat) → Slots → List (List ByteRange) → Build (Nat × Slots)
  | 0, slots, _ => pure (target, slots)
  | depth + 1, slots, sequences => do
      let groups := sequences.splitBy fun left right => left.head? == right.head?
      let (key, slots) ← groups.foldlM (fun (key, slots) group =>
        match group.head? with
        | some (range :: rest) => do
            let (next, slots) ←
              if rest.isEmpty then pure (target, slots)
              else node target depth slots (group.map List.tail)
            pure (key ++ [range.first, range.last, next], slots)
        | _ => pure (key, slots)) (([] : List Nat), slots)
      slots.share forwardSlots key (groups.length * Machine.rangeSize)

/-- The sequence that ends before a state is read from its end to its start. -/
def chain : Slots → (next : Nat) → List ByteRange → Build Slots
  | slots, _, [] => pure slots
  | slots, next, range :: ranges => do
      let (state, slots) ← slots.share backwardSlots [next, range.first, range.last] 0
      chain slots state ranges

/-- The most bytes that a character takes. -/
def longestSequence : Nat := 4

/-- The states of a set. A set of ASCII characters is read by one state. -/
def set (direction : Direction) (set : CharSet) : Build Unit :=
  if set.staysAscii then states 2 (set.spans.length * Machine.rangeSize)
  else
    let sequences := ByteRange.sequencesOfTable set
    match direction with
    | .forward => do
        let target ← state 0
        let _ ← node target longestSequence {} sequences
        pure ()
    | .backward => do
        let _ ← state 0
        let finish ← state 0
        let _ ← sequences.foldlM (fun slots sequence => do
          let slots ← chain slots finish sequence
          link
          pure slots) ({} : Slots)
        pure ()

/-- The states and the extra room for the branches of a node up to the end of a literal. -/
def branchCost : (branches : Nat) → Nat × Nat
  | 0 => (0, 0)
  | 1 => (1, Machine.linkSize)
  | branches => (1, branches * Machine.rangeSize + Machine.linkSize)

/-- The states of a tree below a fork, when some branches up to the next end of a literal are passed. -/
def treeCost : LiteralTree → (branches : Nat) → Nat × Nat
  | .done, branches => branchCost branches
  | .accept next, branches =>
      let here := branchCost branches
      let others := treeCost next 0
      (here.1 + others.1, here.2 + Machine.linkSize + others.2)
  | .branch _ child next, branches =>
      let below := if child.isLeaf then (0, 0) else treeCost child 0
      let fork := if child.isLeaf then 0 else 1
      let others := treeCost next (branches + 1)
      (fork + below.1 + others.1, below.2 + others.2)

example : treeCost (.ofLiterals [[97, 98, 99], [97, 98, 100]]) 0 = (5, 28) := by decide +kernel

/-- The states of a choice of literals. -/
def literals (direction : Direction) (texts : List (List Char)) : Build Unit :=
  let words := texts.map bytesOf
  let tree := LiteralTree.ofLiterals <| match direction with
    | .forward => words
    | .backward => words.map List.reverse
  let cost := treeCost tree 0
  states (cost.1 + 2) cost.2

end Build

end Forms.Pattern
