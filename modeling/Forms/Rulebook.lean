/-
This file holds rulebooks. A rulebook lists the checks of every field of a form under the path of the
field. Paths below an array are templates.
-/

import Forms.Check.Basic
import Forms.Schema.Basic

namespace Forms

/-- A rule is a check with the declaration that it was built from. -/
structure Rule where
  declaration : Declaration
  check : Check

/-- Every field has an entry, also a field without rules. So feedback can name every field. -/
structure Rulebook where
  entries : OrderedMap Path (List Rule)

namespace Rulebook

def empty : Rulebook := ⟨.empty⟩

/-- The last rules that are given for a path are the rules of the path. -/
def insert (book : Rulebook) (path : Path) (rules : List Rule) : Rulebook :=
  ⟨book.entries.insert path rules⟩

def toList (book : Rulebook) : List (Path × List Rule) := book.entries.entries

def paths (book : Rulebook) : List Path := book.entries.keys

def get? (book : Rulebook) (path : Path) : Option (List Rule) := book.entries.get? path

@[simp] theorem get?_insert (book : Rulebook) (path : Path) (rules : List Rule) (other : Path) :
    (book.insert path rules).get? other = if other = path then some rules else book.get? other := by
  simp [insert, get?]

/-- The entry that governs a path is its own entry, or the first template that it is an instance
of. -/
def resolve? (book : Rulebook) (path : Path) : Option (Path × List Rule) :=
  match book.get? path with
  | some rules => some (path, rules)
  | none => book.toList.find? fun entry => entry.1.isTemplate && path.isInstanceOf entry.1

/-- A path that no entry governs names no field. -/
def accepts (book : Rulebook) (path : Path) : Bool := (book.resolve? path).isSome

/-- The number of paths. -/
def size (book : Rulebook) : Nat := book.entries.size

def isEmpty (book : Rulebook) : Bool := book.entries.isEmpty

/-- The number of rules of all paths together. -/
def ruleCount (book : Rulebook) : Nat :=
  book.toList.foldr (fun entry total => entry.2.length + total) 0

end Rulebook

end Forms
