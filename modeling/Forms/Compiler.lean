/-
This file compiles schemas. A compiled form has a view for the host and a rulebook for validation. The
first fault of a schema, in the order of its declarations, is the result of a schema with faults.
-/

import Forms.Check.Registry
import Forms.Rulebook
import Forms.View

namespace Forms

/-- One stop on the way through a schema. -/
inductive Visit where
  /-- The checks of a field are built. -/
  | field (path : Path) (checks : List Declaration)
  /-- The key of a child is looked at. -/
  | key (parent : Path) (name : String)
deriving DecidableEq, Repr

namespace Schema

mutual

/-- The way through a schema from the top. The key of a child comes right before the child, and the
items come last. -/
def visits (path : Path) : Schema → List Visit
  | ⟨_, _, _, _, checks, children, items⟩ =>
      .field path checks :: (childrenVisits path children ++ itemVisits path items)
termination_by structural schema => schema

def childrenVisits (parent : Path) : List (String × Schema) → List Visit
  | [] => []
  | child :: children => childVisits parent child ++ childrenVisits parent children
termination_by structural children => children

def childVisits (parent : Path) : String × Schema → List Visit
  | (key, schema) => .key parent key :: schema.visits (parent.key key)
termination_by structural child => child

def itemVisits (parent : Path) : Option Schema → List Visit
  | none => []
  | some schema => schema.visits parent.item
termination_by structural items => items

end

end Schema

/-- The checks that have been built on the way, and the declarations whose makers were called. -/
structure Workshop where
  built : List ((String × String) × Check) := []
  calls : List Declaration := []

/-- The checks of a form are built from a registry, with the messages of a catalog. -/
structure Compiler where
  registry : Registry
  catalog : Catalog
  options : RenderOptions

namespace Compiler

/-- A step of the work has a result or a fault. What was built before stays built. -/
abbrev Outcome (α : Type) := Except CompileError α × Workshop

/-- A check that has been built for an equal declaration is used again. -/
def obtain (compiler : Compiler) (path : Path) (declaration : Declaration) (workshop : Workshop) :
    Outcome Check :=
  match workshop.built.lookup declaration.buildKey with
  | some check => (.ok check, workshop)
  | none =>
      let calls :=
        if compiler.registry.contains declaration.id then workshop.calls ++ [declaration]
        else workshop.calls
      match compiler.registry.build compiler.catalog path declaration with
      | .ok check => (.ok check, ⟨(declaration.buildKey, check) :: workshop.built, calls⟩)
      | .error fault => (.error fault, ⟨workshop.built, calls⟩)

/-- The rules of one field, in the order of their declaration. -/
def rulesFor (compiler : Compiler) (path : Path) : List Declaration → Workshop → Outcome (List Rule)
  | [], workshop => (.ok [], workshop)
  | declaration :: declarations, workshop =>
      match compiler.obtain path declaration workshop with
      | (.error fault, workshop) => (.error fault, workshop)
      | (.ok check, workshop) =>
          match rulesFor compiler path declarations workshop with
          | (.error fault, workshop) => (.error fault, workshop)
          | (.ok rules, workshop) => (.ok (⟨declaration, check⟩ :: rules), workshop)

/-- One stop adds the rules of a field to the book, or looks at a key. -/
def stop (compiler : Compiler) (visit : Visit) (book : Rulebook) (workshop : Workshop) :
    Outcome Rulebook :=
  match visit with
  | .field path checks =>
      match compiler.rulesFor path checks workshop with
      | (.error fault, workshop) => (.error fault, workshop)
      | (.ok rules, workshop) => (.ok (book.insert path rules), workshop)
  | .key parent name =>
      if Path.isValidKey name then (.ok book, workshop)
      else (.error (.invalidKey name parent), workshop)

/-- The first fault ends the way. -/
def walk (compiler : Compiler) : List Visit → Rulebook → Workshop → Outcome Rulebook
  | [], book, workshop => (.ok book, workshop)
  | visit :: visits, book, workshop =>
      match compiler.stop visit book workshop with
      | (.error fault, workshop) => (.error fault, workshop)
      | (.ok book, workshop) => walk compiler visits book workshop

end Compiler

/-- A compiled form. -/
structure Compiled where
  view : View
  rules : Rulebook

/-- A compilation has a compiled form or a fault, and it knows which makers were called. -/
structure Compilation where
  result : Except CompileError Compiled
  calls : List Declaration

namespace Compiler

/-- This function compiles a schema whose fields start at a path. -/
def compileAt (compiler : Compiler) (path : Path) (schema : Schema) : Compilation :=
  match compiler.walk (schema.visits path) .empty {} with
  | (.ok rules, workshop) =>
      ⟨.ok ⟨.ofSchema compiler.options path none schema, rules⟩, workshop.calls⟩
  | (.error fault, workshop) => ⟨.error fault, workshop.calls⟩

/-- This function compiles a whole form. -/
def compile (compiler : Compiler) (schema : Schema) : Compilation := compiler.compileAt .root schema

/-- This function compiles one element of an array at its position. -/
def compileItem (compiler : Compiler) (array : Path) (position : Nat) (schema : Schema) :
    Compilation :=
  compiler.compileAt (array.index position) schema

end Compiler

end Forms
