/-
This file holds registries of checks. A registry knows a maker for every type of check that schemas may
declare.
-/

import Forms.Check.Standard

namespace Forms

/-- The reasons why no form comes from a schema. -/
inductive CompileError where
  | unknownCheck (id : String) (path : Path)
  | rejectedParams (id : String) (path : Path) (fault : ParamFault)
  | invalidKey (key : String) (parent : Path)
deriving DecidableEq, Repr

def CompileError.message : CompileError → String
  | .unknownCheck id path => "Unknown validator type '" ++ id ++ "' at field '" ++ path.text ++ "'"
  | .rejectedParams id path fault =>
      "Invalid parameters for validator '" ++ id ++ "' at field '" ++ path.text ++ "': " ++
        fault.details
  | .invalidKey key parent =>
      "Invalid field key '" ++ key ++ "' under '" ++ parent.text ++
        "': keys must be non-empty and free of '.', '[' and ']'"

/-- A registry maps the names of the types of checks to their makers. -/
structure Registry where
  makers : OrderedMap String Maker

namespace Registry

def empty : Registry := ⟨.empty⟩

def contains (registry : Registry) (id : String) : Bool := registry.makers.contains id

/-- The names of the types of checks in increasing order. -/
def ids (registry : Registry) : List String := registry.makers.keys

/-- A new maker replaces an earlier one with the same name. -/
def register (registry : Registry) (id : String) (maker : Maker) : Registry :=
  ⟨registry.makers.insert id maker⟩

/-- Later extensions replace earlier ones. -/
def withExtensions (registry : Registry) (extensions : List (String × Maker)) : Registry :=
  ⟨registry.makers.insertAll extensions⟩

/-- The registry of the standard checks. -/
def standard : Registry :=
  empty.withExtensions (StandardCheck.all.map fun check => (check.name, check.maker))

/-- A field at a path declares a check. -/
def build (registry : Registry) (catalog : Catalog) (path : Path) (declaration : Declaration) :
    Except CompileError Check :=
  match registry.makers.get? declaration.id with
  | none => .error (.unknownCheck declaration.id path)
  | some maker =>
      match maker declaration.params catalog with
      | .ok check => .ok check
      | .error fault => .error (.rejectedParams declaration.id path fault)

end Registry

end Forms
