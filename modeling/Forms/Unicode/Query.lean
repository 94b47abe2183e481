/-
This file looks up the classes of characters that patterns name. Names are compared loosely: case,
spaces, underscores and hyphens do not count, and neither does a leading "is".
-/

import Forms.Unicode.Addition
import Forms.Unicode.Age
import Forms.Unicode.Script
import Forms.Unicode.Segmentation

namespace Forms.Unicode

/-- Word characters are letters, marks, digits, connectors and joiners. -/
def wordTable : Table :=
  (Property.alphabetic.table.union Property.joinControl.table).union
    (Category.unionOf [
      .nonspacingMark, .spacingMark, .enclosingMark, .decimalNumber, .connectorPunctuation])

def digitTable : Table := Category.decimalNumberTable

def spaceTable : Table := Property.whiteSpace.table

/-- Letters of any script, with the newest ones. -/
def letterTable : Table := Property.alphabetic.table.union Addition.letters

/-- Letters and numbers of any script, with the newest ones. -/
def letterOrNumberTable : Table :=
  (letterTable.union Addition.numbers).union
    (Category.unionOf [.decimalNumber, .letterNumber, .otherNumber])

namespace Query

/-- The characters of a name that count. -/
def significant (name : List Char) : List Char :=
  (name.filter fun character =>
    character.toNat < 128 && character ≠ ' ' && character ≠ '_' && character ≠ '-').map Char.toLower

/-- The loose form of a name. The one name that is "is" and a single letter keeps both. -/
def looseName (name : List Char) : String :=
  match name with
  | first :: second :: rest =>
      if first.toLower = 'i' ∧ second.toLower = 's' then
        if significant rest = ['c'] then "isc" else String.ofList (significant rest)
      else String.ofList (significant name)
  | other => String.ofList (significant other)

def category? (name : String) : Option Table :=
  match name with
  | "any" => some .full
  | "assigned" => some Category.unassignedTable.complement
  | "ascii" => some (.single 0 0x7F)
  | other =>
      (Category.groups.find? fun group => group.1.contains other).map fun group =>
        Category.unionOf group.2

/-- The characters of the first property in a family that has a name. -/
def property? (name : String) (family : List Property) : Option Table :=
  (family.find? fun property => property.names.contains name).map (·.table)

def script? (name : String) : Option Script :=
  Script.all.find? fun script => script.names.contains name

/-- Three short names of categories are also short names of properties. The categories win. -/
def isCategoryFirst (name : String) : Bool := name == "cf" || name == "sc" || name == "lc"

/-- The class with one name. -/
def ofName? (name : List Char) : Option Table :=
  let loose := looseName name
  let property := if isCategoryFirst loose then none else property? loose Property.all
  (property.orElse fun _ => category? loose).orElse fun _ => (script? loose).map (·.own)

/-- The class of the characters for which a property has a value. -/
def ofPair? (name value : List Char) : Option Table :=
  let loose := looseName value
  match looseName name with
  | "gc" | "generalcategory" => category? loose
  | "sc" | "script" => (script? loose).map (·.own)
  | "scx" | "scriptextensions" => (script? loose).map (·.extended)
  | "age" => Age.table? loose
  | "gcb" | "graphemeclusterbreak" => property? loose GraphemeBreak.all
  | "wb" | "wordbreak" => property? loose WordBreak.all
  | "sb" | "sentencebreak" => property? loose SentenceBreak.all
  | _ => none

end Query

end Forms.Unicode
