/-
This file writes schemas as values. Options that are absent and lists that are empty are left out.
-/

import Forms.Schema.Basic

namespace Forms

/-- Null parameters are left out. -/
def Declaration.toJson (declaration : Declaration) : Json :=
  .object (("type", .string declaration.id) ::
    (if declaration.params = .null then [] else [("params", declaration.params)]))

namespace Schema

/-- An optional text becomes a member or nothing. -/
def textMember (name : String) (text : Option String) : List (String × Json) :=
  match text with
  | some text => [(name, .string text)]
  | none => []

def checksMember (checks : List Declaration) : List (String × Json) :=
  if checks.isEmpty then [] else [("validators", .array (checks.map Declaration.toJson))]

mutual

def toJson : Schema → Json
  | ⟨kind, label, widget, hint, checks, children, items⟩ =>
      .object (("type", .string kind.name) :: (textMember "label" label ++
        textMember "widget" widget ++ textMember "hint" hint ++ checksMember checks ++
        (if children.isEmpty then []
          else [("children", .object (Json.collectMembers (childMembers children)))]) ++
        itemsMember items))
termination_by structural schema => schema

def childMembers : List (String × Schema) → List (String × Json)
  | [] => []
  | child :: children => childMember child :: childMembers children
termination_by structural children => children

def childMember : String × Schema → String × Json
  | (key, child) => (key, child.toJson)
termination_by structural child => child

def itemsMember : Option Schema → List (String × Json)
  | none => []
  | some items => [("items", items.toJson)]
termination_by structural items => items

end

end Schema

end Forms
