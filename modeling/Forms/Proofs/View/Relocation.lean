/-
This file proves that the view of a schema at one place is the view at another place with its paths
moved. The label keys stay the same when both places lie below the same keys.
-/

import Forms.Proofs.Path.Prefixes
import Forms.Proofs.View.Nodes

namespace Forms

namespace View

mutual

/-- The view with every path moved. Everything else stays. -/
def mapPaths (move : Path → Path) : View → View
  | ⟨path, key, kind, labelKey, widget, hint, checks, children, item, itemSchema⟩ =>
      ⟨move path, key, kind, labelKey, widget, hint, checks, mapChildPaths move children,
        mapItemPaths move item, itemSchema⟩
termination_by structural view => view

def mapChildPaths (move : Path → Path) : List View → List View
  | [] => []
  | child :: children => child.mapPaths move :: mapChildPaths move children
termination_by structural children => children

def mapItemPaths (move : Path → Path) : Option View → Option View
  | none => none
  | some item => some (item.mapPaths move)
termination_by structural item => item

end

variable {move : Path → Path}

@[simp] theorem mapPaths_path (view : View) : (view.mapPaths move).path = move view.path := by
  cases view; rfl

@[simp] theorem mapPaths_checks (view : View) : (view.mapPaths move).checks = view.checks := by
  cases view; rfl

theorem mapChildPaths_eq_map (children : List View) :
    mapChildPaths move children = children.map (mapPaths move) := by
  induction children with
  | nil => rfl
  | cons child children inductionHypothesis => rw [mapChildPaths, inductionHypothesis, List.map_cons]

theorem mapPaths_children (view : View) :
    (view.mapPaths move).children = view.children.map (mapPaths move) := by
  cases view
  exact mapChildPaths_eq_map _

theorem mapPaths_item (view : View) :
    (view.mapPaths move).item = view.item.map (mapPaths move) := by
  obtain ⟨_, _, _, _, _, _, _, _, item, _⟩ := view
  cases item <;> rfl

section Places

variable {options : RenderOptions} {old new : Path} {key : Option String}

/-- The view of a schema below the new place is the view below the old place with its paths moved. -/
theorem mapPaths_ofSchema (sameKeys : old.keyNames = new.keyNames) (schema : Schema)
    (steps : List Step) :
    (ofSchema options (old.extend steps) key schema).mapPaths (Path.rebase old new) =
      ofSchema options (new.extend steps) key schema := by
  induction schema using Schema.fieldInduction generalizing steps key with
  | field schema childHypothesis itemHypothesis =>
      have sameLabel : labelKeyFor options (old.extend steps) =
          labelKeyFor options (new.extend steps) := by
        simp only [labelKeyFor, Path.keyNames_extend, sameKeys]
      have sameChildren : ((ofSchema options (old.extend steps) key schema).mapPaths
          (Path.rebase old new)).children =
            (ofSchema options (new.extend steps) key schema).children := by
        rw [mapPaths_children, ofSchema_children, ofSchema_children, List.map_map]
        refine List.map_congr_left fun child member => ?_
        have moved := @childHypothesis child member (some child.1) (steps ++ [.key child.1])
        rwa [← Path.extend_push, ← Path.extend_push] at moved
      have sameItem : ((ofSchema options (old.extend steps) key schema).mapPaths
          (Path.rebase old new)).item = (ofSchema options (new.extend steps) key schema).item := by
        rw [mapPaths_item, ofSchema_item, ofSchema_item, Option.map_map]
        refine Option.map_congr fun item held => ?_
        have moved := @itemHypothesis item held none (steps ++ [.item])
        rwa [← Path.extend_push, ← Path.extend_push] at moved
      obtain ⟨kind, label, widget, hint, checks, children, items⟩ := schema
      simp only [ofSchema, mapPaths] at sameChildren sameItem ⊢
      rw [sameChildren, sameItem, sameLabel, Path.rebase_extend]

/-- Moving the paths moves the paths of all fields. -/
theorem nodes_mapPaths (schema : Schema) (base : Path) :
    ((ofSchema options base key schema).mapPaths move).nodes =
      (ofSchema options base key schema).nodes.map (mapPaths move) := by
  induction schema using Schema.fieldInduction generalizing base key with
  | field schema childHypothesis itemHypothesis =>
      rw [nodes_eq, nodes_eq (ofSchema options base key schema), mapPaths_children, mapPaths_item,
        ofSchema_children, ofSchema_item, List.map_cons, List.map_append, List.map_flatMap,
        List.map_flatMap, List.map_map, List.flatMap_map, List.flatMap_map]
      congr 2
      · exact List.flatMap_congr fun child member => childHypothesis child member _
      · cases held : schema.items with
        | none => rfl
        | some item => simpa using itemHypothesis item held base.item

end Places

end View

end Forms
