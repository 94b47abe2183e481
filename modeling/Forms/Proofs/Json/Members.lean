/-
This file proves facts about the members of objects: which values repeat no key, when a key is missing,
and what happens to members with distinct keys when they are collected.
-/

import Forms.Json.Basic

namespace Forms

namespace Json

/-- The values directly inside a value. -/
def parts : Json → List Json
  | .array items => items
  | .object members => members.map Prod.snd
  | _ => []

/-- The keys of the members of an object. -/
def keys : Json → List String
  | .object members => members.map Prod.fst
  | _ => []

/-- No object in the value repeats a key. -/
inductive DistinctMembers : Json → Prop where
  | value {value : Json} (keys : value.keys.Nodup)
      (parts : ∀ part ∈ value.parts, DistinctMembers part) : DistinctMembers value

variable {members : List (String × Json)} {key : String}

theorem findMember_of_not_mem (missing : key ∉ members.map Prod.fst) : findMember key members = none := by
  induction members with
  | nil => rfl
  | cons member members inductionHypothesis =>
      rw [List.map_cons, List.mem_cons, not_or] at missing
      rw [findMember, if_neg (Ne.symm missing.1), inductionHypothesis missing.2]

/-- A member with a new key comes last. -/
theorem putMember_of_not_mem (fresh : key ∉ members.map Prod.fst) (value : Json) :
    putMember key value members = members ++ [(key, value)] := by
  induction members with
  | nil => rfl
  | cons member members inductionHypothesis =>
      rw [List.map_cons, List.mem_cons, not_or] at fresh
      rw [putMember, if_neg (Ne.symm fresh.1), inductionHypothesis fresh.2, List.cons_append]

/-- Members with distinct keys stay as they are when they are collected. -/
theorem collectMembers_of_nodup (distinct : (members.map Prod.fst).Nodup) :
    collectMembers members = members := by
  have collected (earlier later : List (String × Json))
      (distinct : ((earlier ++ later).map Prod.fst).Nodup) :
      later.foldl (fun collected member => putMember member.1 member.2 collected) earlier =
        earlier ++ later := by
    induction later generalizing earlier with
    | nil => simp
    | cons member later inductionHypothesis =>
        have fresh : member.1 ∉ earlier.map Prod.fst := by
          intro repeated
          rw [List.map_append, List.nodup_append] at distinct
          exact distinct.2.2 _ repeated _ List.mem_cons_self rfl
        rw [List.foldl_cons, putMember_of_not_mem fresh]
        have onward := inductionHypothesis (earlier ++ [member]) (by simpa using distinct)
        simpa using onward
  exact collected [] members distinct

end Json

end Forms
