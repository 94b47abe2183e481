/-
This file holds reports. A report lists the issues that a form shows now, under the paths of the fields
that they belong to.
-/

import Forms.Path.Basic

namespace Forms

/-- An issue comes from the server or from the last validation on this side. -/
inductive Provenance where
  | server
  | client
deriving DecidableEq, Repr

def Provenance.name : Provenance → String
  | .server => "server"
  | .client => "client"

structure Issue where
  message : String
  provenance : Provenance
deriving DecidableEq, Repr

/-- A change tells the host what a field shows from now on. -/
inductive Change where
  | shown (path : Path) (messages : List String)
  | cleared (path : Path)
deriving DecidableEq, Repr

/-- A field without issues has no entry. -/
structure Report where
  entries : OrderedMap Path (List Issue)
  inhabited : ∀ entry ∈ entries.entries, entry.2 ≠ []

namespace Report

instance : DecidableEq Report := fun first second =>
  if same : first.entries = second.entries then
    isTrue (by cases first; cases second; cases same; rfl)
  else
    isFalse fun equal => same (by rw [equal])

def empty : Report := ⟨.empty, fun _ member => nomatch member⟩

def toList (report : Report) : List (Path × List Issue) := report.entries.entries

def get? (report : Report) (path : Path) : Option (List Issue) := report.entries.get? path

/-- A path without an entry has no issues. -/
def issues (report : Report) (path : Path) : List Issue := (report.get? path).getD []

def messages (report : Report) (path : Path) : List String :=
  (report.issues path).map Issue.message

def paths (report : Report) : List Path := report.entries.keys

/-- The number of fields with issues. -/
def size (report : Report) : Nat := report.entries.size

def isEmpty (report : Report) : Bool := report.entries.isEmpty

/-- A repeated message can be left out. -/
def append (deduplicate : Bool) (issue : Issue) (issues : List Issue) : List Issue :=
  if deduplicate && issues.any (·.message == issue.message) then issues else issues ++ [issue]

theorem append_inhabited (deduplicate : Bool) (issue : Issue) (issues : List Issue) :
    append deduplicate issue issues ≠ [] := by
  unfold append
  split
  · next repeated =>
      simp only [Bool.and_eq_true, List.any_eq_true] at repeated
      obtain ⟨_, present, member, _⟩ := repeated
      exact List.ne_nil_of_mem member
  · simp

/-- An issue joins the earlier issues of its field. -/
def push (report : Report) (deduplicate : Bool) (path : Path) (issue : Issue) : Report where
  entries := report.entries.alter path fun issues => append deduplicate issue (issues.getD [])
  inhabited := by
    intro entry member
    rcases OrderedMap.mem_alter member with old | ⟨_, fresh⟩
    · exact report.inhabited entry old
    · rw [fresh]
      exact append_inhabited _ _ _

@[simp] theorem issues_push (report : Report) (deduplicate : Bool) (path : Path) (issue : Issue)
    (other : Path) :
    (report.push deduplicate path issue).issues other =
      if other = path then append deduplicate issue (report.issues path)
      else report.issues other := by
  simp only [issues, get?, push, OrderedMap.get?_alter, Std.LawfulEqOrd.compare_eq_iff_eq]
  split <;> rfl

/-- The issues join one after the other. -/
def pushAll (report : Report) (deduplicate : Bool) (issues : List (Path × Issue)) : Report :=
  issues.foldl (fun current pair => current.push deduplicate pair.1 pair.2) report

def ofIssues (deduplicate : Bool) (issues : List (Path × Issue)) : Report :=
  empty.pushAll deduplicate issues

/-- The fields that an earlier report showed and that this one does not show. -/
def clearedSince (report previous : Report) : List Path :=
  previous.paths.filter fun path => !report.entries.contains path

/-- The fields whose issues are new or differ from an earlier report. -/
def shownSince (report previous : Report) : List (Path × List Issue) :=
  report.toList.filter fun entry => previous.get? entry.1 != some entry.2

/-- What a host has to change when it has shown an earlier report. It clears fields before it shows
others, in the order of their paths. -/
def changesSince (report previous : Report) : List Change :=
  (report.clearedSince previous).map .cleared ++
    (report.shownSince previous).map fun entry => .shown entry.1 (entry.2.map Issue.message)

end Report

end Forms
