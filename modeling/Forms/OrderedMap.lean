/-
This file holds maps that list their keys in increasing order. The order makes the listing of a map
a property of its content: two maps with the same lookups are equal.
-/

namespace Forms

/-- An ordered map lists each of its keys once, in increasing order, with the value of the key. -/
structure OrderedMap (Key Value : Type) [Ord Key] where
  entries : List (Key × Value)
  increasing : entries.Pairwise fun first second => compare first.1 second.1 = .lt

namespace OrderedMap

variable {Key Value : Type} [Ord Key]

/-- The listing decides equality because the order of the keys is a proposition. -/
instance [DecidableEq Key] [DecidableEq Value] : DecidableEq (OrderedMap Key Value) :=
  fun first second =>
    if same : first.entries = second.entries then
      isTrue (by cases first; cases second; cases same; rfl)
    else
      isFalse fun equal => same (by rw [equal])

def empty : OrderedMap Key Value := ⟨[], .nil⟩

def keys (map : OrderedMap Key Value) : List Key := map.entries.map Prod.fst

def size (map : OrderedMap Key Value) : Nat := map.entries.length

def isEmpty (map : OrderedMap Key Value) : Bool := map.entries.isEmpty

/-- The first entry with the key answers for the key. -/
def lookup (key : Key) : List (Key × Value) → Option Value
  | [] => none
  | entry :: rest => if compare key entry.1 = .eq then some entry.2 else lookup key rest

def get? (map : OrderedMap Key Value) (key : Key) : Option Value := lookup key map.entries

def contains (map : OrderedMap Key Value) (key : Key) : Bool := (map.get? key).isSome

/-- The entry of a key takes its place in the order. The change sees the value that was there. -/
def place (key : Key) (change : Option Value → Value) : List (Key × Value) → List (Key × Value)
  | [] => [(key, change none)]
  | entry :: rest =>
      match compare key entry.1 with
      | .lt => (key, change none) :: entry :: rest
      | .eq => (entry.1, change (some entry.2)) :: rest
      | .gt => entry :: place key change rest

theorem place_keys {key : Key} {change : Option Value → Value} {entry : Key × Value}
    {entries : List (Key × Value)} (member : entry ∈ place key change entries) :
    entry.1 = key ∨ ∃ old ∈ entries, old.1 = entry.1 := by
  induction entries with
  | nil => simp_all [place]
  | cons first rest inductionHypothesis =>
      unfold place at member
      split at member <;> grind

theorem place_increasing [Std.TransOrd Key] (key : Key) (change : Option Value → Value)
    {entries : List (Key × Value)}
    (increasing : entries.Pairwise fun first second => compare first.1 second.1 = .lt) :
    (place key change entries).Pairwise fun first second => compare first.1 second.1 = .lt := by
  induction entries with
  | nil => simp [place]
  | cons first rest inductionHypothesis =>
      obtain ⟨above, tail⟩ := List.pairwise_cons.mp increasing
      unfold place
      split
      · next below =>
          refine List.pairwise_cons.mpr ⟨fun entry member => ?_, increasing⟩
          rcases List.mem_cons.mp member with rfl | later
          · exact below
          · exact Std.TransCmp.lt_trans below (above entry later)
      · exact List.pairwise_cons.mpr ⟨above, tail⟩
      · next beyond =>
          refine List.pairwise_cons.mpr ⟨fun entry member => ?_, inductionHypothesis tail⟩
          rcases place_keys member with same | ⟨old, later, same⟩
          · rw [same]; exact Std.OrientedCmp.gt_iff_lt.mp beyond
          · rw [← same]; exact above old later

theorem mem_place {key : Key} {change : Option Value → Value} {entry : Key × Value}
    {entries : List (Key × Value)} (member : entry ∈ place key change entries) :
    entry ∈ entries ∨ ∃ old, entry.2 = change old := by
  induction entries with
  | nil =>
      rw [place, List.mem_singleton] at member
      exact .inr ⟨none, by rw [member]⟩
  | cons first rest inductionHypothesis =>
      unfold place at member
      split at member <;> grind

/-- The map changes at one key. -/
def alter [Std.TransOrd Key] (map : OrderedMap Key Value) (key : Key)
    (change : Option Value → Value) : OrderedMap Key Value :=
  ⟨place key change map.entries, place_increasing key change map.increasing⟩

/-- The key has the new value afterwards. -/
def insert [Std.TransOrd Key] (map : OrderedMap Key Value) (key : Key) (value : Value) :
    OrderedMap Key Value :=
  map.alter key fun _ => value

/-- Later pairs replace earlier pairs with the same key. -/
def insertAll [Std.TransOrd Key] (map : OrderedMap Key Value) (pairs : List (Key × Value)) :
    OrderedMap Key Value :=
  pairs.foldl (fun current pair => current.insert pair.1 pair.2) map

def ofList [Std.TransOrd Key] (pairs : List (Key × Value)) : OrderedMap Key Value :=
  empty.insertAll pairs

theorem mem_alter [Std.TransOrd Key] {map : OrderedMap Key Value} {key : Key}
    {change : Option Value → Value} {entry : Key × Value}
    (member : entry ∈ (map.alter key change).entries) :
    entry ∈ map.entries ∨ ∃ old, entry.2 = change old :=
  mem_place member

@[simp] theorem get?_empty (key : Key) : (empty : OrderedMap Key Value).get? key = none := rfl

theorem lookup_eq_none_of_below [Std.TransOrd Key] {key : Key} {entries : List (Key × Value)}
    (below : ∀ entry ∈ entries, compare key entry.1 = .lt) : lookup key entries = none := by
  induction entries with
  | nil => rfl
  | cons first rest inductionHypothesis =>
      have head := below first (by simp)
      have tail := inductionHypothesis fun entry member => below entry (by simp [member])
      simp [lookup, head, tail]

theorem lookup_place [Std.TransOrd Key] [Std.LawfulEqOrd Key] (key other : Key)
    (change : Option Value → Value) {entries : List (Key × Value)}
    (increasing : entries.Pairwise fun first second => compare first.1 second.1 = .lt) :
    lookup other (place key change entries) =
      if compare other key = .eq then some (change (lookup key entries))
      else lookup other entries := by
  induction entries with
  | nil => simp [place, lookup]
  | cons first rest inductionHypothesis =>
      obtain ⟨above, tail⟩ := List.pairwise_cons.mp increasing
      have later := inductionHypothesis tail
      unfold place
      split
      · next below =>
          have absent : lookup key (first :: rest) = none := by
            apply lookup_eq_none_of_below
            intro entry member
            rcases List.mem_cons.mp member with rfl | after
            · exact below
            · exact Std.TransCmp.lt_trans below (above entry after)
          simp only [absent]
          simp [lookup]
      · next same =>
          have equal : key = first.1 := Std.LawfulEqCmp.compare_eq_iff_eq.mp same
          subst equal
          simp only [lookup, same, if_true]
          split <;> simp_all
      · next beyond =>
          simp only [lookup, later]
          by_cases same : compare other key = .eq
          · have equal : other = key := Std.LawfulEqCmp.compare_eq_iff_eq.mp same
            subst equal
            simp [beyond]
          · simp [same]

@[simp] theorem get?_alter [Std.TransOrd Key] [Std.LawfulEqOrd Key] (map : OrderedMap Key Value)
    (key other : Key) (change : Option Value → Value) :
    (map.alter key change).get? other =
      if compare other key = .eq then some (change (map.get? key)) else map.get? other :=
  lookup_place key other change map.increasing

@[simp] theorem get?_insert [Std.TransOrd Key] [Std.LawfulEqOrd Key] (map : OrderedMap Key Value)
    (key other : Key) (value : Value) :
    (map.insert key value).get? other =
      if compare other key = .eq then some value else map.get? other :=
  get?_alter map key other fun _ => value

/-- The last of the new pairs with a key counts, and the map answers for the other keys. -/
theorem get?_insertAll [Std.TransOrd Key] [Std.LawfulEqOrd Key] [BEq Key] [LawfulBEq Key]
    (map : OrderedMap Key Value) (pairs : List (Key × Value)) (key : Key) :
    (map.insertAll pairs).get? key = (pairs.reverse.lookup key).or (map.get? key) := by
  induction pairs generalizing map with
  | nil => rfl
  | cons pair pairs inductionHypothesis =>
      obtain ⟨name, value⟩ := pair
      have onward := inductionHypothesis (map.insert name value)
      change ((map.insert name value).insertAll pairs).get? key = _
      rw [onward, get?_insert, List.reverse_cons, List.lookup_append, Option.or_assoc]
      congr 1
      by_cases same : key = name
      · simp [same]
      · simp [List.lookup_cons, same, beq_false_of_ne same]

theorem lookup_eq_some_iff [Std.TransOrd Key] [Std.LawfulEqOrd Key] {key : Key} {value : Value}
    {entries : List (Key × Value)}
    (increasing : entries.Pairwise fun first second => compare first.1 second.1 = .lt) :
    lookup key entries = some value ↔ (key, value) ∈ entries := by
  induction entries with
  | nil => simp [lookup]
  | cons first rest inductionHypothesis =>
      obtain ⟨above, tail⟩ := List.pairwise_cons.mp increasing
      have later := inductionHypothesis tail
      unfold lookup
      split
      · next same =>
          have equal : key = first.1 := Std.LawfulEqCmp.compare_eq_iff_eq.mp same
          subst equal
          have absent : (first.1, value) ∉ rest := fun member => by
            have below := above _ member
            rw [Std.ReflOrd.compare_self] at below
            cases below
          constructor
          · intro found
            cases found
            exact List.mem_cons_self
          · intro member
            rcases List.mem_cons.mp member with head | member
            · rw [← head]
            · exact absurd member absent
      · next differ =>
          rw [later]
          constructor
          · exact List.mem_cons_of_mem first
          · intro member
            rcases List.mem_cons.mp member with head | member
            · rw [← head] at differ
              exact absurd Std.ReflCmp.compare_self differ
            · exact member

theorem get?_eq_some_iff [Std.TransOrd Key] [Std.LawfulEqOrd Key] {map : OrderedMap Key Value}
    {key : Key} {value : Value} : map.get? key = some value ↔ (key, value) ∈ map.entries :=
  lookup_eq_some_iff map.increasing

/-- The keys of a map are the keys that have a value. -/
theorem mem_keys_iff [Std.TransOrd Key] [Std.LawfulEqOrd Key] {map : OrderedMap Key Value}
    {key : Key} : key ∈ map.keys ↔ map.contains key = true := by
  rw [keys, contains, Option.isSome_iff_exists]
  constructor
  · intro member
    obtain ⟨entry, present, rfl⟩ := List.mem_map.mp member
    exact ⟨entry.2, get?_eq_some_iff.mpr present⟩
  · rintro ⟨value, found⟩
    exact List.mem_map.mpr ⟨(key, value), get?_eq_some_iff.mp found, rfl⟩

theorem keys_nodup [Std.TransOrd Key] (map : OrderedMap Key Value) : map.keys.Nodup := by
  refine List.pairwise_map.mpr (map.increasing.imp fun below same => ?_)
  rw [same, Std.ReflOrd.compare_self] at below
  cases below

theorem entries_nodup [Std.TransOrd Key] (map : OrderedMap Key Value) : map.entries.Nodup :=
  List.Pairwise.of_map Prod.fst (fun _ _ differ same => differ (congrArg Prod.fst same)) map.keys_nodup

theorem entries_eq_of_mem_iff [Std.TransOrd Key] [Std.LawfulEqOrd Key]
    {left right : List (Key × Value)}
    (leftIncreasing : left.Pairwise fun first second => compare first.1 second.1 = .lt)
    (rightIncreasing : right.Pairwise fun first second => compare first.1 second.1 = .lt)
    (sameMembers : ∀ entry, entry ∈ left ↔ entry ∈ right) : left = right := by
  induction left generalizing right with
  | nil =>
      cases right with
      | nil => rfl
      | cons first rest => exact absurd ((sameMembers first).mpr List.mem_cons_self) (by simp)
  | cons leftFirst leftRest inductionHypothesis =>
      cases right with
      | nil => exact absurd ((sameMembers leftFirst).mp List.mem_cons_self) (by simp)
      | cons rightFirst rightRest =>
          obtain ⟨leftAbove, leftTail⟩ := List.pairwise_cons.mp leftIncreasing
          obtain ⟨rightAbove, rightTail⟩ := List.pairwise_cons.mp rightIncreasing
          have sameFirst : leftFirst = rightFirst := by
            rcases List.mem_cons.mp ((sameMembers leftFirst).mp List.mem_cons_self) with
              same | leftLater
            · exact same
            · rcases List.mem_cons.mp ((sameMembers rightFirst).mpr List.mem_cons_self) with
                same | rightLater
              · exact same.symm
              · have cycle := Std.TransCmp.lt_trans (rightAbove _ leftLater) (leftAbove _ rightLater)
                rw [Std.ReflOrd.compare_self] at cycle
                cases cycle
          subst sameFirst
          have fresh {rest : List (Key × Value)}
              (above : ∀ entry ∈ rest, compare leftFirst.1 entry.1 = .lt) : leftFirst ∉ rest := by
            intro member
            have below := above _ member
            rw [Std.ReflOrd.compare_self] at below
            cases below
          refine congrArg (leftFirst :: ·) (inductionHypothesis leftTail rightTail fun entry => ?_)
          have both := sameMembers entry
          rw [List.mem_cons, List.mem_cons] at both
          constructor
          · intro member
            rcases both.mp (.inr member) with rfl | later
            · exact absurd member (fresh leftAbove)
            · exact later
          · intro member
            rcases both.mpr (.inr member) with rfl | later
            · exact absurd member (fresh rightAbove)
            · exact later

/-- Two maps with the same lookups are equal. -/
theorem eq_of_get?_eq [Std.TransOrd Key] [Std.LawfulEqOrd Key] {left right : OrderedMap Key Value}
    (same : ∀ key, left.get? key = right.get? key) : left = right := by
  have entries : left.entries = right.entries :=
    entries_eq_of_mem_iff left.increasing right.increasing fun entry => by
      rw [← get?_eq_some_iff, ← get?_eq_some_iff, same]
  cases left
  cases right
  cases entries
  rfl

end OrderedMap

end Forms
