/-
This file proves what a compilation meets on its way. It inspects declarations and keys one by one, the
first fault among them is its result, and it calls the maker of a declaration once.
-/

import Forms.Proofs.Compiler.Fields
import Forms.Proofs.Compiler.Workshop
import Forms.Proofs.Repetitions

namespace Forms

/-- A compilation inspects every declaration of a field and the key of every child. -/
inductive Inspection where
  | check (path : Path) (declaration : Declaration)
  | key (parent : Path) (name : String)

def Visit.inspections : Visit → List Inspection
  | .field path checks => checks.map (.check path)
  | .key parent name => [.key parent name]

/-- The inspections on the way through a schema, in order. -/
def Schema.inspections (path : Path) (schema : Schema) : List Inspection :=
  (schema.visits path).flatMap Visit.inspections

/-- The declarations of a field come first, then each child after its key, and the items come last. -/
theorem Schema.inspections_eq (path : Path) (schema : Schema) :
    schema.inspections path =
      schema.checks.map (.check path) ++
        (schema.children.flatMap fun child =>
          .key path child.1 :: child.2.inspections (path.key child.1)) ++
        schema.items.toList.flatMap (inspections path.item) := by
  rw [inspections, visits_eq, List.flatMap_cons, List.flatMap_append, List.flatMap_assoc,
    List.flatMap_assoc, List.append_assoc]
  rfl

namespace Compiler

variable (compiler : Compiler)

/-- The fault that an inspection finds, whatever was inspected before. -/
def fault? : Inspection → Option CompileError
  | .check path declaration =>
      match compiler.registry.makers.get? declaration.id with
      | none => some (.unknownCheck declaration.id path)
      | some maker =>
          match maker declaration.params compiler.catalog with
          | .ok _ => none
          | .error fault => some (.rejectedParams declaration.id path fault)
  | .key parent name => if Path.isValidKey name then none else some (.invalidKey name parent)

/-- The inspections up to the first one that finds a fault. -/
def met : List Inspection → List Inspection
  | [] => []
  | inspection :: later =>
      inspection :: if (compiler.fault? inspection).isSome then [] else met later

/-- The declarations with a registered type among some inspections. -/
def registered (inspections : List Inspection) : List Declaration :=
  inspections.filterMap fun
    | .check _ declaration =>
        if compiler.registry.contains declaration.id then some declaration else none
    | .key _ _ => none

/-- The first declarations with their keys. -/
def firstOfKeys (declarations : List Declaration) : List Declaration :=
  declarations.eraseDupsBy fun left right => left.buildKey == right.buildKey

/-- The fault of an outcome, with what was built. -/
def Outcome.trail {Result : Type} (outcome : Outcome Result) : Option CompileError × Workshop :=
  match outcome with
  | (.ok _, workshop) => (none, workshop)
  | (.error fault, workshop) => (some fault, workshop)

/-- One inspection, with the checks that were built before and with those that are built after it. -/
def inspect (workshop : Workshop) : Inspection → Option CompileError × Workshop
  | .check path declaration => (compiler.obtain path declaration workshop).trail
  | .key parent name =>
      (if Path.isValidKey name then none else some (.invalidKey name parent), workshop)

/-- Inspections end with the first fault. -/
def inspectAll : List Inspection → Workshop → Option CompileError × Workshop
  | [], workshop => (none, workshop)
  | inspection :: later, workshop =>
      match compiler.inspect workshop inspection with
      | (some fault, next) => (some fault, next)
      | (none, next) => inspectAll later next

variable {compiler} {workshop : Workshop}

theorem inspectAll_append (first later : List Inspection) (workshop : Workshop) :
    compiler.inspectAll (first ++ later) workshop =
      match compiler.inspectAll first workshop with
      | (some fault, next) => (some fault, next)
      | (none, next) => compiler.inspectAll later next := by
  induction first generalizing workshop with
  | nil => rfl
  | cons inspection first inductionHypothesis =>
      rw [List.cons_append, inspectAll, inspectAll]
      split
      · rfl
      · exact inductionHypothesis _

/-- The rules of a field are built by inspecting its declarations. -/
theorem trail_rulesFor (path : Path) (declarations : List Declaration) (workshop : Workshop) :
    (compiler.rulesFor path declarations workshop).trail =
      compiler.inspectAll (declarations.map (.check path)) workshop := by
  induction declarations generalizing workshop with
  | nil => rfl
  | cons declaration declarations inductionHypothesis =>
      rw [List.map_cons, inspectAll, inspect, rulesFor]
      cases compiler.obtain path declaration workshop with
      | mk outcome next =>
          cases outcome with
          | error fault => rfl
          | ok check =>
              change _ = compiler.inspectAll (declarations.map (.check path)) next
              rw [← inductionHypothesis]
              simp only
              obtain ⟨_ | _, _⟩ := compiler.rulesFor path declarations next <;> rfl

theorem trail_stop (visit : Visit) (book : Rulebook) (workshop : Workshop) :
    (compiler.stop visit book workshop).trail = compiler.inspectAll visit.inspections workshop := by
  cases visit with
  | field path checks =>
      rw [Visit.inspections, ← trail_rulesFor, stop]
      obtain ⟨_ | _, _⟩ := compiler.rulesFor path checks workshop <;> rfl
  | key parent name =>
      rw [Visit.inspections, inspectAll, inspect, stop]
      split <;> rfl

/-- A way through a schema is the way through its inspections. -/
theorem trail_walk (visits : List Visit) (book : Rulebook) (workshop : Workshop) :
    (compiler.walk visits book workshop).trail =
      compiler.inspectAll (visits.flatMap Visit.inspections) workshop := by
  induction visits generalizing book workshop with
  | nil => rfl
  | cons visit visits inductionHypothesis =>
      rw [List.flatMap_cons, inspectAll_append, ← trail_stop visit book, walk]
      cases compiler.stop visit book workshop with
      | mk outcome next =>
          cases outcome with
          | error fault => rfl
          | ok book => exact inductionHypothesis book next

/-- A workshop after some inspections without faults has built the checks of their declarations, and it
has called the maker of each declaration once. -/
structure Records (compiler : Compiler) (workshop : Workshop) (done : List Inspection) : Prop where
  keeps : compiler.Keeps workshop
  calls : workshop.calls = firstOfKeys (compiler.registered done)
  built : ∀ declaration, (workshop.built.lookup declaration.buildKey).isSome = true ↔
    declaration ∈ compiler.registered done

theorem firstOfKeys_eq (declarations : List Declaration) :
    firstOfKeys declarations = declarations.eraseDups := by
  have sameKey : (fun left right : Declaration => left.buildKey == right.buildKey) = (· == ·) := by
    funext left right
    rw [Bool.eq_iff_iff, beq_iff_eq, beq_iff_eq]
    exact Declaration.buildKey_injective.eq_iff
  rw [firstOfKeys, sameKey]
  rfl

theorem firstOfKeys_concat (declarations : List Declaration) (last : Declaration) :
    firstOfKeys (declarations ++ [last]) =
      if last ∈ declarations then firstOfKeys declarations else firstOfKeys declarations ++ [last] := by
  rw [firstOfKeys_eq, firstOfKeys_eq, eraseDups_concat]

theorem registered_append (first later : List Inspection) :
    compiler.registered (first ++ later) = compiler.registered first ++ compiler.registered later :=
  List.filterMap_append

theorem registered_check (path : Path) (declaration : Declaration) :
    compiler.registered [.check path declaration] =
      if compiler.registry.contains declaration.id then [declaration] else [] := by
  cases known : compiler.registry.contains declaration.id <;> simp [registered, known]

theorem fault?_check (path : Path) (declaration : Declaration) :
    compiler.fault? (.check path declaration) =
      match compiler.registry.build compiler.catalog path declaration with
      | .ok _ => none
      | .error fault => some fault := by
  rw [fault?, Registry.build]
  cases compiler.registry.makers.get? declaration.id with
  | none => rfl
  | some maker =>
      simp only
      cases maker declaration.params compiler.catalog <;> rfl

/-- What was built before does not change what an inspection finds. -/
theorem inspect_fault (keeps : compiler.Keeps workshop) (inspection : Inspection) :
    (compiler.inspect workshop inspection).1 = compiler.fault? inspection := by
  cases inspection with
  | check path declaration =>
      obtain ⟨anew, _⟩ := obtain_spec keeps path declaration
      rw [inspect, fault?_check, ← anew]
      obtain ⟨_ | _, _⟩ := compiler.obtain path declaration workshop <;> rfl
  | key parent name => rfl

theorem inspect_check (path : Path) (declaration : Declaration) (workshop : Workshop) :
    (compiler.inspect workshop (.check path declaration)).2 =
      (compiler.obtain path declaration workshop).2 := by
  rw [inspect]
  obtain ⟨_ | _, _⟩ := compiler.obtain path declaration workshop <;> rfl

theorem contains_of_mem_registered {inspections : List Inspection} {declaration : Declaration}
    (listed : declaration ∈ compiler.registered inspections) :
    compiler.registry.contains declaration.id = true := by
  obtain ⟨inspection, _, found⟩ := List.mem_filterMap.mp listed
  cases inspection with
  | key parent name => cases found
  | check path other =>
      simp only at found
      split at found <;> cases found
      assumption

theorem contains_of_build {path : Path} {declaration : Declaration} {check : Check}
    (built : compiler.registry.build compiler.catalog path declaration = .ok check) :
    compiler.registry.contains declaration.id = true := by
  rw [Registry.contains, OrderedMap.contains]
  unfold Registry.build at built
  cases found : compiler.registry.makers.get? declaration.id with
  | none =>
      rw [found] at built
      cases built
  | some maker => rfl

/-- A declaration whose check was built is passed over. -/
theorem Records.obtain_of_mem {done : List Inspection} (records : compiler.Records workshop done)
    {declaration : Declaration} (repeated : declaration ∈ compiler.registered done) (path : Path) :
    (compiler.obtain path declaration workshop).2 = workshop := by
  obtain ⟨check, kept⟩ := Option.isSome_iff_exists.mp ((records.built declaration).mpr repeated)
  rw [obtain, kept]

/-- The maker of a new declaration is called when its type is registered, and a check that comes of it is
kept. -/
theorem Records.obtain_of_not_mem {done : List Inspection} (records : compiler.Records workshop done)
    {declaration : Declaration} (new : declaration ∉ compiler.registered done) (path : Path) :
    (compiler.obtain path declaration workshop).2.calls =
        workshop.calls ++
          (if compiler.registry.contains declaration.id then [declaration] else []) ∧
      ∀ check, compiler.registry.build compiler.catalog path declaration = .ok check →
        (compiler.obtain path declaration workshop).2.built =
          (declaration.buildKey, check) :: workshop.built := by
  have missing : workshop.built.lookup declaration.buildKey = none := by
    rw [← Option.not_isSome_iff_eq_none, records.built]
    exact new
  rw [obtain, missing]
  simp only
  constructor
  · split <;> split <;> simp
  · intro check built
    rw [built]

/-- After a check was obtained, the checks of the same declarations are built and its own. -/
theorem Records.built_obtain {done : List Inspection} (records : compiler.Records workshop done)
    {path : Path} {declaration : Declaration} {check : Check}
    (built : compiler.registry.build compiler.catalog path declaration = .ok check)
    (other : Declaration) :
    ((compiler.obtain path declaration workshop).2.built.lookup other.buildKey).isSome = true ↔
      other ∈ compiler.registered done ∨ other = declaration := by
  rw [← records.built other]
  by_cases repeated : declaration ∈ compiler.registered done
  · rw [records.obtain_of_mem repeated]
    constructor
    · exact .inl
    · intro known
      rcases known with kept | rfl
      · exact kept
      · exact (records.built other).mpr repeated
  · rw [(records.obtain_of_not_mem repeated path).2 check built, List.lookup_cons]
    by_cases same : other = declaration
    · simp [same]
    · have differ : (other.buildKey == declaration.buildKey) = false :=
        beq_false_of_ne fun sameKey => same (Declaration.buildKey_injective sameKey)
      simp [differ, same]

/-- One inspection calls the maker of a declaration with a registered type, unless it was called before. -/
theorem Records.calls_inspect {done : List Inspection} (records : compiler.Records workshop done)
    (inspection : Inspection) :
    (compiler.inspect workshop inspection).2.calls =
      firstOfKeys (compiler.registered (done ++ [inspection])) := by
  rw [registered_append]
  cases inspection with
  | key parent name =>
      change workshop.calls = firstOfKeys (compiler.registered done ++ [])
      rw [List.append_nil, records.calls]
  | check path declaration =>
      rw [inspect_check, registered_check]
      by_cases repeated : declaration ∈ compiler.registered done
      · rw [records.obtain_of_mem repeated, if_pos (contains_of_mem_registered repeated),
          firstOfKeys_concat, if_pos repeated, records.calls]
      · rw [(records.obtain_of_not_mem repeated path).1, records.calls]
        split
        · rw [firstOfKeys_concat, if_neg repeated]
        · rw [List.append_nil, List.append_nil]

/-- An inspection without a fault keeps the record. -/
theorem Records.inspect {done : List Inspection} (records : compiler.Records workshop done)
    {inspection : Inspection} (passes : compiler.fault? inspection = none) :
    compiler.Records (compiler.inspect workshop inspection).2 (done ++ [inspection]) := by
  have calls := records.calls_inspect inspection
  cases inspection with
  | key parent name =>
      refine ⟨records.keeps, calls, fun declaration => ?_⟩
      have same : compiler.registered (done ++ [.key parent name]) = compiler.registered done :=
        (registered_append done _).trans (List.append_nil _)
      rw [same]
      exact records.built declaration
  | check path declaration =>
      have built : ∃ check, compiler.registry.build compiler.catalog path declaration = .ok check := by
        rw [fault?_check] at passes
        split at passes
        · next check built => exact ⟨check, built⟩
        · cases passes
      obtain ⟨check, built⟩ := built
      have keeps := (obtain_spec records.keeps path declaration).2
      rw [← inspect_check] at keeps
      refine ⟨keeps, calls, fun other => ?_⟩
      rw [inspect_check, records.built_obtain built, registered_append, registered_check,
        if_pos (contains_of_build built), List.mem_append, List.mem_singleton]

/-- Inspections end with the first fault that one of them finds, and they call the makers of the
declarations that they meet once each, in order. -/
theorem Records.inspectAll {done : List Inspection} (records : compiler.Records workshop done)
    (inspections : List Inspection) :
    (compiler.inspectAll inspections workshop).1 = inspections.findSome? compiler.fault? ∧
      (compiler.inspectAll inspections workshop).2.calls =
        firstOfKeys (compiler.registered (done ++ compiler.met inspections)) := by
  induction inspections generalizing workshop done with
  | nil => exact ⟨rfl, by rw [met, List.append_nil]; exact records.calls⟩
  | cons inspection later inductionHypothesis =>
      have fault := inspect_fault records.keeps inspection
      have calls := records.calls_inspect inspection
      have continues := @Records.inspect _ _ _ records inspection
      rw [Compiler.inspectAll, List.findSome?_cons, met, ← fault]
      rw [← fault] at continues
      cases inspected : compiler.inspect workshop inspection with
      | mk found next =>
          rw [inspected] at calls continues
          cases found with
          | some error => exact ⟨rfl, calls⟩
          | none =>
              have onward := inductionHypothesis (continues rfl)
              rwa [List.append_assoc] at onward

theorem records_empty (compiler : Compiler) : compiler.Records {} [] where
  keeps := keeps_empty compiler
  calls := rfl
  built := fun declaration => by simp [registered]

theorem compileAt_eq_inspectAll (compiler : Compiler) (base : Path) (schema : Schema) :
    let compilation := compiler.compileAt base schema
    let inspected := compiler.inspectAll (schema.inspections base) {}
    ((∃ compiled, compilation.result = .ok compiled) ↔ inspected.1 = none) ∧
      (∀ error, compilation.result = .error error ↔ inspected.1 = some error) ∧
      compilation.calls = inspected.2.calls := by
  simp only [Schema.inspections, ← trail_walk (schema.visits base) .empty, compileAt]
  cases compiler.walk (schema.visits base) .empty {} with
  | mk outcome workshop => cases outcome <;> simp [Outcome.trail]

/-- A compilation follows the inspections of its schema. It succeeds when none of them finds a fault, and
otherwise its result is the first fault. Up to there it calls the makers of the declarations with a
registered type, in order and once for each key. -/
theorem compileAt_firstFault (compiler : Compiler) (base : Path) (schema : Schema) :
    let compilation := compiler.compileAt base schema
    let inspections := schema.inspections base
    (inspections = schema.checks.map (.check base) ++
        (schema.children.flatMap fun child =>
          .key base child.1 :: child.2.inspections (base.key child.1)) ++
        schema.items.toList.flatMap (Schema.inspections base.item)) ∧
      ((∃ compiled, compilation.result = .ok compiled) ↔
        ∀ inspection ∈ inspections, compiler.fault? inspection = none) ∧
      (∀ error, compilation.result = .error error ↔
        inspections.findSome? compiler.fault? = some error) ∧
      compilation.calls = firstOfKeys (compiler.registered (compiler.met inspections)) := by
  intro compilation inspections
  obtain ⟨fault, calls⟩ := (records_empty compiler).inspectAll inspections
  obtain ⟨succeeds, fails, sameCalls⟩ := compiler.compileAt_eq_inspectAll base schema
  rw [fault] at succeeds fails
  exact ⟨schema.inspections_eq base, succeeds.trans List.findSome?_eq_none_iff, fails,
    sameCalls.trans calls⟩

end Compiler

end Forms
