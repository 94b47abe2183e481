/-
This file proves that a compilation does not depend on what was built before. Declarations with one key
are equal, so a check that is used again is the check that its declaration would build anew.
-/

import Forms.Compiler
import Forms.Proofs.Json.Text
import Forms.Proofs.Results

namespace Forms

/-- Declarations with one key are one declaration. -/
theorem Declaration.buildKey_injective : Function.Injective buildKey := by
  intro left right same
  obtain ⟨sameId, sameText⟩ := Prod.mk.inj same
  cases left
  cases right
  cases sameId
  cases Json.text_injective sameText
  rfl

namespace Compiler

/-- The check that a declaration builds anew. -/
def check? (compiler : Compiler) (declaration : Declaration) : Option Check :=
  (compiler.registry.makers.get? declaration.id).bind fun maker =>
    (maker declaration.params compiler.catalog).toOption

/-- The rules of one field when every check is built anew. -/
def rulesAnew (compiler : Compiler) (path : Path) (declarations : List Declaration) :
    Except CompileError (List Rule) :=
  declarations.mapM fun declaration =>
    Rule.mk declaration <$> compiler.registry.build compiler.catalog path declaration

/-- A book after a stop when every check is built anew. -/
def stopAnew (compiler : Compiler) (book : Rulebook) : Visit → Except CompileError Rulebook
  | .field path checks => book.insert path <$> compiler.rulesAnew path checks
  | .key parent name =>
      if Path.isValidKey name then .ok book else .error (.invalidKey name parent)

/-- The compiled form when the maker of every declaration is called, also for equal declarations. -/
def compileAnew (compiler : Compiler) (path : Path) (schema : Schema) :
    Except CompileError Compiled :=
  Compiled.mk (.ofSchema compiler.options path none schema) <$>
    (schema.visits path).foldlM compiler.stopAnew .empty

/-- A workshop keeps only checks that their declarations would build anew. -/
def Keeps (compiler : Compiler) (workshop : Workshop) : Prop :=
  ∀ declaration check, workshop.built.lookup declaration.buildKey = some check →
    compiler.check? declaration = some check

variable {compiler : Compiler} {workshop : Workshop}

theorem toOption_build (compiler : Compiler) (path : Path) (declaration : Declaration) :
    (compiler.registry.build compiler.catalog path declaration).toOption =
      compiler.check? declaration := by
  unfold Registry.build check?
  cases compiler.registry.makers.get? declaration.id with
  | none => rfl
  | some maker =>
      simp only [Option.bind_some]
      cases maker declaration.params compiler.catalog <;> rfl

theorem keeps_empty (compiler : Compiler) : compiler.Keeps {} := fun _ _ kept => nomatch kept

/-- A new check is kept under the key of its declaration, which no other declaration has. -/
theorem Keeps.add (keeps : compiler.Keeps workshop) {declaration : Declaration} {check : Check}
    (built : compiler.check? declaration = some check) (calls : List Declaration) :
    compiler.Keeps ⟨(declaration.buildKey, check) :: workshop.built, calls⟩ := by
  intro other found kept
  simp only [List.lookup_cons] at kept
  split at kept
  · next same =>
      cases kept
      rw [Declaration.buildKey_injective (beq_iff_eq.mp same)]
      exact built
  · exact keeps other found kept

/-- A check comes out the same whether it is used again or built anew. -/
theorem obtain_spec (keeps : compiler.Keeps workshop) (path : Path) (declaration : Declaration) :
    (compiler.obtain path declaration workshop).1 =
        compiler.registry.build compiler.catalog path declaration ∧
      compiler.Keeps (compiler.obtain path declaration workshop).2 := by
  have anew := compiler.toOption_build path declaration
  unfold obtain
  split
  · next check kept =>
      rw [keeps declaration check kept, toOption_eq_some_iff] at anew
      exact ⟨anew.symm, keeps⟩
  · cases built : compiler.registry.build compiler.catalog path declaration with
    | ok check =>
        rw [built] at anew
        exact ⟨rfl, keeps.add anew.symm _⟩
    | error fault => exact ⟨rfl, keeps⟩

theorem rulesFor_spec (keeps : compiler.Keeps workshop) (path : Path)
    (declarations : List Declaration) :
    (compiler.rulesFor path declarations workshop).1 = compiler.rulesAnew path declarations ∧
      compiler.Keeps (compiler.rulesFor path declarations workshop).2 := by
  induction declarations generalizing workshop with
  | nil => exact ⟨rfl, keeps⟩
  | cons declaration declarations inductionHypothesis =>
      obtain ⟨first, keepsNext⟩ := obtain_spec keeps path declaration
      rw [rulesAnew, List.mapM_cons, ← first]
      cases obtained : compiler.obtain path declaration workshop with
      | mk outcome next =>
          rw [obtained] at keepsNext
          cases outcome with
          | error fault =>
              simp only [rulesFor, obtained]
              exact ⟨rfl, keepsNext⟩
          | ok check =>
              obtain ⟨later, keepsLast⟩ := inductionHypothesis keepsNext
              rw [rulesAnew] at later
              rw [← later]
              cases built : compiler.rulesFor path declarations next with
              | mk outcome last =>
                  rw [built] at keepsLast
                  simp only [rulesFor, obtained, built]
                  cases outcome <;> exact ⟨rfl, keepsLast⟩

theorem stop_spec (keeps : compiler.Keeps workshop) (visit : Visit) (book : Rulebook) :
    (compiler.stop visit book workshop).1 = compiler.stopAnew book visit ∧
      compiler.Keeps (compiler.stop visit book workshop).2 := by
  cases visit with
  | field path checks =>
      obtain ⟨rules, keepsNext⟩ := rulesFor_spec keeps path checks
      simp only [stop, stopAnew]
      rw [← rules]
      cases built : compiler.rulesFor path checks workshop with
      | mk outcome next =>
          rw [built] at keepsNext
          cases outcome <;> exact ⟨rfl, keepsNext⟩
  | key parent name =>
      simp only [stop, stopAnew]
      split
      · exact ⟨rfl, keeps⟩
      · exact ⟨rfl, keeps⟩

/-- A way through a schema comes out as if every check were built anew. -/
theorem walk_spec (keeps : compiler.Keeps workshop) (visits : List Visit) (book : Rulebook) :
    (compiler.walk visits book workshop).1 = visits.foldlM compiler.stopAnew book := by
  induction visits generalizing book workshop with
  | nil => rfl
  | cons visit visits inductionHypothesis =>
      obtain ⟨stopped, keepsNext⟩ := stop_spec keeps visit book
      unfold walk
      rw [List.foldlM_cons, ← stopped]
      cases ended : compiler.stop visit book workshop with
      | mk outcome next =>
          rw [ended] at keepsNext
          cases outcome with
          | error fault => rfl
          | ok book => exact inductionHypothesis keepsNext book

theorem compileAt_eq (compiler : Compiler) (base : Path) (schema : Schema) :
    (compiler.compileAt base schema).result = compiler.compileAnew base schema := by
  rw [compileAnew, ← walk_spec compiler.keeps_empty, compileAt]
  cases compiler.walk (schema.visits base) .empty {} with
  | mk outcome workshop => cases outcome <;> rfl

/-- Nobody can tell that checks are used again. A form and an element of an array compile to what they
would compile to with a call of the maker for every declaration: the same fault, or the same view and
rules whose checks give the same verdicts. The reason is that declarations with one key are equal. -/
theorem result_anew (compiler : Compiler) :
    (∀ schema, (compiler.compile schema).result = compiler.compileAnew .root schema) ∧
      (∀ array position schema, (compiler.compileItem array position schema).result =
        compiler.compileAnew (array.index position) schema) ∧
      ∀ left right : Declaration, left.buildKey = right.buildKey → left = right :=
  ⟨compiler.compileAt_eq .root, fun array position => compiler.compileAt_eq (array.index position),
    fun _ _ same => Declaration.buildKey_injective same⟩

end Compiler

end Forms
