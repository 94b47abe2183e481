/-
This file proves which field a reference means. A valid key means the member beside the field that is
checked, and the text of any other path means the field at that path, wherever the check stands.
-/

import Forms.Check.Standard
import Forms.Proofs.Path.Addressing

namespace Forms

namespace Site

variable {site : Site} {path : Path} {reference name : String}

/-- The value of the field that a path means. A single key leads to a member beside the field, and any
other path starts at the root. -/
def named? (site : Site) (path : Path) : Option Json :=
  match path.steps with
  | [.key name] => site.path.parent?.bind fun parent => (parent.key name).lookup site.values
  | _ => path.lookup site.values

theorem isAbsolute_iff :
    isAbsolute reference = true ↔ '.' ∈ reference.toList ∨ '[' ∈ reference.toList := by
  simp only [isAbsolute, List.any_eq_true, Bool.or_eq_true, beq_iff_eq]
  constructor
  · rintro ⟨character, member, rfl | rfl⟩
    · exact .inl member
    · exact .inr member
  · rintro (member | member)
    · exact ⟨_, member, .inl rfl⟩
    · exact ⟨_, member, .inr rfl⟩

/-- A valid key has no mark of a path in it. -/
theorem isAbsolute_of_isValidKey (valid : Path.isValidKey name = true) : isAbsolute name = false := by
  have key := Path.isValidKey_iff.mp valid
  rw [← Bool.not_eq_true, isAbsolute_iff, not_or]
  constructor
  · intro member
    exact key.plain _ member (by decide)
  · intro member
    exact key.plain _ member (by decide)

/-- Every step that does not stand alone brings a point or an opening bracket. -/
theorem exists_mark (step : Step) : '.' ∈ step.chars ∨ '[' ∈ step.chars := by
  cases step with
  | key name => exact .inl List.mem_cons_self
  | index position => exact .inr List.mem_cons_self
  | item => exact .inr List.mem_cons_self

/-- The text of a path that is not a single key is absolute. -/
theorem isAbsolute_text (present : path.steps ≠ []) (longer : ∀ name, path.steps ≠ [.key name]) :
    isAbsolute path.text = true := by
  obtain ⟨steps⟩ := path
  have marked : ∃ step : Step, step.chars ⊆ Path.chars ⟨steps⟩ := by
    match steps with
    | [] => exact absurd rfl present
    | [.key name] => exact absurd rfl (longer name)
    | .key name :: step :: steps => exact ⟨step, by simp [Path.chars]⟩
    | .index position :: steps => exact ⟨.index position, by simp [Path.chars]⟩
    | .item :: steps => exact ⟨.item, by simp [Path.chars]⟩
  obtain ⟨step, inside⟩ := marked
  rw [isAbsolute_iff, Path.text, String.toList_ofList]
  exact (exists_mark step).imp (@inside _) (@inside _)

/-- A valid key means the member beside the field. -/
theorem resolve?_of_isValidKey (valid : Path.isValidKey name = true) :
    site.resolve? name = site.sibling? name := by
  rw [resolve?, isAbsolute_of_isValidKey valid]
  rfl

/-- The text of a path means the field that the path means. -/
theorem resolve?_text (writable : path.isWritable = true) (present : path.isRoot = false) :
    site.resolve? path.text = site.named? path := by
  have someStep : path.steps ≠ [] := by simpa [Path.isRoot] using present
  by_cases single : ∃ name, path.steps = [.key name]
  · obtain ⟨name, only⟩ := single
    have valid : Path.isValidKey name = true :=
      List.all_eq_true.mp writable (.key name) (by rw [only]; exact List.mem_singleton_self _)
    have text : path.text = name := by simp [Path.text, Path.chars, only]
    rw [text, resolve?_of_isValidKey valid, named?, only]
    rfl
  · have longer := not_exists.mp single
    rw [resolve?, if_pos (isAbsolute_text someStep longer), Path.ofText_text writable, named?]
    change path.lookup site.values = _
    split
    · next name only => exact absurd only (longer name)
    · rfl

/-- A reference with a mark of a path means nothing when it is not the text of a path. -/
theorem resolve?_of_malformed (marked : '.' ∈ reference.toList ∨ '[' ∈ reference.toList)
    (malformed : ∀ steps, ¬ Path.IsText true steps reference.toList) :
    site.resolve? reference = none := by
  rw [resolve?, if_pos (isAbsolute_iff.mpr marked)]
  cases read : Path.ofText reference with
  | ok path => exact absurd (Path.ofText_eq_ok_iff.mp read) (malformed path.steps)
  | error error => rfl

end Site

namespace Check

/-- A check compares the values of its field with those of another one. It accepts a value when the other
field has the same value, and it has one message for every other value. -/
def Compares (check : Check) (reference : String) : Prop :=
  ∃ message, ∀ value site, value.isAbsent = false →
    ((∃ other, site.resolve? reference = some other ∧ other.same value = true) →
      check value site = .valid) ∧
    ((¬ ∃ other, site.resolve? reference = some other ∧ other.same value = true) →
      check value site = .violation message)

theorem Compares.eq_valid_iff {check : Check} {reference : String} (compares : check.Compares reference)
    {value : Json} (present : value.isAbsent = false) (site : Site) :
    check value site = .valid ↔
      ∃ other, site.resolve? reference = some other ∧ other.same value = true := by
  obtain ⟨message, verdict⟩ := compares
  obtain ⟨accepted, refused⟩ := verdict value site present
  refine ⟨fun valid => ?_, accepted⟩
  by_contra differs
  rw [refused differs] at valid
  cases valid

/-- Of two fields beside each other it does not matter which one is compared with the other. -/
theorem Compares.comm {left right : Check} {first second : String}
    (validFirst : Path.isValidKey first = true) (validSecond : Path.isValidKey second = true)
    (leftCompares : left.Compares second) (rightCompares : right.Compares first) {base : Path}
    {values : Json} (presentFirst : (Site.value ⟨base.key first, values⟩).isAbsent = false)
    (presentSecond : (Site.value ⟨base.key second, values⟩).isAbsent = false) :
    left (Site.value ⟨base.key first, values⟩) ⟨base.key first, values⟩ = .valid ↔
      right (Site.value ⟨base.key second, values⟩) ⟨base.key second, values⟩ = .valid := by
  have beside (here there : String) :
      Site.sibling? ⟨base.key here, values⟩ there = (base.key there).lookup values := by
    simp [Site.sibling?, Path.parent?, Path.isRoot, Path.key, Path.push]
  have held (name : String) (present : (Site.value ⟨base.key name, values⟩).isAbsent = false) :
      (base.key name).lookup values = some (Site.value ⟨base.key name, values⟩) := by
    rw [Site.value] at present ⊢
    cases found : (base.key name).lookup values with
    | none =>
        rw [found] at present
        cases present
    | some value => rfl
  rw [leftCompares.eq_valid_iff presentFirst, rightCompares.eq_valid_iff presentSecond,
    Site.resolve?_of_isValidKey validFirst, Site.resolve?_of_isValidKey validSecond, beside, beside,
    held first presentFirst, held second presentSecond]
  simp [Json.same_comm]

end Check

namespace StandardCheck

variable {params : Json} {reference : String}

theorem not_same_null {value : Json} (present : value.isAbsent = false) :
    Json.null.same value = false := by
  cases value with
  | null => cases present
  | _ => simp [Json.same, Json.canonical]

theorem compares_equals (message reference : String) : (equals message reference).Compares reference := by
  refine ⟨message, fun value site present => ?_⟩
  have verdict : equals message reference value site =
      if ((site.resolve? reference).getD .null).same value then .valid else .violation message := by
    rw [equals, Check.present, present]
    rfl
  rw [verdict]
  cases site.resolve? reference with
  | none => simp [not_same_null present]
  | some other => simp

/-- The maker of comparisons takes every reference, and what it makes compares with the field that the
reference means. -/
theorem equalsField_maker (catalog : Catalog) (named : Params.text params "field" = .ok reference) :
    ∃ check, equalsField.maker params catalog = .ok check ∧ check.Compares reference := by
  have made : ∃ message, equalsField.maker params catalog = .ok (equals message reference) := by
    change ∃ message, equalsFieldMaker params catalog = _
    rw [equalsFieldMaker, named]
    exact ⟨_, rfl⟩
  obtain ⟨message, made⟩ := made
  exact ⟨_, made, compares_equals message reference⟩

end StandardCheck

/-- References mean the fields that they spell. From any field the text of an addressable path with valid
keys means the member beside the field when the path is a single key, and the field at the path otherwise. A reference
with a point or an opening bracket that is not the text of a path means nothing. The standard comparison
can be made for every reference. It accepts a value exactly when the field that the reference means is there
and has the same value, and it refuses the value otherwise. Of two fields beside each other that both have
values it does not matter which one is compared with the other, also in elements of arrays. -/
theorem references_exact :
    (∀ (site : Site) (path : Path), path.isAddressable = true → path.isRoot = false →
      (∀ name ∈ path.keyNames, Path.isValidKey name = true) →
        site.resolve? path.text = site.named? path) ∧
    (∀ (site : Site) (reference : String), ('.' ∈ reference.toList ∨ '[' ∈ reference.toList) →
      (∀ steps, ¬ Path.IsText true steps reference.toList) → site.resolve? reference = none) ∧
    (∀ params catalog reference, Params.text params "field" = .ok reference →
      ∃ check, StandardCheck.equalsField.maker params catalog = .ok check ∧ check.Compares reference) ∧
    ∀ leftParams rightParams leftCatalog rightCatalog left right first second (base : Path) values,
      Path.isValidKey first = true → Path.isValidKey second = true →
      Params.text leftParams "field" = .ok second → Params.text rightParams "field" = .ok first →
      StandardCheck.equalsField.maker leftParams leftCatalog = .ok left →
      StandardCheck.equalsField.maker rightParams rightCatalog = .ok right →
      let firstSite : Site := ⟨base.key first, values⟩
      let secondSite : Site := ⟨base.key second, values⟩
      firstSite.value.isAbsent = false → secondSite.value.isAbsent = false →
        (left firstSite.value firstSite = .valid ↔ right secondSite.value secondSite = .valid) := by
  refine ⟨?_, fun _ _ => Site.resolve?_of_malformed, fun _ catalog _ => StandardCheck.equalsField_maker catalog, ?_⟩
  · intro site path addressable present valid
    exact Site.resolve?_text (Path.isWritable_iff.mpr ⟨addressable, valid⟩) present
  · intro leftParams rightParams leftCatalog rightCatalog left right first second base values validFirst
      validSecond leftNamed rightNamed leftMade rightMade firstSite secondSite presentFirst presentSecond
    obtain ⟨check, made, leftCompares⟩ := StandardCheck.equalsField_maker leftCatalog leftNamed
    obtain rfl : check = left := Except.ok.inj (made.symm.trans leftMade)
    obtain ⟨check, made, rightCompares⟩ := StandardCheck.equalsField_maker rightCatalog rightNamed
    obtain rfl : check = right := Except.ok.inj (made.symm.trans rightMade)
    exact leftCompares.comm validFirst validSecond rightCompares presentFirst presentSecond

/-- A guest repeats an address, and the host has another one. -/
def invitation : Json :=
  .object [
    ("mail", .string "host@b.c"),
    ("guests", .array [.object [("mail", .string "a@b.c"), ("again", .string "a@b.c")]])]

/-- The place of the repeated address. -/
def invitationSite : Site := ⟨⟨[.key "guests", .index 0, .key "again"]⟩, invitation⟩

/-- The key of the address means the address of the guest and not that of the host. The text of its path
means the same, and without the point it means nothing. -/
theorem references_invitation :
    invitationSite.resolve? (Path.text ⟨[.key "mail"]⟩) = some (.string "a@b.c") ∧
      invitationSite.resolve? (Path.text ⟨[.key "guests", .index 0, .key "mail"]⟩) =
        some (.string "a@b.c") ∧
      invitationSite.resolve? "guests[0]mail" = none ∧
      Params.text (.string "mail") "field" = .ok "mail" ∧
      ∃ check, StandardCheck.equalsField.maker (.string "mail") .standard = .ok check ∧
        check (.string "a@b.c") invitationSite = .valid ∧
        check (.string "host@b.c") invitationSite ≠ .valid := by
  have single := references_exact.1 invitationSite ⟨[.key "mail"]⟩ (by decide) (by decide) (by decide)
  have longer := references_exact.1 invitationSite ⟨[.key "guests", .index 0, .key "mail"]⟩ (by decide)
    (by decide) (by decide)
  have malformed (steps : List Step) : ¬ Path.IsText true steps "guests[0]mail".toList := by
    intro spelled
    have read : Path.ofText "guests[0]mail" = .ok ⟨steps⟩ := Path.ofText_eq_ok_iff.mpr spelled
    have refused : (Path.ofText "guests[0]mail").toOption = none := by decide +kernel
    rw [read] at refused
    cases refused
  have nothing := references_exact.2.1 invitationSite "guests[0]mail" (by decide) malformed
  have named : Params.text (.string "mail") "field" = .ok "mail" := rfl
  obtain ⟨check, made, compares⟩ := references_exact.2.2.1 (.string "mail") .standard "mail" named
  have beside : invitationSite.resolve? "mail" = some (.string "a@b.c") := single
  refine ⟨single, longer, nothing, named, check, made, ?_, ?_⟩
  · rw [compares.eq_valid_iff (by decide), beside]
    exact ⟨_, rfl, Json.same_self _⟩
  · rw [ne_eq, compares.eq_valid_iff (by decide), beside]
    rintro ⟨_, ⟨⟩, same⟩
    cases same

end Forms
