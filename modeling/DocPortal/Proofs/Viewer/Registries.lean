/-
Registries over time. Whatever is done to several registries, in whatever
order, a registry holds what the first install for it has built: each
operation offers at most one configuration to one registry, and only an
empty one takes it (`run_keeps_first`).
-/
import DocPortal.Viewer.Registry

namespace DocPortal.Viewer.Registries

open Log (Event Report)
open Registry (InstallError installation)

/-! ## Steps -/

/-- Registries in which nothing is installed yet. -/
def empty : Registries := fun _ => {}

/-- What an operation offers to a registry: what an install for it has built. -/
def Op.offer? (number : Nat) : Op → Option Config
  | .get _ => none
  | .install addressed built => if addressed = number then built.result.toOption else none

theorem offer?_eq_some_iff {op : Op} {number : Nat} {config : Config} :
    op.offer? number = some config ↔
      ∃ built, op = .install number built ∧ built.result = .ok config := by
  cases op with
  | get addressed => simp [Op.offer?]
  | install addressed built =>
    by_cases hnumber : addressed = number
    · subst hnumber
      cases hbuilt : built.result with
      | error cause => simp [Op.offer?, hbuilt, Except.toOption]
      | ok config => simp [Op.offer?, hbuilt, Except.toOption]
    · simp [Op.offer?, hnumber]

section Install

variable {registries : Registries} {number : Nat} {built : Report ConfigError Config}
  {config : Config}

theorem step_install_of_error {cause : ConfigError} (hbuilt : built.result = .error cause) :
    registries.step (.install number built) =
      (registries, ⟨some (.refused cause), (registries number).installed?, built.events⟩) := by
  have hrefused := Report.mapError_result_of_error InstallError.refused hbuilt
  rw [step, Registry.installBuilt, Report.bind_error hrefused]
  rfl

variable (hbuilt : built.result = .ok config)
include hbuilt

theorem step_install_of_full {first : Config} (hfull : (registries number).installed? = some first) :
    registries.step (.install number built) =
      (registries, ⟨some .alreadyInstalled, some first, built.events⟩) := by
  have hconfig : (built.mapError InstallError.refused).result = .ok config :=
    Report.mapError_result_eq_ok.2 hbuilt
  rw [step, Registry.installBuilt, Report.bind_ok hconfig, Registry.install, hfull]
  simp only [Report.fail, List.append_nil]
  rfl

theorem step_install_of_empty (hempty : (registries number).installed? = none) :
    registries.step (.install number built) =
      (registries.set number ⟨some config⟩,
        ⟨none, some config, built.events ++ [installation config]⟩) := by
  have hconfig : (built.mapError InstallError.refused).result = .ok config :=
    Report.mapError_result_eq_ok.2 hbuilt
  rw [step, Registry.installBuilt, Report.bind_ok hconfig, Registry.install, hempty]
  rfl

end Install

/-- A registry holds after an operation what it held, or else what the operation offers it. -/
theorem installed?_step (registries : Registries) (op : Op) (number : Nat) :
    ((registries.step op).1 number).installed? =
      (registries number).installed?.or (op.offer? number) := by
  cases op with
  | get addressed => simp [step, Op.offer?]
  | install addressed built =>
    cases hbuilt : built.result with
    | error cause =>
      rw [step_install_of_error hbuilt]
      simp [Op.offer?, hbuilt, Except.toOption]
    | ok config =>
      cases hheld : (registries addressed).installed? with
      | some first =>
        rw [step_install_of_full hbuilt hheld]
        by_cases hnumber : addressed = number
        · subst hnumber
          rw [hheld, Option.some_or]
        · simp [Op.offer?, hnumber]
      | none =>
        rw [step_install_of_empty hbuilt hheld]
        dsimp only [set]
        by_cases hnumber : number = addressed
        · subst hnumber
          simp [Op.offer?, hbuilt, hheld, Except.toOption]
        · simp [Op.offer?, hnumber, Ne.symm hnumber]

/-! ## Runs -/

/-- The registries after several operations. -/
def after (registries : Registries) (ops : List Op) : Registries :=
  ops.foldl (fun registries op => (registries.step op).1) registries

theorem after_append (registries : Registries) (before ops : List Op) :
    registries.after (before ++ ops) = (registries.after before).after ops := by
  rw [after, List.foldl_append, ← after, ← after]

/-- The configuration that is first offered to a registry. -/
def firstOffer? (number : Nat) (ops : List Op) : Option Config :=
  ops.findSome? (Op.offer? number)

theorem installed?_after (registries : Registries) (ops : List Op) (number : Nat) :
    (registries.after ops number).installed? =
      (registries number).installed?.or (firstOffer? number ops) := by
  induction ops generalizing registries with
  | nil => simp [after, firstOffer?]
  | cons op ops ih =>
    have hstep : registries.after (op :: ops) = ((registries.step op).1).after ops := rfl
    rw [hstep, ih, installed?_step, Option.or_assoc, firstOffer?, firstOffer?,
      List.findSome?_cons]
    cases op.offer? number <;> rfl

theorem installed?_after_empty (ops : List Op) (number : Nat) :
    (empty.after ops number).installed? = firstOffer? number ops := by
  rw [installed?_after]
  rfl

/-- What an operation comes to in a run is told by the registries it finds. -/
theorem getElem?_run (registries : Registries) (before later : List Op) (op : Op) :
    (registries.run (before ++ op :: later))[before.length]? =
      some ((registries.after before).step op).2 := by
  induction before generalizing registries with
  | nil => rfl
  | cons first before ih =>
    rw [List.cons_append, run]
    exact ih _

/-- What an operation comes to behind others: a registry shows what was first offered to it, and an
install succeeds, and is told, if there was nothing. -/
inductive ComesTo (before : List Op) : Op → Outcome → Prop where
  | get (number : Nat) :
    ComesTo before (.get number) ⟨none, firstOffer? number before, []⟩
  | refused (number : Nat) {built : Report ConfigError Config} {cause : ConfigError}
    (hbuilt : built.result = .error cause) :
    ComesTo before (.install number built)
      ⟨some (.refused cause), firstOffer? number before, built.events⟩
  | installed {number : Nat} {built : Report ConfigError Config} {config : Config}
    (hbuilt : built.result = .ok config) (hnone : firstOffer? number before = none) :
    ComesTo before (.install number built)
      ⟨none, some config, built.events ++ [⟨.debug, "docs_gateway::registry",
        "Installed documentation config with " ++ toString config.sources.length ++ " sources"⟩]⟩
  | late {number : Nat} {built : Report ConfigError Config} {config first : Config}
    (hbuilt : built.result = .ok config) (hfirst : firstOffer? number before = some first) :
    ComesTo before (.install number built) ⟨some .alreadyInstalled, some first, built.events⟩

theorem comesTo_step (before : List Op) (op : Op) :
    ComesTo before op ((empty.after before).step op).2 := by
  cases op with
  | get number =>
    rw [step, installed?_after_empty]
    exact .get number
  | install number built =>
    have hheld := installed?_after_empty before number
    cases hbuilt : built.result with
    | error cause =>
      rw [step_install_of_error hbuilt, hheld]
      exact .refused number hbuilt
    | ok config =>
      cases hfirst : firstOffer? number before with
      | none =>
        rw [step_install_of_empty hbuilt (hheld.trans hfirst)]
        exact .installed hbuilt hfirst
      | some first =>
        rw [step_install_of_full hbuilt (hheld.trans hfirst)]
        exact .late hbuilt hfirst

/-- A registry stays as it is, unless it is empty and the operation offers it something. -/
theorem step_eq_or (registries : Registries) (op : Op) (number : Nat) :
    (registries.step op).1 number = registries number ∨
      ∃ config, op.offer? number = some config ∧ (registries number).installed? = none ∧
        (registries.step op).1 number = ⟨some config⟩ := by
  have hinstalled := installed?_step registries op number
  generalize (registries.step op).1 number = next at hinstalled ⊢
  generalize registries number = slot at hinstalled ⊢
  -- a registry is nothing but what it holds
  obtain ⟨next?⟩ := next
  obtain ⟨held?⟩ := slot
  cases hinstalled
  cases held? with
  | some first => exact .inl rfl
  | none =>
    cases hoffer : op.offer? number with
    | none => exact .inl rfl
    | some config => exact .inr ⟨config, rfl, rfl, rfl⟩

/-- **Each registry keeps the first configuration and nothing else**: after any operations on
registries that start empty, a registry holds what the first install for it has built; the operation
that follows comes to what this tells; and it changes no registry, unless it is the first install
for it that builds one. -/
theorem run_keeps_first (before later : List Op) (op : Op) :
    (∀ number, (empty.after before number).installed? = firstOffer? number before) ∧
    (∃ outcome, (empty.run (before ++ op :: later))[before.length]? = some outcome ∧
      ComesTo before op outcome) ∧
    ∀ number, empty.after (before ++ [op]) number = empty.after before number ∨
      ∃ built config, op = .install number built ∧ built.result = .ok config ∧
        firstOffer? number before = none ∧
        empty.after (before ++ [op]) number = ⟨some config⟩ := by
  refine ⟨installed?_after_empty before, ?_, ?_⟩
  · exact ⟨_, getElem?_run empty before later op, comesTo_step before op⟩
  · intro number
    rw [after_append]
    rcases step_eq_or (empty.after before) op number with hsame | ⟨config, hoffer, hnone, hnext⟩
    · exact .inl hsame
    · obtain ⟨built, hop, hbuilt⟩ := offer?_eq_some_iff.1 hoffer
      rw [installed?_after_empty] at hnone
      exact .inr ⟨built, config, hop, hbuilt, hnone, hnext⟩

end DocPortal.Viewer.Registries
