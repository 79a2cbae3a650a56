/-
Module: JumptotechLabs.Labs.Arranged
Layer: Labs (services/lab-orchestrator/src/learning-paths.ts)
Purpose: A path without issues can be resolved, and its stages and labs stand as the path placed them.
Main exports: Arranged, arranged_of_valid
-/
import JumptotechLabs.Labs.PathOrder

namespace JumptotechLabs.Labs

open JumptotechLabs.Core
open JumptotechLabs.Core.Cycles (Edge)
open Relation (ReflTransGen TransGen)

/-! ### Lists that match -/

/-- What is mapped with exceptions matches what came of it. -/
theorem mapM_eq_ok {α β ε : Type} {f : α → Except ε β} {items : List α} {results : List β} :
    items.mapM f = .ok results ↔ List.Forall₂ (fun item result => f item = .ok result) items results := by
  induction items generalizing results with
  | nil =>
      rw [List.mapM_nil, List.forall₂_nil_left_iff]
      constructor
      · rintro ⟨⟩
        rfl
      · rintro rfl
        rfl
  | cons item items ih =>
      rw [List.mapM_cons]
      cases here : f item with
      | error failure =>
          constructor
          · intro impossible
            cases impossible
          · rintro (_ | ⟨isResult, _⟩)
            rw [here] at isResult
            cases isResult
      | ok result =>
          cases further : items.mapM f with
          | error failure =>
              constructor
              · intro impossible
                cases impossible
              · rintro (_ | ⟨_, matching⟩)
                rw [ih.mpr matching] at further
                cases further
          | ok others =>
              constructor
              · rintro ⟨⟩
                exact .cons here (ih.mp further)
              · rintro (_ | ⟨isResult, matching⟩)
                rw [here] at isResult
                rw [ih.mpr matching] at further
                cases isResult
                cases further
                rfl

theorem exists_mapM_eq_ok {α β ε : Type} {f : α → Except ε β} {items : List α}
    (each : ∀ item ∈ items, ∃ result, f item = .ok result) : ∃ results, items.mapM f = .ok results := by
  simp only [mapM_eq_ok]
  induction items with
  | nil => exact ⟨[], .nil⟩
  | cons item items ih =>
      obtain ⟨⟨result, here⟩, further⟩ := List.forall_mem_cons.mp each
      obtain ⟨results, matching⟩ := ih further
      exact ⟨result :: results, .cons here matching⟩

theorem getElem?_of_forall₂ {α β : Type} {related : α → β → Prop} {items : List α} {results : List β}
    (matching : List.Forall₂ related items results) {index : Nat} {result : β}
    (isResult : results[index]? = some result) : ∃ item, items[index]? = some item ∧ related item result := by
  induction matching generalizing index with
  | nil => cases isResult
  | @cons item other items results isRelated _ ih =>
      cases index with
      | zero =>
          cases isResult
          exact ⟨item, rfl, isRelated⟩
      | succ index => exact ih isResult

theorem map_eq_of_forall₂ {α β γ : Type} {related : α → β → Prop} {items : List α} {results : List β}
    (matching : List.Forall₂ related items results) {read : α → γ} {read' : β → γ}
    (same : ∀ item result, related item result → read item = read' result) :
    items.map read = results.map read' := by
  induction matching with
  | nil => rfl
  | cons isRelated _ ih => rw [List.map_cons, List.map_cons, same _ _ isRelated, ih]

/-! ### Stages -/

theorem resolveLab_ok {labs : PathLabSource} {stage : LearningStageDefinition} {assignment : LabAssignment × Nat}
    {lab : ResolvedPathLab} (resolved : resolveLab labs stage assignment = .ok lab) :
    lab.labId = assignment.1.lab ∧ lab.optional = assignment.1.optional ∧ labs lab.labId = some lab.info := by
  rw [resolveLab] at resolved
  cases isInfo : labs assignment.1.lab with
  | none =>
      rw [isInfo] at resolved
      cases resolved
  | some info =>
      rw [isInfo] at resolved
      cases resolved
      exact ⟨rfl, rfl, isInfo⟩

theorem resolveStage_ok {labs : PathLabSource} {stage : LearningStageDefinition × Nat} {result : ResolvedStage}
    (resolved : resolveStage labs stage = .ok result) :
    result.id = stage.1.id ∧
      result.prerequisites = stage.1.prerequisites.map (fun prerequisite => ⟨prerequisite.stage, prerequisite.kind⟩) ∧
      List.Forall₂ (fun assignment lab => resolveLab labs stage.1 assignment = .ok lab) stage.1.labs.zipIdx
        result.labs := by
  rw [resolveStage] at resolved
  cases placed : stage.1.labs.zipIdx.mapM (resolveLab labs stage.1) with
  | error failure =>
      rw [placed] at resolved
      cases resolved
  | ok labs =>
      rw [placed] at resolved
      cases resolved
      exact ⟨rfl, rfl, mapM_eq_ok.mp placed⟩

/-- The ids of a resolved stage's labs are those of its places. -/
theorem resolveStage_labIds {labs : PathLabSource} {stage : LearningStageDefinition × Nat} {result : ResolvedStage}
    (resolved : resolveStage labs stage = .ok result) :
    result.labs.map ResolvedPathLab.labId = (placesOfStage stage).map Placement.lab := by
  rw [placesOfStage, List.map_map]
  exact (map_eq_of_forall₂ (resolveStage_ok resolved).2.2 fun _ _ isLab => (resolveLab_ok isLab).1.symm).symm

/-! ### Paths -/

/-- One lab of a path needs another. -/
def PathNeeds (path : ResolvedLearningPath) (labId other : LabId) : Prop :=
  ∃ lab ∈ path.labs, lab.labId = labId ∧ other ∈ lab.info.prerequisites

/-- How the stages and labs of a resolved path stand. -/
structure Arranged (path : ResolvedLearningPath) : Prop where
  stageIds : Keyed.Distinct ResolvedStage.id path.stages
  labs : path.labs = path.stages.flatMap ResolvedStage.labs
  labIds : Keyed.Distinct ResolvedPathLab.labId path.labs
  hasCore : ∀ stage ∈ path.stages, stage.labs ≠ [] → ∃ lab ∈ stage.labs, lab.optional = false
  earlier : ∀ (index : Nat) (stage : ResolvedStage), path.stages[index]? = some stage →
    ∀ prerequisite ∈ stage.prerequisites, ∃ target < index, ∃ prior : ResolvedStage,
      path.stages[target]? = some prior ∧ prior.id = prerequisite.stageId
  acyclic : ∀ labId, ¬ TransGen (PathNeeds path) labId labId

/-- A path without issues is resolved, and stands as it was placed. -/
theorem arranged_of_valid {registry : LabRegistry} (mirrored : registry.Mirrored) {path : LearningPathDefinition}
    {skills : SkillCatalog}
    (valid : validateLearningPath path skills (labSourceFromRegistry registry.validatePrerequisites) = []) :
    ∃ resolved, resolveLearningPath path skills (labSourceFromRegistry registry.validatePrerequisites) =
      .ok resolved ∧ Arranged resolved := by
  have accepted := accepted_of_valid valid
  have kept := LabRegistry.kept_validatePrerequisites mirrored
  generalize registry.validatePrerequisites = catalog at *
  obtain ⟨stages, isStages⟩ : ∃ stages, path.stages.zipIdx.mapM (resolveStage (labSourceFromRegistry catalog)) =
      .ok stages := by
    apply exists_mapM_eq_ok
    intro stage isStage
    obtain ⟨labs, isLabs⟩ : ∃ labs, stage.1.labs.zipIdx.mapM (resolveLab (labSourceFromRegistry catalog) stage.1) =
        .ok labs := by
      apply exists_mapM_eq_ok
      intro assignment isAssignment
      have isPlace : placeOf stage assignment ∈ placementsOf path :=
        List.mem_flatMap.mpr ⟨stage, isStage, List.mem_map_of_mem isAssignment⟩
      obtain ⟨info, isInfo⟩ := Option.isSome_iff_exists.mp (accepted.inCatalog _ isPlace)
      have isThere : labSourceFromRegistry catalog assignment.1.lab = some info := isInfo
      rw [resolveLab, isThere]
      exact ⟨_, rfl⟩
    rw [resolveStage, isLabs]
    exact ⟨_, rfl⟩
  rw [resolveLearningPath, isStages]
  refine ⟨_, rfl, ?_⟩
  have matching := mapM_eq_ok.mp isStages
  have stageIds : stages.map ResolvedStage.id = path.stages.map LearningStageDefinition.id := by
    rw [← map_zipIdx_fst LearningStageDefinition.id path.stages]
    exact (map_eq_of_forall₂ matching fun _ _ isStage => (resolveStage_ok isStage).1.symm).symm
  have labIds : (stages.flatMap ResolvedStage.labs).map ResolvedPathLab.labId =
      (placementsOf path).map Placement.lab := by
    rw [placementsOf, List.map_flatMap, List.map_flatMap, List.flatMap_def, List.flatMap_def,
      map_eq_of_forall₂ matching fun _ _ isStage => (resolveStage_labIds isStage).symm]
  have distinctLabs : Keyed.Distinct ResolvedPathLab.labId (stages.flatMap ResolvedStage.labs) := by
    rw [Keyed.Distinct, labIds]
    exact accepted.placedOnce
  have labs := Keyed.putAll_of_distinct distinctLabs
  -- The stage of the definition that a resolved stage came of, and the resolved stage of one.
  have source {index : Nat} {stage : ResolvedStage} (isStage : stages[index]? = some stage) :
      ∃ definition, path.stages[index]? = some definition ∧
        resolveStage (labSourceFromRegistry catalog) (definition, index) = .ok stage := by
    obtain ⟨⟨definition, place⟩, isDefinition, resolved⟩ := getElem?_of_forall₂ matching isStage
    rw [List.getElem?_zipIdx, Option.map_eq_some_iff] at isDefinition
    obtain ⟨found, isFound, same⟩ := isDefinition
    cases same
    rw [Nat.zero_add] at resolved
    exact ⟨definition, isFound, resolved⟩
  have target {index : Nat} {definition : LearningStageDefinition}
      (isDefinition : path.stages[index]? = some definition) :
      ∃ stage, stages[index]? = some stage ∧ stage.id = definition.id := by
    have isEntry : path.stages.zipIdx[index]? = some (definition, index) := by
      rw [List.getElem?_zipIdx, isDefinition, Nat.zero_add]
      rfl
    obtain ⟨stage, isStage, resolved⟩ := getElem?_of_forall₂ matching.flip isEntry
    exact ⟨stage, isStage, (resolveStage_ok resolved).1⟩
  refine ⟨?_, labs, ?_, fun stage isStage some => ?_, fun index stage isStage prerequisite isPrerequisite => ?_,
    fun labId cycle => ?_⟩
  · dsimp only
    rw [Keyed.Distinct, stageIds]
    exact accepted.stageIds
  · dsimp only
    rw [labs]
    exact distinctLabs
  · obtain ⟨index, isIndexed⟩ := List.mem_iff_getElem?.mp isStage
    obtain ⟨definition, isDefinition, resolved⟩ := source isIndexed
    have placed := (resolveStage_ok resolved).2.2
    have hasLabs : definition.labs ≠ [] := by
      intro none
      rw [none] at placed
      exact some (List.forall₂_nil_left_iff.mp placed)
    obtain ⟨assignment, isAssignment, isCore⟩ :=
      accepted.hasCore definition (List.mem_of_getElem? isDefinition) hasLabs
    obtain ⟨sequence, isSequence⟩ := List.mem_iff_getElem?.mp isAssignment
    have isEntry : definition.labs.zipIdx[sequence]? = Option.some (assignment, sequence) := by
      rw [List.getElem?_zipIdx, isSequence, Nat.zero_add]
      rfl
    obtain ⟨lab, isLab, isResolved⟩ := getElem?_of_forall₂ placed.flip isEntry
    exact ⟨lab, List.mem_of_getElem? isLab, (resolveLab_ok isResolved).2.1.trans isCore⟩
  · obtain ⟨definition, isDefinition, resolved⟩ := source isStage
    rw [(resolveStage_ok resolved).2.1] at isPrerequisite
    obtain ⟨needed, isNeeded, rfl⟩ := List.mem_map.mp isPrerequisite
    obtain ⟨before, less, prior, isPrior, isId⟩ := accepted.earlier index definition isDefinition needed isNeeded
    obtain ⟨stage, isStage, sameId⟩ := target isPrior
    exact ⟨before, less, stage, isStage, sameId.trans isId⟩
  · refine kept.acyclic labId (cycle.lift id ?_)
    rintro needing other ⟨lab, isLab, rfl, isNeeded⟩
    rw [labs] at isLab
    obtain ⟨stage, isStage, inStage⟩ := List.mem_flatMap.mp isLab
    obtain ⟨index, isIndexed⟩ := List.mem_iff_getElem?.mp isStage
    obtain ⟨definition, -, resolved⟩ := source isIndexed
    obtain ⟨sequence, isSequence⟩ := List.mem_iff_getElem?.mp inStage
    obtain ⟨assignment, -, isResolved⟩ := getElem?_of_forall₂ (resolveStage_ok resolved).2.2 isSequence
    obtain ⟨found, isFound, isId, same⟩ := lab_of_source (resolveLab_ok isResolved).2.2
    rw [← isId]
    exact ⟨found.prerequisites, LabRegistry.prerequisitesIn_of_mem isFound, same ▸ isNeeded⟩

end JumptotechLabs.Labs
