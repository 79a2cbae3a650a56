/-
Module: JumptotechLabs.Labs.PathOrder
Layer: Labs (services/lab-orchestrator/src/learning-paths.ts)
Purpose: What a path without issues is: its stages are distinct, each lab is placed once, and both prerequisite
  relations point strictly backwards in the path's order.
Main exports: placementsOf, mem_placementsOf, Accepted, accepted_of_valid, valid_path_is_ordered
-/
import JumptotechLabs.Labs.Paths

namespace JumptotechLabs.Labs

open JumptotechLabs.Core
open JumptotechLabs.Core.Cycles (Edge)
open Relation (ReflTransGen TransGen)

/-! ### Placements -/

theorem map_zipIdx_fst {α β : Type} (read : α → β) (items : List α) :
    items.zipIdx.map (fun item => read item.1) = items.map read := by
  conv_rhs => rw [← List.zipIdx_map_fst 0 items, List.map_map]
  rfl

/-- The place of an assignment in a stage. -/
def placeOf (stage : LearningStageDefinition × Nat) (assignment : LabAssignment × Nat) : Placement :=
  ⟨assignment.1.lab, stage.1.id, stage.2, assignment.2, assignment.1.optional⟩

/-- The places of a stage's labs. -/
def placesOfStage (stage : LearningStageDefinition × Nat) : List Placement :=
  stage.1.labs.zipIdx.map (placeOf stage)

/-- Where the labs of a path are placed, in path order. -/
def placementsOf (path : LearningPathDefinition) : List Placement := path.stages.zipIdx.flatMap placesOfStage

theorem mem_placementsOf {path : LearningPathDefinition} {place : Placement} :
    place ∈ placementsOf path ↔ ∃ stage assignment, path.stages[place.stageIndex]? = some stage ∧
      stage.labs[place.sequence]? = some assignment ∧ place.lab = assignment.lab ∧ place.stageId = stage.id ∧
        place.optional = assignment.optional := by
  constructor
  · intro isPlace
    obtain ⟨stage, isStage, inStage⟩ := List.mem_flatMap.mp isPlace
    obtain ⟨assignment, isAssignment, rfl⟩ := List.mem_map.mp inStage
    exact ⟨stage.1, assignment.1, List.mem_zipIdx_iff_getElem?.mp isStage,
      List.mem_zipIdx_iff_getElem?.mp isAssignment, rfl, rfl, rfl⟩
  · rintro ⟨stage, assignment, isStage, isAssignment, isLab, isStageId, isOptional⟩
    refine List.mem_flatMap.mpr ⟨(stage, place.stageIndex), List.mem_zipIdx_iff_getElem?.mpr isStage,
      List.mem_map.mpr ⟨(assignment, place.sequence), List.mem_zipIdx_iff_getElem?.mpr isAssignment, ?_⟩⟩
    cases place
    simp only at isLab isStageId isOptional
    rw [placeOf, isLab, isStageId, isOptional]

/-- The first place is strictly before the second: in an earlier stage, or earlier in the same one. -/
def Placement.Before (first second : Placement) : Prop :=
  first.stageIndex < second.stageIndex ∨
    first.stageIndex = second.stageIndex ∧ first.sequence < second.sequence

/-- What is true of a path without issues. -/
structure Accepted (path : LearningPathDefinition) (labs : PathLabSource) : Prop where
  stageIds : (path.stages.map LearningStageDefinition.id).Nodup
  placedOnce : Keyed.Distinct Placement.lab (placementsOf path)
  inCatalog : ∀ place ∈ placementsOf path, (labs place.lab).isSome
  hasCore : ∀ stage ∈ path.stages, stage.labs ≠ [] → ∃ assignment ∈ stage.labs, assignment.optional = false
  earlier : ∀ (index : Nat) (stage : LearningStageDefinition), path.stages[index]? = some stage →
    ∀ prerequisite ∈ stage.prerequisites, ∃ target < index, ∃ prior : LearningStageDefinition,
      path.stages[target]? = some prior ∧ prior.id = prerequisite.stage
  notLater : ∀ place ∈ placementsOf path, ∀ info, labs place.lab = some info →
    ∀ prerequisite ∈ info.prerequisites, ∃ before ∈ placementsOf path, before.lab = prerequisite ∧
      ¬ place.Before before ∧ (place.optional = false → before.optional = false)

/-! ### What each check leaves -/

theorem declareStage_none {stageIndex : List (String × Nat)} {stage : LearningStageDefinition × Nat}
    (none : (declareStage stageIndex stage).1 = []) :
    (declareStage stageIndex stage).2 = stageIndex ++ [(stage.1.id, stage.2)] ∧
      (Keyed.Distinct Prod.fst stageIndex → Keyed.Distinct Prod.fst (stageIndex ++ [(stage.1.id, stage.2)])) := by
  rw [declareStage] at none ⊢
  cases found : Keyed.lookup Prod.fst stage.1.id stageIndex with
  | some existing =>
      rw [found] at none
      cases none
  | none => exact ⟨rfl, fun distinct => distinct.append found⟩

theorem placeLab_none {labs : PathLabSource} {skillOwner : List (String × String)}
    {stage : LearningStageDefinition × Nat} {placement : List Placement} {assignment : LabAssignment × Nat}
    (none : (placeLab labs skillOwner stage placement assignment).1 = []) :
    ((placeLab labs skillOwner stage placement assignment).2 = placement ++ [placeOf stage assignment] ∧
      (Keyed.Distinct Placement.lab placement →
        Keyed.Distinct Placement.lab (placement ++ [placeOf stage assignment]))) ∧
      (labs assignment.1.lab).isSome := by
  rw [placeLab] at none ⊢
  cases found : Keyed.lookup Placement.lab assignment.1.lab placement with
  | some existing =>
      rw [found] at none
      cases none
  | none =>
      rw [found] at none
      obtain ⟨⟨isThere, -⟩, -⟩ := (List.append_eq_nil_iff.mp none).imp List.append_eq_nil_iff.mp id
      refine ⟨⟨rfl, fun distinct => distinct.append found⟩, ?_⟩
      by_contra missing
      rw [if_pos (by simpa using missing)] at isThere
      cases isThere

theorem placeLabs_none {labs : PathLabSource} {skillOwner : List (String × String)}
    {placement : List Placement} {stage : LearningStageDefinition × Nat}
    (none : (placeLabs labs skillOwner placement stage).1 = []) :
    ((placeLabs labs skillOwner placement stage).2 = placement ++ placesOfStage stage ∧
      (Keyed.Distinct Placement.lab placement → Keyed.Distinct Placement.lab (placement ++ placesOfStage stage))) ∧
      (∀ assignment ∈ stage.1.labs.zipIdx, (labs assignment.1.lab).isSome) ∧
      (stage.1.labs ≠ [] → ∃ assignment ∈ stage.1.labs, assignment.optional = false) := by
  obtain ⟨placed, core⟩ := List.append_eq_nil_iff.mp none
  have single : ∀ places : List (LabAssignment × Nat),
      places.flatMap (fun assignment => [placeOf stage assignment]) = places.map (placeOf stage) :=
    fun places => by rw [List.map_eq_flatMap]
  have adds : ∀ seen assignment, (placeLab labs skillOwner stage seen assignment).1 = [] →
      (placeLab labs skillOwner stage seen assignment).2 = seen ++ [placeOf stage assignment] ∧
        (Keyed.Distinct Placement.lab seen →
          Keyed.Distinct Placement.lab (seen ++ [placeOf stage assignment])) :=
    fun _ _ none => (placeLab_none none).1
  have rows := collect_rows adds placed
  rw [single] at rows
  refine ⟨rows, fun assignment inside => ?_, fun some => ?_⟩
  · obtain ⟨before, isNone⟩ := collect_none placed assignment inside
    exact (placeLab_none isNone).2
  · by_contra allOptional
    push Not at allOptional
    have all : stage.1.labs.all LabAssignment.optional = true :=
      List.all_eq_true.mpr fun assignment inside => by simpa using allOptional assignment inside
    rw [if_pos ⟨List.length_pos_iff.mpr some, all⟩] at core
    cases core

/-- With the index of every stage known, prerequisites without an issue point backwards. -/
theorem prerequisiteIssues_none {path : LearningPathDefinition}
    {stage : LearningStageDefinition × Nat} (isStage : stage ∈ path.stages.zipIdx)
    (none : prerequisiteIssues (path.stages.zipIdx.map fun stage => (stage.1.id, stage.2)) stage = []) :
    ∀ prerequisite ∈ stage.1.prerequisites, ∃ target < stage.2, ∃ prior,
      path.stages[target]? = some prior ∧ prior.id = prerequisite.stage := by
  intro prerequisite isPrerequisite
  have here := List.flatMap_eq_nil_iff.mp (List.append_eq_nil_iff.mp none).2 prerequisite isPrerequisite
  by_cases self : prerequisite.stage = stage.1.id
  · rw [if_pos self] at here
    cases here
  · rw [if_neg self] at here
    cases found : Keyed.lookup Prod.fst prerequisite.stage
        (path.stages.zipIdx.map fun stage => (stage.1.id, stage.2)) with
    | none =>
        rw [found] at here
        cases here
    | some target =>
        rw [found] at here
        dsimp only at here
        obtain ⟨prior, isPrior, rfl⟩ := List.mem_map.mp (Keyed.mem_of_lookup found)
        have isId : prior.1.id = prerequisite.stage := @Keyed.key_of_lookup _ _ _ Prod.fst _ _ _ found
        by_cases later : stage.2 < prior.2
        · rw [if_pos later] at here
          cases here
        · refine ⟨prior.2, ?_, prior.1, List.mem_zipIdx_iff_getElem?.mp isPrior, isId⟩
          apply Nat.lt_of_le_of_ne (Nat.not_lt.mp later)
          intro same
          have isPrior := List.mem_zipIdx_iff_getElem?.mp isPrior
          have isStage := List.mem_zipIdx_iff_getElem?.mp isStage
          rw [same, isStage] at isPrior
          rw [Option.some.inj isPrior] at self
          exact self isId.symm

theorem labPrerequisiteIssues_none {labs : PathLabSource} {placement : List Placement} {place : Placement}
    (none : labPrerequisiteIssues labs placement place = []) {info : PathLabInfo}
    (isInfo : labs place.lab = some info) : ∀ prerequisite ∈ info.prerequisites,
      ∃ before ∈ placement, before.lab = prerequisite ∧ ¬ place.Before before ∧
        (place.optional = false → before.optional = false) := by
  intro prerequisite isPrerequisite
  rw [labPrerequisiteIssues, isInfo] at none
  have here := List.flatMap_eq_nil_iff.mp none prerequisite isPrerequisite
  cases found : Keyed.lookup Placement.lab prerequisite placement with
  | none =>
      rw [found] at here
      cases here
  | some before =>
      rw [found] at here
      obtain ⟨notLater, onCore⟩ := List.append_eq_nil_iff.mp here
      refine ⟨before, Keyed.mem_of_lookup found, Keyed.key_of_lookup found, fun later => ?_, fun isCore => ?_⟩
      · rw [if_pos (later.imp_right fun same => ⟨same.1.symm, same.2⟩)] at notLater
        cases notLater
      · by_contra isOptional
        rw [if_pos ⟨isCore, by simpa using isOptional⟩] at onCore
        cases onCore

/-- A path without issues is accepted. -/
theorem accepted_of_valid {path : LearningPathDefinition} {skills : SkillCatalog} {labs : PathLabSource}
    (valid : validateLearningPath path skills labs = []) : Accepted path labs := by
  rw [validateLearningPath] at valid
  simp only [List.append_eq_nil_iff] at valid
  obtain ⟨⟨⟨⟨⟨declared, -⟩, placed⟩, prerequisites⟩, -⟩, ordered⟩ := valid
  have declareAdds : ∀ seen stage, (declareStage seen stage).1 = [] →
      (declareStage seen stage).2 = seen ++ [(stage.1.id, stage.2)] ∧
        (Keyed.Distinct Prod.fst seen → Keyed.Distinct Prod.fst (seen ++ [(stage.1.id, stage.2)])) :=
    fun _ _ none => declareStage_none none
  have placeAdds : ∀ seen stage, (placeLabs labs (collect (ownSkills skills) path.stages []).2 seen stage).1 = [] →
      (placeLabs labs (collect (ownSkills skills) path.stages []).2 seen stage).2 = seen ++ placesOfStage stage ∧
        (Keyed.Distinct Placement.lab seen → Keyed.Distinct Placement.lab (seen ++ placesOfStage stage)) :=
    fun _ _ none => (placeLabs_none none).1
  obtain ⟨isIndex, distinctIds⟩ := collect_rows declareAdds declared
  obtain ⟨isPlacement, distinctLabs⟩ := collect_rows placeAdds placed
  have eachPlaced {stage : LearningStageDefinition × Nat} (isStage : stage ∈ path.stages.zipIdx) :
      (∀ assignment ∈ stage.1.labs.zipIdx, (labs assignment.1.lab).isSome) ∧
        (stage.1.labs ≠ [] → ∃ assignment ∈ stage.1.labs, assignment.optional = false) := by
    obtain ⟨before, isNone⟩ := collect_none placed stage isStage
    exact (placeLabs_none isNone).2
  rw [List.nil_append, ← List.map_eq_flatMap] at isIndex distinctIds
  rw [List.nil_append] at isPlacement distinctLabs
  have stageIds : (path.stages.map LearningStageDefinition.id).Nodup := by
    have keys := distinctIds Keyed.Distinct.nil
    rw [Keyed.Distinct, List.map_map] at keys
    rw [← map_zipIdx_fst]
    exact keys
  refine ⟨stageIds, distinctLabs Keyed.Distinct.nil, fun place isPlace => ?_, fun stage isStage => ?_,
    fun index stage isStage => ?_, fun place isPlace info isInfo => ?_⟩
  · obtain ⟨stage, isStage, inStage⟩ := List.mem_flatMap.mp isPlace
    obtain ⟨assignment, isAssignment, rfl⟩ := List.mem_map.mp inStage
    exact (eachPlaced isStage).1 assignment isAssignment
  · obtain ⟨index, isIndexed⟩ := List.mem_iff_getElem?.mp isStage
    exact (eachPlaced (List.mem_zipIdx_iff_getElem? (x := (stage, index)).mpr isIndexed)).2
  · have isIndexed := List.mem_zipIdx_iff_getElem? (x := (stage, index)).mpr isStage
    have none := List.flatMap_eq_nil_iff.mp prerequisites _ isIndexed
    rw [isIndex] at none
    exact prerequisiteIssues_none isIndexed none
  · rw [isPlacement] at ordered
    exact labPrerequisiteIssues_none (List.flatMap_eq_nil_iff.mp ordered place isPlace) isInfo

/-! ### The order -/

/-- A stage needs another. -/
def StageNeeds (path : LearningPathDefinition) (id other : String) : Prop :=
  ∃ stage ∈ path.stages, stage.id = id ∧ ∃ prerequisite ∈ stage.prerequisites, prerequisite.stage = other

/-- A path in the order of both prerequisite relations. -/
structure OrderedPath (path : LearningPathDefinition) (catalog : LabRegistry) : Prop where
  stageIds : (path.stages.map LearningStageDefinition.id).Nodup
  placedOnce : ((placementsOf path).map Placement.lab).Nodup
  stagesEarlier : ∀ (index : Nat) (stage : LearningStageDefinition), path.stages[index]? = some stage →
    ∀ prerequisite ∈ stage.prerequisites, ∃ target < index, ∃ prior : LearningStageDefinition,
      path.stages[target]? = some prior ∧ prior.id = prerequisite.stage
  labsEarlier : ∀ place ∈ placementsOf path, ∃ lab ∈ catalog.labs, lab.id = place.lab ∧
    ∀ prerequisite ∈ lab.prerequisites, ∃ before ∈ placementsOf path, before.lab = prerequisite ∧
      before.Before place
  stagesAcyclic : ∀ id, ¬ TransGen (StageNeeds path) id id
  labsAcyclic : ∀ id, ¬ TransGen (Edge (prerequisitesIn catalog.labs)) id id

/-- Two labs in one place are one. -/
theorem lab_of_place {path : LearningPathDefinition} {first second : Placement}
    (isFirst : first ∈ placementsOf path) (isSecond : second ∈ placementsOf path)
    (sameStage : first.stageIndex = second.stageIndex) (sameSequence : first.sequence = second.sequence) :
    first.lab = second.lab := by
  obtain ⟨stage, assignment, isStage, isAssignment, isLab, -⟩ := mem_placementsOf.mp isFirst
  obtain ⟨stage', assignment', isStage', isAssignment', isLab', -⟩ := mem_placementsOf.mp isSecond
  rw [sameStage, isStage'] at isStage
  cases isStage
  rw [sameSequence, isAssignment'] at isAssignment
  cases isAssignment
  rw [isLab, isLab']

/-- The lab a catalog has for a path. -/
theorem lab_of_source {catalog : LabRegistry} {labId : LabId} {info : PathLabInfo}
    (isInfo : labSourceFromRegistry catalog labId = some info) :
    ∃ lab ∈ catalog.labs, lab.id = labId ∧ lab.prerequisites = info.prerequisites := by
  obtain ⟨lab, found, rfl⟩ := Option.map_eq_some_iff.mp isInfo
  exact ⟨lab, Keyed.mem_of_lookup found, Keyed.key_of_lookup found, rfl⟩

/-- Where no lab is its own prerequisite, the prerequisites of a placed lab are placed strictly before it. -/
theorem Accepted.before {path : LearningPathDefinition} {labs : PathLabSource} (accepted : Accepted path labs)
    {place : Placement} (isPlace : place ∈ placementsOf path) {info : PathLabInfo}
    (isInfo : labs place.lab = some info) (notSelf : place.lab ∉ info.prerequisites) {prerequisite : LabId}
    (isPrerequisite : prerequisite ∈ info.prerequisites) :
    ∃ before ∈ placementsOf path, before.lab = prerequisite ∧ before.Before place ∧
      (place.optional = false → before.optional = false) := by
  obtain ⟨before, isBefore, rfl, notLater, onCore⟩ :=
    accepted.notLater place isPlace info isInfo prerequisite isPrerequisite
  refine ⟨before, isBefore, rfl, ?_, onCore⟩
  have apart : ¬ (before.stageIndex = place.stageIndex ∧ before.sequence = place.sequence) := by
    rintro ⟨sameStage, sameSequence⟩
    rw [lab_of_place isBefore isPlace sameStage sameSequence] at isPrerequisite
    exact notSelf isPrerequisite
  rw [Placement.Before] at notLater ⊢
  omega

theorem stageNeeds_acyclic {path : LearningPathDefinition} {labs : PathLabSource}
    (accepted : Accepted path labs) (id : String) : ¬ TransGen (StageNeeds path) id id := by
  apply Cycles.acyclic_of_rank (path.stages.map LearningStageDefinition.id).idxOf
  rintro id other ⟨stage, isStage, rfl, prerequisite, isPrerequisite, rfl⟩
  obtain ⟨index, isIndexed⟩ := List.mem_iff_getElem?.mp isStage
  obtain ⟨target, less, prior, isPrior, isId⟩ := accepted.earlier index stage isIndexed prerequisite isPrerequisite
  have indexOf {index : Nat} {stage : LearningStageDefinition} (isIndexed : path.stages[index]? = some stage) :
      (path.stages.map LearningStageDefinition.id).idxOf stage.id = index := by
    have isId : (path.stages.map LearningStageDefinition.id)[index]? = some stage.id := by
      rw [List.getElem?_map, isIndexed]
      rfl
    obtain ⟨bound, isHere⟩ := List.getElem?_eq_some_iff.mp isId
    rw [← isHere]
    exact accepted.stageIds.idxOf_getElem index bound
  rw [← isId, indexOf isPrior, indexOf isIndexed]
  exact less

/-- A path without issues, over a catalog whose prerequisites were validated, is in the order of both
    prerequisite relations, and neither has a cycle. -/
theorem valid_path_is_ordered (registry : LabRegistry) (mirrored : registry.Mirrored)
    (path : LearningPathDefinition) (skills : SkillCatalog)
    (valid : validateLearningPath path skills (labSourceFromRegistry registry.validatePrerequisites) = []) :
    OrderedPath path registry.validatePrerequisites := by
  have accepted := accepted_of_valid valid
  have kept := LabRegistry.kept_validatePrerequisites mirrored
  refine ⟨accepted.stageIds, accepted.placedOnce, accepted.earlier, fun place isPlace => ?_,
    stageNeeds_acyclic accepted, kept.acyclic⟩
  obtain ⟨info, isInfo⟩ := Option.isSome_iff_exists.mp (accepted.inCatalog place isPlace)
  obtain ⟨lab, isLab, isId, same⟩ := lab_of_source isInfo
  have notSelf : place.lab ∉ info.prerequisites := by
    rw [← same, ← isId]
    intro self
    exact kept.acyclic lab.id (.single ⟨lab.prerequisites, LabRegistry.prerequisitesIn_of_mem isLab, self⟩)
  refine ⟨lab, isLab, isId, fun prerequisite isPrerequisite => ?_⟩
  rw [same] at isPrerequisite
  obtain ⟨before, isBefore, isPlaced, strictly, -⟩ := accepted.before isPlace isInfo notSelf isPrerequisite
  exact ⟨before, isBefore, isPlaced, strictly⟩

/-- Two stages over the labs that a tangled catalog keeps. -/
def twoStages : LearningPathDefinition :=
  ⟨"Linux",
    [⟨"shell", "Shell", [], ["linux.shell"], [⟨⟨"LIN-000", isLabId_zero⟩, ["linux.shell"], false⟩]⟩,
      ⟨"files", "Files", [⟨"shell", .required⟩], ["linux.files"],
        [⟨⟨"LIN-001", isLabId_one⟩, ["linux.files", "linux.shell"], false⟩]⟩]⟩

theorem valid_path_is_ordered_twoStages :
    OrderedPath twoStages (LabRegistry.load LabRegistry.tangled) :=
  valid_path_is_ordered (LabRegistry.registered LabRegistry.tangled) (LabRegistry.mirrored_registered _) twoStages
    (fun id => some ⟨id, id, id⟩) (by decide)

end JumptotechLabs.Labs
