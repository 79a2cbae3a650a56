/-
Module: JumptotechLabs.Labs.Following
Layer: Labs (services/lab-orchestrator/src/learning-progress.ts)
Purpose: Following the recommendations finishes a path. While a lab is left, one that is not verified is
  recommended, with its prerequisites verified unless it was attempted already; each recommendation that is followed
  leaves one lab less.
Main exports: Ready, firstReady_spec, pickInStage_spec, exists_pick, stageOf_spec, exists_eligible, nextLab_spec,
  markRecommended, recommendations_finish_the_path
-/
import JumptotechLabs.Labs.Arranged
import JumptotechLabs.Labs.Progress
import Mathlib.Data.Nat.Find
import Mathlib.Logic.Function.Iterate

namespace JumptotechLabs.Labs

open JumptotechLabs.Core
open Relation (TransGen)

namespace LearningProgressInput

variable {input : LearningProgressInput}

/-! ### Picking -/

/-- Every prerequisite of a lab that is in the path is verified. -/
def PrerequisitesVerified (input : LearningProgressInput) (lab : ResolvedPathLab) : Prop :=
  ∀ prerequisite ∈ lab.info.prerequisites, (input.path.lab prerequisite).isSome →
    input.statusOf prerequisite = .completed

/-- A lab that may be recommended: in the path, not verified, and attempted or with its prerequisites verified. -/
structure Ready (input : LearningProgressInput) (lab : ResolvedPathLab) : Prop where
  inPath : lab ∈ input.path.labs
  unverified : input.statusOf lab.labId ≠ .completed
  prerequisites : input.statusOf lab.labId = .notStarted → input.PrerequisitesVerified lab

theorem lab_of_mem (arranged : Arranged input.path) {lab : ResolvedPathLab} (isLab : lab ∈ input.path.labs) :
    input.path.lab lab.labId = some lab := Keyed.lookup_of_mem arranged.labIds isLab

theorem unverifiedPrerequisite_eq_some {labId next : LabId}
    (isNext : input.unverifiedPrerequisite labId = some next) :
    PathNeeds input.path labId next ∧ (input.path.lab next).isSome ∧ input.statusOf next ≠ .completed := by
  rw [unverifiedPrerequisite] at isNext
  cases found : input.path.lab labId with
  | none =>
      rw [found] at isNext
      cases isNext
  | some lab =>
      rw [found] at isNext
      have unverified := List.find?_some isNext
      rw [Bool.and_eq_true, bne_iff_ne] at unverified
      exact ⟨⟨lab, Keyed.mem_of_lookup found, Keyed.key_of_lookup found, List.mem_of_find?_eq_some isNext⟩,
        unverified⟩

/-- The way along unverified prerequisites ends at an unverified lab whose prerequisites are verified. -/
theorem firstReady_spec (arranged : Arranged input.path) {lab : ResolvedPathLab}
    (isLab : lab ∈ input.path.labs) (unverified : input.statusOf lab.labId ≠ .completed) :
    ∃ ready, input.path.lab (input.firstReady lab.labId) = some ready ∧ ready ∈ input.path.labs ∧
      input.statusOf ready.labId ≠ .completed ∧ input.PrerequisitesVerified ready := by
  have ends : Cycles.follow id input.unverifiedPrerequisite (input.path.labs.length + 1) [] lab.labId =
      some (input.firstReady lab.labId) := (Option.some_get _).symm
  have start : (input.path.lab lab.labId).isSome ∧ input.statusOf lab.labId ≠ .completed := by
    rw [lab_of_mem arranged isLab]
    exact ⟨rfl, unverified⟩
  obtain ⟨inPath, stillUnverified⟩ := Cycles.follow_keeps
    (fun _ _ _ isNext => (unverifiedPrerequisite_eq_some isNext).2) start ends
  have last : input.unverifiedPrerequisite (input.firstReady lab.labId) = none := by
    refine @Cycles.follow_last _ _ _ _ _ (fun a b => TransGen (PathNeeds input.path) b a)
      arranged.acyclic (fun _ _ _ first second => second.trans first) (fun item next isNext => ?_) _ _ _ _
      (List.forall_mem_nil _) ends
    exact .single (unverifiedPrerequisite_eq_some isNext).1
  obtain ⟨ready, isReady⟩ := Option.isSome_iff_exists.mp inPath
  have isId : ready.labId = input.firstReady lab.labId := Keyed.key_of_lookup isReady
  refine ⟨ready, isReady, Keyed.mem_of_lookup isReady, isId ▸ stillUnverified, ?_⟩
  intro prerequisite isPrerequisite inPath
  rw [unverifiedPrerequisite, isReady] at last
  have verified := List.find?_eq_none.mp last prerequisite isPrerequisite
  rw [inPath, Bool.true_and, bne_iff_ne, not_not] at verified
  exact verified

/-- What is picked in a stage is ready. -/
theorem pickInStage_spec (arranged : Arranged input.path) {stage : ResolvedStage}
    (inPath : ∀ lab ∈ stage.labs, lab ∈ input.path.labs) {optional requireStartable : Bool} {pick : Pick}
    (isPick : input.pickInStage stage optional requireStartable = some pick) : input.Ready pick.lab := by
  rw [pickInStage] at isPick
  cases attempted : (stage.labs.filter fun lab => lab.optional == optional).find? fun lab =>
      input.statusOf lab.labId == .inProgress && input.startable requireStartable lab with
  | some lab =>
      simp only [attempted] at isPick
      cases isPick
      have isAttempted := List.find?_some attempted
      rw [Bool.and_eq_true, beq_iff_eq] at isAttempted
      have inStage := (List.mem_filter.mp (List.mem_of_find?_eq_some attempted)).1
      refine ⟨inPath lab inStage, fun isCompleted => ?_, fun isNew => ?_⟩
      · rw [isAttempted.1] at isCompleted
        cases isCompleted
      · rw [isAttempted.1] at isNew
        cases isNew
  | none =>
      simp only [attempted] at isPick
      obtain ⟨lab, isLab, picked⟩ := List.exists_of_findSome?_eq_some isPick
      have isLab := inPath lab (List.mem_filter.mp isLab).1
      rw [pickFor] at picked
      obtain ⟨isNew, picked⟩ := Option.ite_none_left_eq_some.mp picked
      have unverified : input.statusOf lab.labId ≠ .completed := fun isCompleted =>
        isNew (by rw [isCompleted]; decide)
      obtain ⟨ready, isReady, inPath, stillUnverified, verified⟩ := firstReady_spec arranged isLab unverified
      rw [isReady] at picked
      obtain ⟨-, picked⟩ := Option.ite_none_left_eq_some.mp picked
      have isReadyLab : pick.lab = ready := by
        by_cases same : ready.labId = lab.labId
        · rw [if_pos same] at picked
          cases picked
          exact List.inj_on_of_nodup_map arranged.labIds isLab inPath same.symm
        · rw [if_neg same] at picked
          cases picked
          rfl
      rw [isReadyLab]
      exact ⟨inPath, stillUnverified, fun _ => verified⟩

/-- Where a lab is left and every lab may be started, one is picked. -/
theorem exists_pick (arranged : Arranged input.path) (startable : ∀ labId, input.canStart labId = true)
    {stage : ResolvedStage} (inPath : ∀ lab ∈ stage.labs, lab ∈ input.path.labs) {optional : Bool}
    {lab : ResolvedPathLab} (isLab : lab ∈ stage.labs) (isOptional : lab.optional = optional)
    (unverified : input.statusOf lab.labId ≠ .completed) :
    ∃ pick, input.pickInStage stage optional true = some pick := by
  have canStart (lab : ResolvedPathLab) : input.startable true lab = true := startable lab.labId
  have inPool : lab ∈ stage.labs.filter fun lab => lab.optional == optional :=
    List.mem_filter.mpr ⟨isLab, beq_iff_eq.mpr isOptional⟩
  rw [pickInStage]
  cases attempted : (stage.labs.filter fun lab => lab.optional == optional).find? fun lab =>
      input.statusOf lab.labId == .inProgress && input.startable true lab with
  | some lab => exact ⟨_, rfl⟩
  | none =>
      dsimp only
      have notAttempted := List.find?_eq_none.mp attempted lab inPool
      rw [canStart, Bool.and_true, beq_iff_eq] at notAttempted
      have isNew : input.statusOf lab.labId = .notStarted := by
        cases status : input.statusOf lab.labId with
        | notStarted => rfl
        | inProgress => exact absurd status notAttempted
        | completed => exact absurd status unverified
      obtain ⟨ready, isReady, -⟩ := firstReady_spec arranged (inPath lab isLab) unverified
      have picked : (input.pickFor true lab).isSome := by
        rw [pickFor, if_neg (not_not.mpr isNew), isReady]
        dsimp only
        rw [canStart, if_neg (by decide)]
        split <;> rfl
      rw [← Option.isSome_iff_exists, List.findSome?_isSome_iff]
      exact ⟨lab, inPool, picked⟩

/-! ### Stages -/

/-- With distinct ids, stages are kept in their order, each by what the ones before it stand at. -/
theorem stagesFrom_spec (input : LearningProgressInput) (stages : List ResolvedStage) (byStage : List StageProgress)
    (distinct : (byStage.map StageProgress.stageId ++ stages.map ResolvedStage.id).Nodup) :
    (input.stagesFrom stages byStage).2 = byStage ++ (input.stagesFrom stages byStage).1 ∧
      (input.stagesFrom stages byStage).1.map StageProgress.stageId = stages.map ResolvedStage.id ∧
      ∀ (index : Nat) (stage : ResolvedStage), stages[index]? = some stage →
        (input.stagesFrom stages byStage).1[index]? =
          some (input.stageProgress (byStage ++ (input.stagesFrom stages byStage).1.take index) stage) := by
  induction stages generalizing byStage with
  | nil => exact ⟨(List.append_nil _).symm, rfl, fun index stage isStage => by cases isStage⟩
  | cons stage stages ih =>
      have isNew : Keyed.lookup StageProgress.stageId stage.id byStage = none := by
        apply Keyed.lookup_eq_none.mpr
        intro other isOther same
        exact (List.nodup_append.mp distinct).2.2 _ (List.mem_map_of_mem isOther) _ List.mem_cons_self same
      have put : Keyed.put StageProgress.stageId (input.stageProgress byStage stage) byStage =
          byStage ++ [input.stageProgress byStage stage] := Keyed.put_of_absent isNew
      have stillDistinct : ((byStage ++ [input.stageProgress byStage stage]).map StageProgress.stageId ++
          stages.map ResolvedStage.id).Nodup := by
        rw [List.map_append, List.append_assoc]
        exact distinct
      obtain ⟨all, ids, each⟩ := ih _ stillDistinct
      simp only [stagesFrom]
      rw [put]
      refine ⟨?_, ?_, fun index other isOther => ?_⟩
      · rw [all, List.append_assoc]
        rfl
      · rw [List.map_cons, List.map_cons, ids]
        rfl
      · cases index with
        | zero =>
            cases isOther
            simp
        | succ index =>
            rw [List.getElem?_cons_succ] at isOther ⊢
            rw [each index other isOther, List.take_succ_cons, List.append_assoc]
            rfl

theorem mem_incomplete {stage : ResolvedStage} : stage ∈ input.incomplete ↔
    stage ∈ input.path.stages ∧ 0 < stage.labs.length ∧ (input.stageOf stage).status ≠ .completed := by
  rw [incomplete, withLabs, List.mem_filter, List.mem_filter, decide_eq_true_eq, bne_iff_ne, and_assoc]

section Stages

variable (arranged : Arranged input.path)
include arranged

theorem stages_ids : input.stages.map StageProgress.stageId = input.path.stages.map ResolvedStage.id :=
  (input.stagesFrom_spec input.path.stages [] arranged.stageIds).2.1

theorem byStage_eq : input.byStage = input.stages :=
  (input.stagesFrom_spec input.path.stages [] arranged.stageIds).1

theorem stages_getElem? {index : Nat} {stage : ResolvedStage} (isStage : input.path.stages[index]? = some stage) :
    input.stages[index]? = some (input.stageProgress (input.stages.take index) stage) :=
  (input.stagesFrom_spec input.path.stages [] arranged.stageIds).2.2 index stage isStage

theorem stages_distinct : Keyed.Distinct StageProgress.stageId input.stages := by
  rw [Keyed.Distinct, stages_ids arranged]
  exact arranged.stageIds

/-- How a stage of the path stands, by the stages before it. -/
theorem stageOf_spec {index : Nat} {stage : ResolvedStage} (isStage : input.path.stages[index]? = some stage) :
    input.stageOf stage = input.stageProgress (input.stages.take index) stage := by
  have isThere := List.mem_of_getElem? (stages_getElem? arranged isStage)
  have found := Keyed.lookup_of_mem (stages_distinct arranged) isThere
  rw [stageOf, byStage_eq arranged]
  change (Keyed.lookup StageProgress.stageId (input.stageProgress (input.stages.take index) stage).stageId
    input.stages).getD default = _
  rw [found]
  rfl

/-- What stands before a stage, under its id. -/
theorem lookup_earlier {index target : Nat} (less : target < index) {prior : ResolvedStage}
    (isPrior : input.path.stages[target]? = some prior) :
    Keyed.lookup StageProgress.stageId prior.id (input.stages.take index) = some (input.stageOf prior) := by
  have isThere : input.stageOf prior ∈ input.stages.take index := by
    rw [stageOf_spec arranged isPrior]
    apply List.mem_of_getElem? (i := target)
    rw [List.getElem?_take_of_lt less]
    exact stages_getElem? arranged isPrior
  have distinct : Keyed.Distinct StageProgress.stageId (input.stages.take index) :=
    List.Nodup.sublist ((List.take_sublist index input.stages).map _) (stages_distinct arranged)
  have isId : (input.stageOf prior).stageId = prior.id := by
    rw [stageOf_spec arranged isPrior]
    rfl
  rw [← isId]
  exact Keyed.lookup_of_mem distinct isThere

theorem status_of_stage {stage : ResolvedStage} (isStage : stage ∈ input.path.stages) :
    (input.stageOf stage).status = input.stageStatus stage (input.stageOf stage).prerequisitesMet := by
  obtain ⟨index, isIndexed⟩ := List.mem_iff_getElem?.mp isStage
  rw [stageOf_spec arranged isIndexed]
  rfl

/-- Every required prerequisite of a stage is met where the stages before it are satisfied. -/
theorem prerequisitesMet_of_satisfied {index : Nat} {stage : ResolvedStage}
    (isStage : input.path.stages[index]? = some stage)
    (satisfied : ∀ target < index, ∀ prior, input.path.stages[target]? = some prior →
      satisfies (input.stageOf prior).status = true) : (input.stageOf stage).prerequisitesMet = true := by
  rw [stageOf_spec arranged isStage]
  change (prerequisitesOf (input.stages.take index) stage).all _ = true
  rw [prerequisitesOf, List.all_map, List.all_eq_true]
  intro prerequisite isPrerequisite
  obtain ⟨target, less, prior, isPrior, isId⟩ := arranged.earlier index stage isStage prerequisite isPrerequisite
  simp only [Function.comp_apply, Bool.or_eq_true]
  right
  rw [← isId, lookup_earlier arranged less isPrior]
  exact satisfied target less prior isPrior

/-- A stage that is not incomplete holds no other up. -/
theorem satisfies_of_not_incomplete {stage : ResolvedStage} (isStage : stage ∈ input.path.stages)
    (complete : stage ∉ input.incomplete) : satisfies (input.stageOf stage).status = true := by
  rw [mem_incomplete] at complete
  by_cases isEmpty : stage.labs.length = 0
  · rw [status_of_stage arranged isStage, stageStatus, if_pos isEmpty]
    rfl
  · have isCompleted : (input.stageOf stage).status = .completed := by
      by_contra isOpen
      exact complete ⟨isStage, Nat.pos_of_ne_zero isEmpty, isOpen⟩
    rw [isCompleted]
    rfl

/-- The first stage that is incomplete waits on none. -/
theorem exists_eligible (isOpen : input.incomplete ≠ []) : ∃ stage, stage ∈ input.eligible := by
  classical
  obtain ⟨stage, isIncomplete⟩ := List.exists_mem_of_ne_nil _ isOpen
  obtain ⟨index, isIndexed⟩ := List.mem_iff_getElem?.mp (mem_incomplete.mp isIncomplete).1
  have some : ∃ index, ∃ stage, input.path.stages[index]? = some stage ∧ stage ∈ input.incomplete :=
    ⟨index, stage, isIndexed, isIncomplete⟩
  obtain ⟨first, isFirst, isIncomplete⟩ := Nat.find_spec some
  refine ⟨first, List.mem_filter.mpr ⟨isIncomplete, ?_⟩⟩
  apply prerequisitesMet_of_satisfied arranged isFirst
  intro target less prior isPrior
  apply satisfies_of_not_incomplete arranged (List.mem_of_getElem? isPrior)
  intro priorIncomplete
  exact Nat.find_min some less ⟨prior, isPrior, priorIncomplete⟩

/-- An incomplete stage has a core lab that is not verified. -/
theorem exists_core {stage : ResolvedStage} (isIncomplete : stage ∈ input.incomplete) :
    ∃ lab ∈ stage.labs, lab.optional = false ∧ input.statusOf lab.labId ≠ .completed := by
  obtain ⟨isStage, hasLabs, isOpen⟩ := mem_incomplete.mp isIncomplete
  by_contra none
  push Not at none
  apply isOpen
  rw [status_of_stage arranged isStage, stageStatus, if_neg (Nat.ne_of_gt hasLabs), if_pos]
  rw [countOf, List.countP_eq_length]
  intro lab isCore
  obtain ⟨isLab, isCore⟩ := List.mem_filter.mp isCore
  rw [Bool.not_eq_true'] at isCore
  exact beq_iff_eq.mpr (none lab isLab isCore)

/-- A core lab of a stage that is not incomplete is verified. -/
theorem core_verified {stage : ResolvedStage} (isStage : stage ∈ input.path.stages)
    (complete : stage ∉ input.incomplete) {lab : ResolvedPathLab} (isLab : lab ∈ stage.labs)
    (isCore : lab.optional = false) : input.statusOf lab.labId = .completed := by
  have hasLabs : 0 < stage.labs.length := List.length_pos_of_mem isLab
  have isCompleted : (input.stageOf stage).status = .completed := by
    by_contra isOpen
    exact complete (mem_incomplete.mpr ⟨isStage, hasLabs, isOpen⟩)
  rw [status_of_stage arranged isStage, stageStatus, if_neg (Nat.ne_of_gt hasLabs)] at isCompleted
  by_cases all : input.countOf .completed (coreLabs stage) = (coreLabs stage).length
  · rw [countOf, List.countP_eq_length] at all
    have inCore : lab ∈ coreLabs stage := List.mem_filter.mpr ⟨isLab, by rw [isCore]; rfl⟩
    exact beq_iff_eq.mp (all lab inCore)
  · rw [if_neg all] at isCompleted
    split at isCompleted
    · cases isCompleted
    · split at isCompleted <;> cases isCompleted

end Stages

/-! ### The recommended lab -/

theorem mem_stages_of_stage {path : ResolvedLearningPath} {stageId : String} {stage : ResolvedStage}
    (found : path.stage stageId = some stage) : stage ∈ path.stages :=
  Keyed.mem_of_mem_putAll (Keyed.mem_of_lookup found)

theorem upNext_mem {stage : ResolvedStage} {before : Option ResolvedStage}
    (isNext : input.upNext = some (stage, before)) : stage ∈ input.path.stages := by
  rw [upNext] at isNext
  cases found : input.incomplete.find? fun stage =>
      decide (input.lastVerified < (input.path.stages.idxOf stage : Int)) with
  | none =>
      rw [found] at isNext
      cases isNext
  | some next =>
      rw [found] at isNext
      have start : next ∈ input.path.stages := (mem_incomplete.mp (List.mem_of_find?_eq_some found)).1
      have within := Cycles.follow_keeps (fun item onward _ isOnward => by
          rw [waitsOn] at isOnward
          obtain ⟨-, waits⟩ := Option.ite_none_left_eq_some.mp isOnward
          split at waits
          · cases waits
          · exact mem_stages_of_stage waits) start (Option.some_get (input.waitsOn_isSome next)).symm
      obtain ⟨-, isNext⟩ := Option.ite_none_left_eq_some.mp isNext
      split at isNext
      · cases isNext
        exact start
      · cases isNext
        exact within

theorem mem_stages_of_order {stage : ResolvedStage} (isOrdered : stage ∈ input.order) :
    stage ∈ input.path.stages := by
  rw [order, List.mem_eraseDups, List.mem_append, List.mem_append] at isOrdered
  rcases isOrdered with (isStarted | isNext) | isEligible
  · exact (mem_incomplete.mp (List.mem_filter.mp isStarted).1).1
  · obtain ⟨⟨next, before⟩, isUp, rfl⟩ := Option.map_eq_some_iff.mp (Option.mem_toList.mp isNext)
    exact upNext_mem isUp
  · exact (mem_incomplete.mp (List.mem_filter.mp isEligible).1).1

/-- What is recommended for a picked lab is that lab, and not that the path is complete. -/
theorem recommendCore_spec (input : LearningProgressInput) (stage : ResolvedStage) (pick : Pick) :
    (input.recommendCore stage pick).labId = some pick.lab.labId ∧
      (input.recommendCore stage pick).kind ≠ .pathComplete := by
  unfold recommendCore
  dsimp only
  split
  · exact ⟨rfl, by simp⟩
  · split
    · exact ⟨rfl, by simp⟩
    · split
      · split
        · exact ⟨rfl, by simp⟩
        · exact ⟨rfl, by simp⟩
      · exact ⟨rfl, by simp⟩

section Next

variable (arranged : Arranged input.path)
include arranged

theorem mem_labs_of_stage {stage : ResolvedStage} (isStage : stage ∈ input.path.stages) :
    ∀ lab ∈ stage.labs, lab ∈ input.path.labs := by
  intro lab isLab
  rw [arranged.labs]
  exact List.mem_flatMap.mpr ⟨stage, isStage, isLab⟩

/-- What is recommended of the core labs is ready. -/
theorem coreRecommendation_spec {stageId : String} {recommendation : Recommendation}
    (isCore : input.coreRecommendation = some (stageId, recommendation)) :
    ∃ lab, input.Ready lab ∧ recommendation.labId = some lab.labId ∧ recommendation.kind ≠ .pathComplete := by
  obtain ⟨stage, isOrdered, picked⟩ := List.exists_of_findSome?_eq_some isCore
  obtain ⟨pick, isPick, same⟩ := Option.map_eq_some_iff.mp picked
  cases same
  obtain ⟨isLab, isKind⟩ := recommendCore_spec input stage pick
  exact ⟨pick.lab, pickInStage_spec arranged (mem_labs_of_stage arranged (mem_stages_of_order isOrdered)) isPick,
    isLab, isKind⟩

/-- While a stage is incomplete, a core lab is recommended. -/
theorem exists_coreRecommendation (startable : ∀ labId, input.canStart labId = true)
    (isOpen : input.incomplete ≠ []) : input.coreRecommendation.isSome := by
  obtain ⟨stage, isEligible⟩ := exists_eligible arranged isOpen
  have isIncomplete : stage ∈ input.incomplete := (List.mem_filter.mp isEligible).1
  obtain ⟨lab, isLab, isCore, unverified⟩ := exists_core arranged isIncomplete
  obtain ⟨pick, isPick⟩ := exists_pick arranged startable
    (mem_labs_of_stage arranged (mem_incomplete.mp isIncomplete).1) isLab isCore unverified
  rw [coreRecommendation, List.findSome?_isSome_iff]
  refine ⟨stage, ?_, by rw [isPick]; rfl⟩
  rw [order, List.mem_eraseDups, List.mem_append]
  exact .inr isEligible

theorem extraPractice_spec {recommendation : Recommendation}
    (isExtra : input.extraPractice = some recommendation) :
    ∃ lab, input.Ready lab ∧ recommendation.labId = some lab.labId ∧ recommendation.kind ≠ .pathComplete := by
  rw [extraPractice] at isExtra
  obtain ⟨-, isExtra⟩ := Option.ite_none_right_eq_some.mp isExtra
  obtain ⟨stage, isStage, picked⟩ := List.exists_of_findSome?_eq_some isExtra
  obtain ⟨pick, isPick, rfl⟩ := Option.map_eq_some_iff.mp picked
  exact ⟨pick.lab, pickInStage_spec arranged
    (mem_labs_of_stage arranged (List.mem_filter.mp isStage).1) isPick, rfl, by simp⟩

/-- With every stage complete and no extra practice left, every lab is verified. -/
theorem all_verified (startable : ∀ labId, input.canStart labId = true) (complete : input.incomplete = [])
    (noExtra : input.extraPractice = none) : ∀ lab ∈ input.path.labs, input.statusOf lab.labId = .completed := by
  intro lab isLab
  by_contra unverified
  rw [arranged.labs] at isLab
  obtain ⟨stage, isStage, inStage⟩ := List.mem_flatMap.mp isLab
  cases isOptional : lab.optional with
  | false =>
      refine unverified (core_verified arranged isStage ?_ inStage isOptional)
      rw [complete]
      exact List.not_mem_nil
  | true =>
      obtain ⟨pick, isPick⟩ := exists_pick arranged startable (mem_labs_of_stage arranged isStage) inStage
        isOptional unverified
      rw [extraPractice, complete, if_pos List.length_nil] at noExtra
      have none := List.findSome?_eq_none_iff.mp noExtra stage
        (List.mem_filter.mpr ⟨isStage, decide_eq_true (List.length_pos_of_mem inStage)⟩)
      rw [isPick] at none
      cases none

/-- A lab that is ready is recommended, or every lab is verified. -/
theorem nextLab_spec (startable : ∀ labId, input.canStart labId = true) :
    (∃ lab, input.Ready lab ∧ input.nextLab.2.labId = some lab.labId ∧ input.nextLab.2.kind ≠ .pathComplete) ∨
      ((∀ lab ∈ input.path.labs, input.statusOf lab.labId = .completed) ∧ input.nextLab.2 = input.nothingLeft) := by
  rw [nextLab]
  cases isCore : input.coreRecommendation with
  | some found => exact .inl (coreRecommendation_spec arranged isCore)
  | none =>
      have complete : input.incomplete = [] := by
        by_contra isOpen
        have isSome := exists_coreRecommendation arranged startable isOpen
        rw [isCore] at isSome
        cases isSome
      dsimp only
      cases isExtra : input.extraPractice with
      | some recommendation => exact .inl (extraPractice_spec arranged isExtra)
      | none => exact .inr ⟨all_verified arranged startable complete isExtra, rfl⟩

end Next

/-! ### Following -/

/-- Marking a lab that was not verified leaves one less. -/
theorem countP_update {labs : List ResolvedPathLab} (distinct : Keyed.Distinct ResolvedPathLab.labId labs)
    (statusOf : LabId → PathLabStatus) {lab : ResolvedPathLab} (isLab : lab ∈ labs)
    (unverified : statusOf lab.labId ≠ .completed) :
    labs.countP (fun other => Function.update statusOf lab.labId .completed other.labId != .completed) + 1 =
      labs.countP fun other => statusOf other.labId != .completed := by
  induction labs with
  | nil => cases isLab
  | cons head labs ih =>
      rw [List.countP_cons, List.countP_cons]
      by_cases same : head.labId = lab.labId
      · have others : labs.countP (fun other =>
            Function.update statusOf lab.labId PathLabStatus.completed other.labId != .completed) =
              labs.countP fun other => statusOf other.labId != .completed := by
          apply List.countP_congr
          intro other isOther
          have apart : other.labId ≠ lab.labId := fun again =>
            Keyed.lookup_eq_none.mp distinct.tail_absent other isOther (again.trans same.symm)
          rw [Function.update_of_ne apart]
        rw [others, same, Function.update_self, if_pos (bne_iff_ne.mpr unverified)]
        simp
      · have inTail : lab ∈ labs := (List.mem_cons.mp isLab).resolve_left fun isHead => same (isHead ▸ rfl)
        have onward := ih distinct.tail inTail
        rw [Function.update_of_ne same]
        omega

/-- A student with no running session, where every lab can be started. -/
def atRest (path : ResolvedLearningPath) (statusOf : LabId → PathLabStatus) : LearningProgressInput :=
  ⟨path, statusOf, fun _ => true, some []⟩

/-- Marks the recommended lab as verified. -/
def markRecommended (path : ResolvedLearningPath) (statusOf : LabId → PathLabStatus) : LabId → PathLabStatus :=
  match (computeLearningPathProgress (atRest path statusOf)).recommendation.labId with
  | none => statusOf
  | some labId => Function.update statusOf labId .completed

/-- How many labs of the path are not verified? -/
def unverifiedCount (path : ResolvedLearningPath) (statusOf : LabId → PathLabStatus) : Nat :=
  path.labs.countP fun lab => statusOf lab.labId != .completed

/-- What is recommended to a student at rest. -/
structure Recommends (path : ResolvedLearningPath) (statusOf : LabId → PathLabStatus)
    (recommendation : Recommendation) : Prop where
  /-- While a lab is left, one is recommended. -/
  exists_lab : (∃ lab ∈ path.labs, statusOf lab.labId ≠ .completed) → recommendation.labId.isSome
  /-- It is in the path and not verified, and was attempted or has its prerequisites verified. -/
  ready : ∀ labId, recommendation.labId = some labId → ∃ lab ∈ path.labs, lab.labId = labId ∧
    statusOf labId ≠ .completed ∧ (statusOf labId = .notStarted →
      ∀ prerequisite ∈ lab.info.prerequisites, (path.lab prerequisite).isSome → statusOf prerequisite = .completed)
  /-- The path is complete when every lab is. -/
  complete : recommendation.kind = .pathComplete ↔
    path.labs ≠ [] ∧ ∀ lab ∈ path.labs, statusOf lab.labId = .completed

theorem nothingLeft_spec (input : LearningProgressInput)
    (all : ∀ lab ∈ input.path.labs, input.statusOf lab.labId = .completed) :
    input.nothingLeft.labId = none ∧ (input.nothingLeft.kind = .pathComplete ↔ input.path.labs ≠ []) := by
  have isAll : input.path.labs.all (fun lab => input.statusOf lab.labId == .completed) = true :=
    List.all_eq_true.mpr fun lab isLab => beq_iff_eq.mpr (all lab isLab)
  rw [nothingLeft, isAll, Bool.true_and]
  by_cases isEmpty : input.path.labs = []
  · simp [isEmpty]
  · simp [isEmpty, List.length_pos_iff.mpr isEmpty]

theorem recommends_atRest {path : ResolvedLearningPath} (arranged : Arranged path)
    (statusOf : LabId → PathLabStatus) :
    Recommends path statusOf (computeLearningPathProgress (atRest path statusOf)).recommendation := by
  change Recommends path statusOf (atRest path statusOf).nextLab.2
  rcases @nextLab_spec (atRest path statusOf) arranged (fun _ => rfl) with
    ⟨lab, isReady, isLab, isKind⟩ | ⟨all, isNothing⟩
  · refine ⟨fun _ => by rw [isLab]; rfl, fun labId isRecommended => ?_, ?_⟩
    · rw [isLab] at isRecommended
      cases isRecommended
      exact ⟨lab, isReady.inPath, rfl, isReady.unverified, isReady.prerequisites⟩
    · constructor
      · intro isComplete
        exact absurd isComplete isKind
      · rintro ⟨-, all⟩
        exact absurd (all lab isReady.inPath) isReady.unverified
  · obtain ⟨noLab, isKind⟩ := nothingLeft_spec (atRest path statusOf) all
    rw [isNothing]
    refine ⟨?_, fun labId isRecommended => ?_, isKind.trans ⟨fun some => ⟨some, all⟩, fun some => some.1⟩⟩
    · rintro ⟨lab, isLab, unverified⟩
      exact absurd (all lab isLab) unverified
    · rw [noLab] at isRecommended
      cases isRecommended

/-- One recommendation followed is one lab less. -/
theorem unverifiedCount_markRecommended {path : ResolvedLearningPath} (arranged : Arranged path)
    (statusOf : LabId → PathLabStatus) :
    unverifiedCount path (markRecommended path statusOf) = unverifiedCount path statusOf - 1 := by
  have recommends := recommends_atRest arranged statusOf
  rw [markRecommended]
  cases isLab : (computeLearningPathProgress (atRest path statusOf)).recommendation.labId with
  | none =>
      have none : unverifiedCount path statusOf = 0 := by
        rw [unverifiedCount, List.countP_eq_zero]
        intro lab inPath unverified
        have isSome := recommends.exists_lab ⟨lab, inPath, bne_iff_ne.mp unverified⟩
        rw [isLab] at isSome
        cases isSome
      rw [none]
  | some labId =>
      obtain ⟨lab, inPath, rfl, unverified, -⟩ := recommends.ready labId isLab
      have counted := countP_update arranged.labIds statusOf inPath unverified
      dsimp only
      rw [unverifiedCount, unverifiedCount]
      omega

theorem unverifiedCount_iterate {path : ResolvedLearningPath} (arranged : Arranged path)
    (statusOf : LabId → PathLabStatus) (steps : Nat) :
    unverifiedCount path ((markRecommended path)^[steps] statusOf) = unverifiedCount path statusOf - steps := by
  induction steps with
  | zero => rfl
  | succ steps ih =>
      rw [Function.iterate_succ_apply', unverifiedCount_markRecommended arranged, ih, Nat.sub_sub]

end LearningProgressInput

open LearningProgressInput

/-- On every path without issues, over a catalog whose prerequisites were validated: a lab that is left and ready is
    recommended, whatever the statuses of the labs; each recommendation followed leaves one lab less; and after as
    many as there were labs left the path is complete. -/
theorem recommendations_finish_the_path (registry : LabRegistry) (mirrored : registry.Mirrored)
    (path : LearningPathDefinition) (skills : SkillCatalog)
    (valid : validateLearningPath path skills (labSourceFromRegistry registry.validatePrerequisites) = []) :
    ∃ resolved, resolveLearningPath path skills (labSourceFromRegistry registry.validatePrerequisites) =
        .ok resolved ∧
      ∀ (statusOf : LabId → PathLabStatus) (steps : Nat),
        let current := (markRecommended resolved)^[steps] statusOf
        let recommendation := (computeLearningPathProgress (atRest resolved current)).recommendation
        Recommends resolved current recommendation ∧
          unverifiedCount resolved current = unverifiedCount resolved statusOf - steps ∧
          (resolved.labs ≠ [] →
            (recommendation.kind = .pathComplete ↔ unverifiedCount resolved statusOf ≤ steps)) := by
  obtain ⟨resolved, isResolved, arranged⟩ := arranged_of_valid mirrored valid
  refine ⟨resolved, isResolved, fun statusOf steps => ?_⟩
  have recommends := recommends_atRest arranged ((markRecommended resolved)^[steps] statusOf)
  have count := unverifiedCount_iterate arranged statusOf steps
  refine ⟨recommends, count, fun some => ?_⟩
  rw [recommends.complete, ← Nat.sub_eq_zero_iff_le, ← count, unverifiedCount, List.countP_eq_zero]
  simp only [bne_iff_ne, not_not, ne_eq, some, not_false_eq_true, true_and]

/-- Two labs, the second of which needs the first and is attempted. -/
theorem recommendations_finish_the_path_twoStages :
    ∃ resolved, resolveLearningPath twoStages (fun id => some ⟨id, id, id⟩)
        (labSourceFromRegistry (LabRegistry.load LabRegistry.tangled)) = .ok resolved ∧
      unverifiedCount resolved ((markRecommended resolved)^[2] fun labId =>
        if labId.val = "LIN-001" then .inProgress else .notStarted) =
          unverifiedCount resolved (fun labId => if labId.val = "LIN-001" then .inProgress else .notStarted) - 2 := by
  obtain ⟨resolved, isResolved, walk⟩ := recommendations_finish_the_path
    (LabRegistry.registered LabRegistry.tangled) (LabRegistry.mirrored_registered _) twoStages
    (fun id => some ⟨id, id, id⟩) (by decide)
  exact ⟨resolved, isResolved, (walk _ 2).2.1⟩

end JumptotechLabs.Labs
