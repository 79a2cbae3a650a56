/-
Module: JumptotechLabs.Labs.Onward
Layer: Labs (services/lab-orchestrator/src/learning-progress.ts)
Purpose: Progress never moves backwards. Where every lab stands at least where it stood, so does every stage and
  every skill, and no total decreases.
Main exports: PathLabStatus.AtLeast, StageOnward, stageProgress_onward, stagesFrom_onward, Onward,
  progress_never_moves_backwards
-/
import JumptotechLabs.Labs.Progress

namespace JumptotechLabs.Labs

open JumptotechLabs.Core

/-- NOT_STARTED < IN_PROGRESS < COMPLETED. -/
def PathLabStatus.rank : PathLabStatus → Nat
  | .notStarted => 0
  | .inProgress => 1
  | .completed => 2

/-- The second status is at least the first. -/
def PathLabStatus.AtLeast (first second : PathLabStatus) : Prop := first.rank ≤ second.rank

instance (first second : PathLabStatus) : Decidable (first.AtLeast second) :=
  inferInstanceAs (Decidable (_ ≤ _))

theorem PathLabStatus.AtLeast.completed {first second : PathLabStatus} (atLeast : first.AtLeast second)
    (isCompleted : first = .completed) : second = .completed := by
  cases isCompleted
  cases second with
  | notStarted => exact absurd atLeast (by decide)
  | inProgress => exact absurd atLeast (by decide)
  | completed => rfl

theorem PathLabStatus.AtLeast.touched {first second : PathLabStatus} (atLeast : first.AtLeast second)
    (isTouched : first ≠ .notStarted) : second ≠ .notStarted := by
  rintro rfl
  cases first with
  | notStarted => exact isTouched rfl
  | inProgress => exact absurd atLeast (by decide)
  | completed => exact absurd atLeast (by decide)

namespace LearningProgressInput

/-- Two students' states on one path, the second of whom stands at least as far with every lab. -/
structure Follows (before after : LearningProgressInput) : Prop where
  path : after.path = before.path
  atLeast : ∀ labId, (before.statusOf labId).AtLeast (after.statusOf labId)

variable {before after : LearningProgressInput}

/-! ### Counts -/

theorem Follows.completed_le (follows : Follows before after) (labs : List ResolvedPathLab) :
    before.countOf .completed labs ≤ after.countOf .completed labs := by
  apply List.countP_mono_left
  intro lab _ isCompleted
  exact beq_iff_eq.mpr ((follows.atLeast lab.labId).completed (beq_iff_eq.mp isCompleted))

theorem Follows.all_completed (follows : Follows before after) {labs : List ResolvedPathLab}
    (all : before.countOf .completed labs = labs.length) : after.countOf .completed labs = labs.length := by
  have le := follows.completed_le labs
  have bound : after.countOf .completed labs ≤ labs.length := List.countP_le_length
  omega

/-- Some lab is attempted or verified. -/
theorem touched_iff (input : LearningProgressInput) (labs : List ResolvedPathLab) :
    0 < input.countOf .completed labs + input.countOf .inProgress labs ↔
      ∃ lab ∈ labs, input.statusOf lab.labId ≠ .notStarted := by
  have either : 0 < input.countOf .completed labs + input.countOf .inProgress labs ↔
      0 < input.countOf .completed labs ∨ 0 < input.countOf .inProgress labs := by omega
  rw [either, countOf, countOf, List.countP_pos_iff, List.countP_pos_iff]
  constructor
  · rintro (⟨lab, isLab, isCompleted⟩ | ⟨lab, isLab, isAttempted⟩)
    · exact ⟨lab, isLab, fun untouched => by rw [untouched] at isCompleted; cases isCompleted⟩
    · exact ⟨lab, isLab, fun untouched => by rw [untouched] at isAttempted; cases isAttempted⟩
  · rintro ⟨lab, isLab, isTouched⟩
    cases status : input.statusOf lab.labId with
    | notStarted => exact absurd status isTouched
    | inProgress => exact .inr ⟨lab, isLab, by rw [status]; rfl⟩
    | completed => exact .inl ⟨lab, isLab, by rw [status]; rfl⟩

theorem Follows.touched (follows : Follows before after) {labs : List ResolvedPathLab}
    (isTouched : 0 < before.countOf .completed labs + before.countOf .inProgress labs) :
    0 < after.countOf .completed labs + after.countOf .inProgress labs := by
  rw [touched_iff] at isTouched ⊢
  obtain ⟨lab, isLab, isTouched⟩ := isTouched
  exact ⟨lab, isLab, (follows.atLeast lab.labId).touched isTouched⟩

/-! ### Stages -/

/-- A stage stands at least where it stood. -/
structure StageOnward (before after : StageProgress) : Prop where
  stageId : after.stageId = before.stageId
  completed : before.status = .completed → after.status = .completed
  comingSoon : before.status = .comingSoon → after.status = .comingSoon
  prerequisitesMet : before.prerequisitesMet = true → after.prerequisitesMet = true
  unlocked : before.status ≠ .locked → after.status ≠ .locked

theorem StageOnward.satisfies {first second : StageProgress} (onward : StageOnward first second)
    (satisfied : satisfies first.status = true) : Labs.satisfies second.status = true := by
  rw [Labs.satisfies, Bool.or_eq_true, beq_iff_eq, beq_iff_eq] at satisfied ⊢
  exact satisfied.imp onward.completed onward.comingSoon

/-- The stage of an id, in two lists that match. -/
theorem lookup_onward {first second : List StageProgress} (matching : List.Forall₂ StageOnward first second)
    (stageId : String) :
    Option.Rel StageOnward (Keyed.lookup StageProgress.stageId stageId first)
      (Keyed.lookup StageProgress.stageId stageId second) := by
  induction matching with
  | nil => exact .none
  | @cons stage stage' stages stages' onward _ ih =>
      rw [Keyed.lookup, Keyed.lookup, List.find?_cons, List.find?_cons, onward.stageId]
      by_cases isStage : stage.stageId = stageId
      · rw [decide_eq_true isStage]
        exact .some onward
      · rw [decide_eq_false isStage]
        exact ih

theorem put_onward {first second : List StageProgress} (matching : List.Forall₂ StageOnward first second)
    {stage stage' : StageProgress} (onward : StageOnward stage stage') :
    List.Forall₂ StageOnward (Keyed.put StageProgress.stageId stage first)
      (Keyed.put StageProgress.stageId stage' second) := by
  induction matching with
  | nil => exact .cons onward .nil
  | @cons head head' stages stages' isOnward matching ih =>
      rw [Keyed.put, Keyed.put, isOnward.stageId, onward.stageId]
      by_cases same : head.stageId = stage.stageId
      · rw [if_pos same, if_pos same]
        exact .cons onward matching
      · rw [if_neg same, if_neg same]
        exact .cons isOnward ih

/-- Prerequisites that are met stay met. -/
theorem prerequisites_onward {first second : List StageProgress}
    (matching : List.Forall₂ StageOnward first second) (stage : ResolvedStage)
    (met : (prerequisitesOf first stage).all (fun prerequisite =>
      prerequisite.kind != .required || prerequisite.isMet) = true) :
    (prerequisitesOf second stage).all (fun prerequisite =>
      prerequisite.kind != .required || prerequisite.isMet) = true := by
  rw [prerequisitesOf, List.all_map, List.all_eq_true] at met ⊢
  intro prerequisite isPrerequisite
  have here := met prerequisite isPrerequisite
  simp only [Function.comp_apply, Bool.or_eq_true] at here ⊢
  refine here.imp_right fun isMet => ?_
  have related := lookup_onward matching prerequisite.stageId
  cases found : Keyed.lookup StageProgress.stageId prerequisite.stageId second with
  | none => rfl
  | some prior' =>
      cases found' : Keyed.lookup StageProgress.stageId prerequisite.stageId first with
      | none =>
          rw [found, found'] at related
          cases related
      | some prior =>
          rw [found, found'] at related
          rw [found'] at isMet
          cases related with
          | some onward => exact onward.satisfies isMet

/-- The status of a stage by its labs, and by whether its prerequisites are met. -/
theorem stageStatus_onward (follows : Follows before after) (stage : ResolvedStage) {met met' : Bool}
    (stillMet : met = true → met' = true) :
    (before.stageStatus stage met = .completed → after.stageStatus stage met' = .completed) ∧
      (before.stageStatus stage met = .comingSoon → after.stageStatus stage met' = .comingSoon) ∧
      (before.stageStatus stage met ≠ .locked → after.stageStatus stage met' ≠ .locked) := by
  unfold stageStatus
  by_cases isEmpty : stage.labs.length = 0
  · simp [isEmpty]
  · rw [if_neg isEmpty, if_neg isEmpty]
    by_cases allCore : before.countOf .completed (coreLabs stage) = (coreLabs stage).length
    · rw [if_pos allCore, if_pos (follows.all_completed allCore)]
      simp
    · rw [if_neg allCore]
      by_cases allCore' : after.countOf .completed (coreLabs stage) = (coreLabs stage).length
      · rw [if_pos allCore']
        refine ⟨fun _ => rfl, fun isComing => ?_, fun _ => by simp⟩
        split at isComing
        · cases isComing
        · split at isComing <;> cases isComing
      · rw [if_neg allCore']
        by_cases isTouched : 0 < before.countOf .completed stage.labs + before.countOf .inProgress stage.labs
        · rw [if_pos isTouched, if_pos (follows.touched isTouched)]
          simp
        · rw [if_neg isTouched]
          cases met with
          | true =>
              rw [stillMet rfl]
              by_cases isTouched' : 0 < after.countOf .completed stage.labs + after.countOf .inProgress stage.labs
              · simp [isTouched']
              · simp [isTouched']
          | false => simp

theorem stageProgress_onward (follows : Follows before after) {first second : List StageProgress}
    (matching : List.Forall₂ StageOnward first second) (stage : ResolvedStage) :
    StageOnward (before.stageProgress first stage) (after.stageProgress second stage) := by
  have stillMet := prerequisites_onward matching stage
  obtain ⟨completed, comingSoon, unlocked⟩ := stageStatus_onward follows stage stillMet
  exact ⟨rfl, completed, comingSoon, stillMet, unlocked⟩

/-- Stage after stage, each by what the ones before it stand at. -/
theorem stagesFrom_onward (follows : Follows before after) (stages : List ResolvedStage)
    {first second : List StageProgress} (matching : List.Forall₂ StageOnward first second) :
    List.Forall₂ StageOnward (before.stagesFrom stages first).1 (after.stagesFrom stages second).1 := by
  induction stages generalizing first second with
  | nil => exact .nil
  | cons stage stages ih =>
      have here := stageProgress_onward follows matching stage
      exact .cons here (ih (put_onward matching here))

/-! ### Skills and totals -/

/-- A skill stands at least where it stood. -/
structure SkillOnward (before after : SkillProgress) : Prop where
  skillId : after.skillId = before.skillId
  completed : before.status = .completed → after.status = .completed

theorem skillProgress_onward (follows : Follows before after) (skillId : String) :
    SkillOnward (before.skillProgress skillId) (after.skillProgress skillId) := by
  refine ⟨rfl, fun isCompleted => ?_⟩
  simp only [skillProgress] at isCompleted ⊢
  rw [follows.path]
  by_cases isEmpty : (before.path.labsForSkill skillId).length = 0
  · rw [if_pos isEmpty] at isCompleted
    cases isCompleted
  · rw [if_neg isEmpty] at isCompleted ⊢
    by_cases all : before.countOf .completed (before.path.labsForSkill skillId) =
        (before.path.labsForSkill skillId).length
    · rw [if_pos (follows.all_completed all)]
    · rw [if_neg all] at isCompleted
      split at isCompleted <;> cases isCompleted

/-- Rows that match, of which those that count still count. -/
theorem countP_le_of_forall₂ {α β : Type} {related : α → β → Prop} {counts : α → Bool} {counts' : β → Bool}
    (still : ∀ a b, related a b → counts a = true → counts' b = true) {first : List α} {second : List β}
    (matching : List.Forall₂ related first second) : first.countP counts ≤ second.countP counts' := by
  induction matching with
  | nil => exact Nat.le_refl _
  | @cons a b _ _ isRelated _ ih =>
      rw [List.countP_cons, List.countP_cons]
      have here := still a b isRelated
      cases isCounted : counts a with
      | false =>
          simp only [Bool.false_eq_true, if_false]
          omega
      | true =>
          rw [here isCounted]
          omega

/-- Nothing stands behind where it stood. -/
structure Onward (before after : LearningPathProgress) : Prop where
  stages : List.Forall₂ StageOnward before.stages after.stages
  skills : List.Forall₂ SkillOnward before.skills after.skills
  labsCompleted : before.overall.labs.completed ≤ after.overall.labs.completed
  coreCompleted : before.overall.core.completed ≤ after.overall.core.completed
  stagesCompleted : before.overall.stages.completed ≤ after.overall.stages.completed
  skillsCompleted : before.overall.skills.completed ≤ after.overall.skills.completed

end LearningProgressInput

open LearningProgressInput

/-- Where every lab of a path stands at least where it stood, every completed stage and skill is still completed,
    prerequisites that were met are met, no stage is locked that was not, and no total decreases. -/
theorem progress_never_moves_backwards (path : ResolvedLearningPath) (statusOf statusOf' : LabId → PathLabStatus)
    (canStart canStart' : LabId → Bool) (activeLabIds activeLabIds' : Option (List LabId))
    (atLeast : ∀ labId, (statusOf labId).AtLeast (statusOf' labId)) :
    Onward (computeLearningPathProgress ⟨path, statusOf, canStart, activeLabIds⟩)
      (computeLearningPathProgress ⟨path, statusOf', canStart', activeLabIds'⟩) := by
  have follows : Follows ⟨path, statusOf, canStart, activeLabIds⟩ ⟨path, statusOf', canStart', activeLabIds'⟩ :=
    ⟨rfl, atLeast⟩
  have stages : List.Forall₂ StageOnward (stages ⟨path, statusOf, canStart, activeLabIds⟩)
      (LearningProgressInput.stages ⟨path, statusOf', canStart', activeLabIds'⟩) :=
    stagesFrom_onward follows path.stages .nil
  have skills : List.Forall₂ SkillOnward (skills ⟨path, statusOf, canStart, activeLabIds⟩)
      (LearningProgressInput.skills ⟨path, statusOf', canStart', activeLabIds'⟩) := by
    rw [LearningProgressInput.skills, LearningProgressInput.skills, List.forall₂_map_left_iff,
      List.forall₂_map_right_iff, List.forall₂_same]
    exact fun skill _ => skillProgress_onward follows skill.1
  refine ⟨stages, skills, follows.completed_le _, follows.completed_le _, ?_, ?_⟩
  · refine countP_le_of_forall₂ (fun first second onward isCompleted => ?_) stages
    exact beq_iff_eq.mpr (onward.completed (beq_iff_eq.mp isCompleted))
  · refine countP_le_of_forall₂ (fun first second onward isCompleted => ?_) skills
    exact beq_iff_eq.mpr (onward.completed (beq_iff_eq.mp isCompleted))

/-- A stage of one lab and a stage that requires it. -/
def gatedPath : ResolvedLearningPath :=
  let lab : ResolvedPathLab :=
    ⟨⟨"LIN-000", isLabId_zero⟩, "shell", 0, false, ["linux.shell"],
      ⟨⟨"LIN-000", isLabId_zero⟩, "Shell", "", "linux", "container", "beginner", 20, []⟩⟩
  let next : ResolvedPathLab :=
    ⟨⟨"LIN-001", isLabId_one⟩, "files", 0, false, ["linux.files"],
      ⟨⟨"LIN-001", isLabId_one⟩, "Files", "", "linux", "container", "beginner", 20, []⟩⟩
  ⟨"Linux", [⟨"shell", 1, "Shell", [], ["linux.shell"], [lab]⟩,
      ⟨"files", 2, "Files", [⟨"shell", .required⟩], ["linux.files"], [next]⟩],
    [("linux.shell", ⟨"linux.shell", "Shell", ""⟩)], [lab, next]⟩

theorem progress_never_moves_backwards_gatedPath :
    Onward (computeLearningPathProgress ⟨gatedPath, fun _ => .notStarted, fun _ => true, some []⟩)
        (computeLearningPathProgress
          ⟨gatedPath, fun labId => if labId.val = "LIN-000" then .completed else .notStarted, fun _ => false, none⟩) ∧
      (computeLearningPathProgress ⟨gatedPath, fun _ => .notStarted, fun _ => true, some []⟩).stages.map
        StageProgress.status = [.notStarted, .locked] ∧
      (computeLearningPathProgress
          ⟨gatedPath, fun labId => if labId.val = "LIN-000" then .completed else .notStarted, fun _ => false,
            none⟩).stages.map StageProgress.status = [.completed, .notStarted] :=
  ⟨progress_never_moves_backwards gatedPath _ _ _ _ _ _ fun labId => by
      split <;> decide,
    by decide, by decide⟩

end JumptotechLabs.Labs
