/-
Module: JumptotechLabs.Labs.Progress
Layer: Labs (services/lab-orchestrator/src/learning-progress.ts)
Purpose: Where a student stands on a learning path, and what they should do next: the status of each stage and
  skill, the totals, and the recommended lab.
Main exports: PathLabStatus, LearningProgressInput, firstReady, pickInStage, StageProgress, stagesFrom,
  computeLearningPathProgress
-/
import JumptotechLabs.Labs.Paths

namespace JumptotechLabs.Labs

open JumptotechLabs.Core

inductive PathLabStatus where
  | notStarted
  | inProgress
  | completed
deriving DecidableEq, Inhabited

inductive StageStatus where
  | comingSoon
  | locked
  | notStarted
  | inProgress
  | completed
deriving DecidableEq, Inhabited

inductive SkillStatus where
  | comingSoon
  | notStarted
  | inProgress
  | completed
deriving DecidableEq, Inhabited

inductive RecommendationKind where
  | resumeActive
  | activeSessionUnknown
  | continueAttempt
  | prerequisiteFirst
  | startStage
  | nextInStage
  | extraPractice
  | pathComplete
  | noneAvailable
deriving DecidableEq, Inhabited

/-- What to do next, and why. -/
structure Recommendation where
  kind : RecommendationKind
  labId : Option LabId
  stageId : Option String
  reason : String
deriving DecidableEq

/-- What the progress is computed from. -/
structure LearningProgressInput where
  path : ResolvedLearningPath
  statusOf : LabId → PathLabStatus
  canStart : LabId → Bool
  /-- The student's occupying sessions, newest first; none when unknown. -/
  activeLabIds : Option (List LabId)

/-- A prerequisite of a stage, and is it satisfied? -/
structure PrerequisiteProgress where
  stageId : String
  kind : PrerequisiteKind
  isMet : Bool
deriving DecidableEq

structure LabCounts where
  total : Nat
  completed : Nat
  inProgress : Nat
deriving DecidableEq, Inhabited

structure Counts where
  total : Nat
  completed : Nat
deriving DecidableEq, Inhabited

/-- The progress of a stage. -/
structure StageProgress where
  stageId : String
  status : StageStatus
  prerequisitesMet : Bool
  prerequisites : List PrerequisiteProgress
  labs : LabCounts
  core : Counts
  nextLabId : Option LabId
deriving DecidableEq, Inhabited

/-- The progress of a skill. -/
structure SkillProgress where
  skillId : String
  status : SkillStatus
  labs : Counts
deriving DecidableEq

structure OverallProgress where
  labs : LabCounts
  notStarted : Nat
  core : Counts
  stages : Counts
  stagesComingSoon : Nat
  skills : Counts
  skillsComingSoon : Nat
deriving DecidableEq

/-- The progress of a path. -/
structure LearningPathProgress where
  overall : OverallProgress
  currentStageId : Option String
  stages : List StageProgress
  skills : List SkillProgress
  labs : List (LabId × PathLabStatus)
  recommendation : Recommendation
deriving DecidableEq

/-- A picked lab; with the lab that needs it first, if that is why it was picked. -/
structure Pick where
  lab : ResolvedPathLab
  attempted : Bool
  target : Option ResolvedPathLab
deriving DecidableEq

def satisfies (status : StageStatus) : Bool := status == .completed || status == .comingSoon

namespace LearningProgressInput

variable (input : LearningProgressInput)

/-! ### Picking a lab -/

/-- The first prerequisite of a lab that is in the path and not verified. -/
def unverifiedPrerequisite (labId : LabId) : Option LabId :=
  match input.path.lab labId with
  | none => none
  | some lab => lab.info.prerequisites.find? fun prerequisite =>
      (input.path.lab prerequisite).isSome && input.statusOf prerequisite != .completed

theorem firstReady_isSome (labId : LabId) :
    (Cycles.follow id input.unverifiedPrerequisite (input.path.labs.length + 1) [] labId).isSome := by
  have known : ∀ item next, input.unverifiedPrerequisite item = some next →
      id item ∈ input.path.labs.map ResolvedPathLab.labId := by
    intro item next isNext
    rw [unverifiedPrerequisite] at isNext
    cases found : input.path.lab item with
    | none =>
        rw [found] at isNext
        cases isNext
    | some lab =>
        rw [id, ← Keyed.key_of_lookup found]
        exact List.mem_map_of_mem (Keyed.mem_of_lookup found)
  apply Cycles.follow_ends known List.nodup_nil (List.nil_subset _)
  rw [List.length_map]
  exact Nat.lt_succ_self _

/-- The first unverified lab on the way to `labId`, following lab.yaml prerequisites. -/
def firstReady (labId : LabId) : LabId :=
  (Cycles.follow id input.unverifiedPrerequisite (input.path.labs.length + 1) [] labId).get
    (input.firstReady_isSome labId)

/-- May a lab be picked? -/
def startable (requireStartable : Bool) (lab : ResolvedPathLab) : Bool :=
  !requireStartable || input.canStart lab.labId

/-- What is picked for a lab that is not started. -/
def pickFor (requireStartable : Bool) (lab : ResolvedPathLab) : Option Pick :=
  if input.statusOf lab.labId ≠ .notStarted then none
  else
    match input.path.lab (input.firstReady lab.labId) with
    | none => none
    | some ready =>
        if input.startable requireStartable ready = false then none
        else if ready.labId = lab.labId then some ⟨lab, false, none⟩
        else some ⟨ready, input.statusOf ready.labId == .inProgress, some lab⟩

def pickInStage (stage : ResolvedStage) (optional requireStartable : Bool) : Option Pick :=
  let pool := stage.labs.filter fun lab => lab.optional == optional
  match pool.find? fun lab => input.statusOf lab.labId == .inProgress && input.startable requireStartable lab with
  | some attempted => some ⟨attempted, true, none⟩
  | none => pool.findSome? (input.pickFor requireStartable)

/-! ### Stages -/

/-- How many labs have a status? -/
def countOf (status : PathLabStatus) (labs : List ResolvedPathLab) : Nat :=
  labs.countP fun lab => input.statusOf lab.labId == status

/-- The core labs of a stage. -/
def coreLabs (stage : ResolvedStage) : List ResolvedPathLab := stage.labs.filter fun lab => !lab.optional

/-- The prerequisites of a stage, by the stages before it. -/
def prerequisitesOf (byStage : List StageProgress) (stage : ResolvedStage) : List PrerequisiteProgress :=
  stage.prerequisites.map fun prerequisite =>
    ⟨prerequisite.stageId, prerequisite.kind,
      match Keyed.lookup StageProgress.stageId prerequisite.stageId byStage with
      | some prior => satisfies prior.status
      | none => true⟩

def stageStatus (stage : ResolvedStage) (prerequisitesMet : Bool) : StageStatus :=
  if stage.labs.length = 0 then .comingSoon
  else if input.countOf .completed (coreLabs stage) = (coreLabs stage).length then .completed
  else if 0 < input.countOf .completed stage.labs + input.countOf .inProgress stage.labs then .inProgress
  else if prerequisitesMet = false then .locked
  else .notStarted

def stageProgress (byStage : List StageProgress) (stage : ResolvedStage) : StageProgress :=
  let prerequisites := prerequisitesOf byStage stage
  let prerequisitesMet := prerequisites.all fun prerequisite => prerequisite.kind != .required || prerequisite.isMet
  { stageId := stage.id
    status := input.stageStatus stage prerequisitesMet
    prerequisitesMet := prerequisitesMet
    prerequisites := prerequisites
    labs :=
      { total := stage.labs.length
        completed := input.countOf .completed stage.labs
        inProgress := input.countOf .inProgress stage.labs }
    core := ⟨(coreLabs stage).length, input.countOf .completed (coreLabs stage)⟩
    nextLabId := ((input.pickInStage stage false false).or (input.pickInStage stage true false)).map fun pick =>
      pick.lab.labId }

/-- The progress of stages, one after the other, and of all by their ids. -/
def stagesFrom : List ResolvedStage → List StageProgress → List StageProgress × List StageProgress
  | [], byStage => ([], byStage)
  | stage :: stages, byStage =>
      let progress := input.stageProgress byStage stage
      let further := stagesFrom stages (Keyed.put StageProgress.stageId progress byStage)
      (progress :: further.1, further.2)

def stages : List StageProgress := (input.stagesFrom input.path.stages []).1

def byStage : List StageProgress := (input.stagesFrom input.path.stages []).2

/-- `byStage.get(stage.id)!`. -/
def stageOf (stage : ResolvedStage) : StageProgress :=
  (Keyed.lookup StageProgress.stageId stage.id input.byStage).getD default

/-! ### Skills -/

def skillProgress (skillId : String) : SkillProgress :=
  let covering := input.path.labsForSkill skillId
  let completed := input.countOf .completed covering
  let touched := covering.any fun lab => input.statusOf lab.labId != .notStarted
  { skillId := skillId
    status :=
      if covering.length = 0 then .comingSoon
      else if completed = covering.length then .completed
      else if touched then .inProgress
      else .notStarted
    labs := ⟨covering.length, completed⟩ }

def skills : List SkillProgress := input.path.skills.map fun skill => input.skillProgress skill.1

/-! ### The next lab -/

def withLabs : List ResolvedStage := input.path.stages.filter fun stage => 0 < stage.labs.length

def incomplete : List ResolvedStage :=
  input.withLabs.filter fun stage => (input.stageOf stage).status != .completed

def started (stage : ResolvedStage) : Bool :=
  decide (0 < (input.stageOf stage).labs.completed + (input.stageOf stage).labs.inProgress)

/-- The index of the last stage with a verified lab, or -1. -/
def lastVerified : Int :=
  input.path.stages.zipIdx.foldl (fun last stage =>
    if 0 < (input.stageOf stage.1).labs.completed then (stage.2 : Int) else last) (-1)

def eligible : List ResolvedStage := input.incomplete.filter fun stage => (input.stageOf stage).prerequisitesMet

/-- The stage a stage waits on. -/
def waitsOn (stage : ResolvedStage) : Option ResolvedStage :=
  if (input.stageOf stage).prerequisitesMet then none
  else
    match (input.stageOf stage).prerequisites.find? fun prerequisite =>
        prerequisite.kind == .required && !prerequisite.isMet with
    | none => none
    | some blocking => input.path.stage blocking.stageId

theorem waitsOn_isSome (stage : ResolvedStage) :
    (Cycles.follow ResolvedStage.id input.waitsOn (input.byStage.length + 1) [] stage).isSome := by
  have known : ∀ item next, input.waitsOn item = some next →
      item.id ∈ input.byStage.map StageProgress.stageId := by
    intro item next isNext
    rw [waitsOn] at isNext
    cases found : Keyed.lookup StageProgress.stageId item.id input.byStage with
    | none =>
        rw [stageOf, found] at isNext
        cases isNext
    | some progress =>
        rw [← Keyed.key_of_lookup found]
        exact List.mem_map_of_mem (Keyed.mem_of_lookup found)
  apply Cycles.follow_ends known List.nodup_nil (List.nil_subset _)
  rw [List.length_map]
  exact Nat.lt_succ_self _

/-- The stage a student meets next in path order, after their last verified stage; if it waits on an
    unsatisfied required stage, that stage, and the one it is before. -/
def upNext : Option (ResolvedStage × Option ResolvedStage) :=
  match input.incomplete.find? fun stage => decide (input.lastVerified < (input.path.stages.idxOf stage : Int)) with
  | none => none
  | some next =>
      let current := (Cycles.follow ResolvedStage.id input.waitsOn (input.byStage.length + 1) [] next).get
        (input.waitsOn_isSome next)
      if (input.stageOf current).prerequisitesMet = false then none
      else if current = next then some (next, none)
      else some (current, some next)

def order : List ResolvedStage :=
  (input.incomplete.filter input.started ++ (input.upNext.map Prod.fst).toList ++ input.eligible).eraseDups

def nextStageAfter (stage : ResolvedStage) : Option ResolvedStage :=
  input.withLabs.find? fun candidate => decide (stage.position < candidate.position)

def anyActivity : Bool := input.path.stages.any input.started

/-- What is recommended for a lab picked in a stage. -/
def recommendCore (stage : ResolvedStage) (pick : Pick) : Recommendation :=
  let recommend := fun kind reason =>
    (⟨kind, some pick.lab.labId, some pick.lab.stageId, reason⟩ : Recommendation)
  match pick.target with
  | some target =>
      recommend .prerequisiteFirst (pick.lab.labId.val ++ " comes before " ++ target.labId.val ++ " (" ++
        target.info.title ++ "), the next lab in " ++ stage.title ++ ".")
  | none =>
      if pick.attempted then
        recommend .continueAttempt "You started this lab and have not passed Verify yet."
      else if input.started stage then
        -- "Before starting Y" only when Y really has not been started or finished.
        match (input.nextStageAfter stage).filter fun following =>
            !input.started following && (input.stageOf following).status != .completed with
        | some following =>
            recommend .nextInStage ("Next in " ++ stage.title ++ ". Finish the " ++ stage.title ++
              " stage before starting " ++ following.title ++ ".")
        | none => recommend .nextInStage ("Next in " ++ stage.title ++ ".")
      else
        recommend .startStage <|
          if !input.anyActivity && input.withLabs.head? == some stage then
            "Start here. " ++ stage.title ++ " is the first stage of the " ++ input.path.title ++ " path."
          else
            match input.upNext.filter fun up => up.1 = stage with
            | some (_, some before) =>
                stage.title ++ " comes before " ++ before.title ++ ", the next stage of the " ++
                  input.path.title ++ " path."
            | some (_, none) => stage.title ++ " is the next stage of the " ++ input.path.title ++ " path."
            | none =>
                stage.title ++ " is the earliest unfinished stage of the " ++ input.path.title ++
                  " path that can be started on this platform right now."

/-- The first core lab of the stages in their order. -/
def coreRecommendation : Option (String × Recommendation) :=
  input.order.findSome? fun stage =>
    (input.pickInStage stage false true).map fun pick => (stage.id, input.recommendCore stage pick)

/-- Extra practice, once every core lab is verified. -/
def extraPractice : Option Recommendation :=
  if input.incomplete.length = 0 then
    input.withLabs.findSome? fun stage =>
      (input.pickInStage stage true true).map fun pick =>
        { kind := .extraPractice
          labId := some pick.lab.labId
          stageId := some pick.lab.stageId
          reason := "You have verified the core labs of every available stage. This extra-practice lab goes further in "
            ++ stage.title ++ "." }
  else none

/-- The path is complete, or nothing left can be started now. -/
def nothingLeft : Recommendation :=
  if input.path.labs.all (fun lab => input.statusOf lab.labId == .completed) && decide (0 < input.path.labs.length)
  then
    ⟨.pathComplete, none, none, "You have completed every lab currently available in the " ++ input.path.title ++
      " path. Stages marked Coming soon will open as labs are added."⟩
  else
    ⟨.noneAvailable, none, none, "None of the next labs in this path can be started on this platform right now."⟩

/-- The current stage and what is recommended, running labs apart. -/
def nextLab : Option String × Recommendation :=
  match input.coreRecommendation with
  | some (stageId, recommendation) => (some stageId, recommendation)
  | none =>
      (if input.incomplete.length = 0 then none else input.order.head?.map ResolvedStage.id,
        input.extraPractice.getD input.nothingLeft)

/-- One lab at a time: a running lab comes first. -/
def recommendation : Recommendation :=
  match input.activeLabIds with
  | none =>
      ⟨.activeSessionUnknown, none, none, "We could not check whether you already have a lab running, so no next lab is suggested right now."⟩
  | some [] => input.nextLab.2
  | some (labId :: _) =>
      ⟨.resumeActive, some labId, (input.path.lab labId).map ResolvedPathLab.stageId, "You have a lab running. Continue it, or end it, before starting another — you can run one lab at a time."⟩

end LearningProgressInput

open LearningProgressInput in
def computeLearningPathProgress (input : LearningProgressInput) : LearningPathProgress :=
  let allLabs := input.path.labs
  let completedLabs := input.countOf .completed allLabs
  let inProgressLabs := input.countOf .inProgress allLabs
  let core := allLabs.filter fun lab => !lab.optional
  let stages := input.stages
  let skills := input.skills
  { overall :=
      { labs := ⟨allLabs.length, completedLabs, inProgressLabs⟩
        notStarted := allLabs.length - completedLabs - inProgressLabs
        core := ⟨core.length, input.countOf .completed core⟩
        stages := ⟨stages.length, stages.countP fun stage => stage.status == .completed⟩
        stagesComingSoon := stages.countP fun stage => stage.status == .comingSoon
        skills := ⟨skills.length, skills.countP fun skill => skill.status == .completed⟩
        skillsComingSoon := skills.countP fun skill => skill.status == .comingSoon }
    currentStageId := input.nextLab.1
    stages := stages
    skills := skills
    labs := allLabs.map fun lab => (lab.labId, input.statusOf lab.labId)
    recommendation := input.recommendation }

end JumptotechLabs.Labs
