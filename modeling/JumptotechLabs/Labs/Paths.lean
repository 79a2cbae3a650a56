/-
Module: JumptotechLabs.Labs.Paths
Layer: Labs (services/lab-orchestrator/src/learning-paths.ts)
Purpose: Learning paths: stages of labs in an order, with the skills they give practice in. `validateLearningPath`
  collects every issue of a path, and `resolveLearningPath` joins a path to its labs. The texts that are only
  shown, and the bounds of the schema, are left out.
Main exports: LearningPathDefinition, PathLabInfo, PathLabSource, labSourceFromRegistry, findStageCycle, Placement,
  validateLearningPath, ResolvedPathLab, ResolvedStage, ResolvedLearningPath, resolveLearningPath
-/
import JumptotechLabs.Core.Collect
import JumptotechLabs.Labs.Registry

namespace JumptotechLabs.Labs

open JumptotechLabs.Core

/-! ### Definitions -/

inductive PrerequisiteKind where
  | required
  | recommended
deriving DecidableEq, Inhabited

/-- What a stage requires. -/
structure StagePrerequisite where
  stage : String
  kind : PrerequisiteKind
deriving DecidableEq

/-- A lab's place in a path. -/
structure LabAssignment where
  lab : LabId
  skills : List String
  optional : Bool
deriving DecidableEq

/-- A stage, as the path defines it. -/
structure LearningStageDefinition where
  id : String
  title : String
  prerequisites : List StagePrerequisite
  skills : List String
  labs : List LabAssignment
deriving DecidableEq

/-- A path, as it is written. -/
structure LearningPathDefinition where
  title : String
  stages : List LearningStageDefinition
deriving DecidableEq

structure SkillDefinition where
  id : String
  title : String
  description : String
deriving DecidableEq

/-- The skills of `skills.yaml`, by their ids. -/
abbrev SkillCatalog := String → Option SkillDefinition

/-- The catalog facts a path needs about one lab. -/
structure PathLabInfo where
  id : LabId
  title : String
  summary : String
  track : String
  provider : String
  difficulty : String
  durationMinutes : Nat
  prerequisites : List LabId
deriving DecidableEq

/-- Where a path looks labs up. -/
abbrev PathLabSource := LabId → Option PathLabInfo

def labSourceFromRegistry (registry : LabRegistry) : PathLabSource := fun labId =>
  (registry.lab labId).map fun lab =>
    { id := lab.id
      title := lab.title
      summary := lab.summary
      track := lab.track
      provider := lab.provider
      difficulty := lab.difficulty
      durationMinutes := lab.durationMinutes
      prerequisites := lab.prerequisites }

/-! ### Validation -/

/-- The values that stand behind an equal one, each once. -/
def duplicatesOf (values : List String) : List String :=
  ((values.zipIdx.filter fun (value, index) => values.idxOf value ≠ index).map Prod.fst).eraseDups

/-- The prerequisites of the stages, less a stage's own id. -/
def stageEdges (path : LearningPathDefinition) (id : String) : Option (List String) :=
  (Keyed.lookup Prod.fst id (Keyed.putAll Prod.fst (path.stages.map fun stage =>
    (stage.id, stage.prerequisites.map StagePrerequisite.stage)))).map fun entry =>
      entry.2.filter fun next => next ≠ id

theorem mem_stages_of_stageEdges {path : LearningPathDefinition} (id : String) (named : List String)
    (there : stageEdges path id = some named) : id ∈ path.stages.map LearningStageDefinition.id := by
  obtain ⟨entry, found, -⟩ := Option.map_eq_some_iff.mp there
  obtain ⟨stage, isStage, rfl⟩ := List.mem_map.mp (Keyed.mem_of_mem_putAll (Keyed.mem_of_lookup found))
  rw [← @Keyed.key_of_lookup _ _ _ Prod.fst _ _ _ found]
  exact List.mem_map_of_mem isStage

theorem stageWalk_isSome (path : LearningPathDefinition) :
    (Cycles.eachDone (Cycles.visit (stageEdges path) (path.stages.length + 1) [])
      (path.stages.map LearningStageDefinition.id) []).isSome := by
  apply Cycles.eachDone_ends
  intro id _ done
  apply Cycles.visit_ends mem_stages_of_stageEdges List.nodup_nil (List.nil_subset _)
  rw [List.length_map]
  exact Nat.lt_succ_self _

/-- Depth-first search over stage prerequisites. Returns the cycle, if any. -/
def findStageCycle (path : LearningPathDefinition) : Option (List String) :=
  match (Cycles.eachDone (Cycles.visit (stageEdges path) (path.stages.length + 1) [])
    (path.stages.map LearningStageDefinition.id) []).get (stageWalk_isSome path) with
  | .error cycle => some cycle
  | .ok _ => none

/-- Where a lab is placed. -/
structure Placement where
  lab : LabId
  stageId : String
  stageIndex : Nat
  sequence : Nat
  optional : Bool
deriving DecidableEq

/-- A stage is declared: its id and index, by its id. -/
def declareStage (stageIndex : List (String × Nat)) (stage : LearningStageDefinition × Nat) :
    List String × List (String × Nat) :=
  match Keyed.lookup Prod.fst stage.1.id stageIndex with
  | some _ => (["stage '" ++ stage.1.id ++ "' is declared more than once"], stageIndex)
  | none => ([], stageIndex ++ [(stage.1.id, stage.2)])

/-- A skill of a stage, which owns it if no stage before it does. -/
def ownSkill (skills : SkillCatalog) (stage : LearningStageDefinition) (skillOwner : List (String × String))
    (skill : String) : List String × List (String × String) :=
  let unknown :=
    if (skills skill).isNone then
      ["stage '" ++ stage.id ++ "': skill '" ++ skill ++ "' is not defined in skills.yaml"]
    else []
  match Keyed.lookup Prod.fst skill skillOwner with
  | some owner =>
      (unknown ++ ["skill '" ++ skill ++ "' is declared by both stage '" ++ owner.2 ++ "' and stage '" ++
        stage.id ++ "'"], skillOwner)
  | none => (unknown, skillOwner ++ [(skill, stage.id)])

/-- The skills of a stage: known, and owned by exactly one stage. -/
def ownSkills (skills : SkillCatalog) (skillOwner : List (String × String)) (stage : LearningStageDefinition) :
    List String × List (String × String) :=
  let repeated := (duplicatesOf stage.skills).map fun duplicate =>
    "stage '" ++ stage.id ++ "' lists skill '" ++ duplicate ++ "' more than once"
  let owned := collect (ownSkill skills stage) stage.skills.eraseDups skillOwner
  (repeated ++ owned.1, owned.2)

/-- One lab of a stage: placed once, there, with skills this path declares. -/
def placeLab (labs : PathLabSource) (skillOwner : List (String × String)) (stage : LearningStageDefinition × Nat)
    (placement : List Placement) (assignment : LabAssignment × Nat) : List String × List Placement :=
  match Keyed.lookup Placement.lab assignment.1.lab placement with
  | some existing =>
      (["lab " ++ assignment.1.lab.val ++ " is assigned more than once (stage '" ++ existing.stageId ++
        "' and stage '" ++ stage.1.id ++ "')"], placement)
  | none =>
      let missing :=
        if (labs assignment.1.lab).isNone then
          ["stage '" ++ stage.1.id ++ "': lab " ++ assignment.1.lab.val ++ " does not exist in the lab catalog"]
        else []
      let repeated := (duplicatesOf assignment.1.skills).map fun duplicate =>
        "stage '" ++ stage.1.id ++ "': lab " ++ assignment.1.lab.val ++ " lists skill '" ++ duplicate ++
          "' more than once"
      let undeclared := (assignment.1.skills.eraseDups.filter fun skill =>
          (Keyed.lookup Prod.fst skill skillOwner).isNone).map fun skill =>
        "stage '" ++ stage.1.id ++ "': lab " ++ assignment.1.lab.val ++ " names skill '" ++ skill ++
          "', which no stage of this path declares"
      (missing ++ repeated ++ undeclared,
        placement ++ [⟨assignment.1.lab, stage.1.id, stage.2, assignment.2, assignment.1.optional⟩])

/-- The labs of a stage, one of which is a core lab. -/
def placeLabs (labs : PathLabSource) (skillOwner : List (String × String)) (placement : List Placement)
    (stage : LearningStageDefinition × Nat) : List String × List Placement :=
  let placed := collect (placeLab labs skillOwner stage) stage.1.labs.zipIdx placement
  let noCore :=
    if 0 < stage.1.labs.length ∧ stage.1.labs.all LabAssignment.optional then
      ["stage '" ++ stage.1.id ++ "' has labs but no core lab — at least one lab must not be optional"]
    else []
  (placed.1 ++ noCore, placed.2)

/-- The prerequisites of a stage: known and earlier. -/
def prerequisiteIssues (stageIndex : List (String × Nat)) (stage : LearningStageDefinition × Nat) : List String :=
  let repeated := (duplicatesOf (stage.1.prerequisites.map StagePrerequisite.stage)).map fun duplicate =>
    "stage '" ++ stage.1.id ++ "' lists prerequisite stage '" ++ duplicate ++ "' more than once"
  repeated ++ stage.1.prerequisites.flatMap fun prerequisite =>
    if prerequisite.stage = stage.1.id then ["stage '" ++ stage.1.id ++ "' lists itself as a prerequisite"]
    else
      match Keyed.lookup Prod.fst prerequisite.stage stageIndex with
      | none =>
          ["stage '" ++ stage.1.id ++ "': prerequisite stage '" ++ prerequisite.stage ++
            "' does not exist in this path"]
      | some target =>
          if stage.2 < target.2 then
            ["stage '" ++ stage.1.id ++ "': prerequisite stage '" ++ prerequisite.stage ++
              "' comes later in the path — a prerequisite must come before the stage that needs it"]
          else []

/-- The prerequisites of one lab, from its `lab.yaml`, agree with the path's order. -/
def labPrerequisiteIssues (labs : PathLabSource) (placement : List Placement) (place : Placement) : List String :=
  match labs place.lab with
  | none => []
  | some info =>
      info.prerequisites.flatMap fun prerequisite =>
        match Keyed.lookup Placement.lab prerequisite placement with
        | none =>
            ["lab " ++ place.lab.val ++ " (stage '" ++ place.stageId ++ "') requires " ++ prerequisite.val ++
              ", which is not placed in this path"]
        | some before =>
            let later :=
              if place.stageIndex < before.stageIndex ∨
                  before.stageIndex = place.stageIndex ∧ place.sequence < before.sequence then
                ["lab " ++ place.lab.val ++ " is placed before its prerequisite " ++ prerequisite.val ++
                  " — move it after " ++ prerequisite.val ++ " in stage '" ++ place.stageId ++
                  "' or into a later stage"]
              else []
            let onOptional :=
              if place.optional = false ∧ before.optional = true then
                ["core lab " ++ place.lab.val ++ " requires " ++ prerequisite.val ++
                  ", which is optional — a core lab cannot depend on extra practice"]
              else []
            later ++ onOptional

/-- Structural validation of a path against the skills and the labs: every problem found. -/
def validateLearningPath (path : LearningPathDefinition) (skills : SkillCatalog) (labs : PathLabSource) :
    List String :=
  let declared := collect declareStage path.stages.zipIdx []
  let owned := collect (ownSkills skills) path.stages []
  let placed := collect (placeLabs labs owned.2) path.stages.zipIdx []
  let prerequisites := path.stages.zipIdx.flatMap (prerequisiteIssues declared.2)
  let cycle := (findStageCycle path).toList.map fun cycle =>
    "stage prerequisites form a cycle: " ++ String.intercalate " → " cycle
  declared.1 ++ owned.1 ++ placed.1 ++ prerequisites ++ cycle ++
    placed.2.flatMap (labPrerequisiteIssues labs placed.2)

/-! ### Resolution -/

/-- One lab, placed in a stage. -/
structure ResolvedPathLab where
  labId : LabId
  stageId : String
  sequence : Nat
  optional : Bool
  skills : List String
  info : PathLabInfo
deriving DecidableEq

/-- A prerequisite of a resolved stage. -/
structure ResolvedPrerequisite where
  stageId : String
  kind : PrerequisiteKind
deriving DecidableEq

/-- A stage with its labs looked up. -/
structure ResolvedStage where
  id : String
  position : Nat
  title : String
  prerequisites : List ResolvedPrerequisite
  skills : List String
  labs : List ResolvedPathLab
deriving DecidableEq

/-- A path, joined to its skills and labs. -/
structure ResolvedLearningPath where
  title : String
  stages : List ResolvedStage
  skills : List (String × SkillDefinition)
  labs : List ResolvedPathLab
deriving DecidableEq

namespace ResolvedLearningPath

def stage (path : ResolvedLearningPath) (stageId : String) : Option ResolvedStage :=
  Keyed.lookup ResolvedStage.id stageId (Keyed.putAll ResolvedStage.id path.stages)

/-- A placed lab. -/
def lab (path : ResolvedLearningPath) (labId : LabId) : Option ResolvedPathLab :=
  Keyed.lookup ResolvedPathLab.labId labId path.labs

/-- The labs that give practice in a skill, once for each time they name it. -/
def labsForSkill (path : ResolvedLearningPath) (skillId : String) : List ResolvedPathLab :=
  path.labs.flatMap fun lab => (lab.skills.filter fun skill => skill = skillId).map fun _ => lab

end ResolvedLearningPath

def resolveLab (labs : PathLabSource) (stage : LearningStageDefinition) (assignment : LabAssignment × Nat) :
    Except String ResolvedPathLab :=
  match labs assignment.1.lab with
  | none =>
      .error ("lab " ++ assignment.1.lab.val ++ " is not in the catalog; validate the path first")
  | some info =>
      .ok
        { labId := assignment.1.lab
          stageId := stage.id
          sequence := assignment.2
          optional := assignment.1.optional
          skills := assignment.1.skills
          info := info }

def resolveStage (labs : PathLabSource) (stage : LearningStageDefinition × Nat) :
    Except String ResolvedStage := do
  let placed ← stage.1.labs.zipIdx.mapM (resolveLab labs stage.1)
  return {
    id := stage.1.id
    position := stage.2 + 1
    title := stage.1.title
    prerequisites := stage.1.prerequisites.map fun prerequisite => ⟨prerequisite.stage, prerequisite.kind⟩
    skills := stage.1.skills
    labs := placed }

/-- Join a path that has already passed `validateLearningPath`. -/
def resolveLearningPath (path : LearningPathDefinition) (skills : SkillCatalog) (labs : PathLabSource) :
    Except String ResolvedLearningPath := do
  let stages ← path.stages.zipIdx.mapM (resolveStage labs)
  return {
    title := path.title
    stages := stages
    skills := Keyed.putAll Prod.fst ((stages.flatMap ResolvedStage.skills).filterMap fun id =>
      (skills id).map fun skill => (id, skill))
    labs := Keyed.putAll ResolvedPathLab.labId (stages.flatMap ResolvedStage.labs) }

end JumptotechLabs.Labs
