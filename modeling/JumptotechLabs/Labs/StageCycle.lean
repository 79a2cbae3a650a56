/-
Module: JumptotechLabs.Labs.StageCycle
Layer: Labs (services/lab-orchestrator/src/learning-paths.ts)
Purpose: The search for a cycle of stage prerequisites is exact. It ends, it finds nothing only where the edges between
  known stages make no cycle, and what it finds is a way round along such edges.
Main exports: StageRequires, KnownStageEdge, edge_stageEdges_iff, findStageCycle_exact
-/
import JumptotechLabs.Labs.Paths

namespace JumptotechLabs.Labs

open JumptotechLabs.Core
open JumptotechLabs.Core.Cycles (Closed Edge)
open Relation (TransGen)

/-- A stage asks for another first. Of several stages with one id, the last one counts. -/
def StageRequires (path : LearningPathDefinition) (id other : String) : Prop :=
  ∃ before stage after, path.stages = before ++ stage :: after ∧ stage.id = id ∧ (∀ later ∈ after, later.id ≠ id) ∧
    ∃ prerequisite ∈ stage.prerequisites, prerequisite.stage = other

/-- An edge between two distinct stages of the path. -/
structure KnownStageEdge (path : LearningPathDefinition) (id other : String) : Prop where
  requires : StageRequires path id other
  distinct : other ≠ id
  known : other ∈ path.stages.map LearningStageDefinition.id

variable {path : LearningPathDefinition} {id other : String}

/-- The entry of a stage in the map of edges. -/
def stageEntry (stage : LearningStageDefinition) : String × List String :=
  (stage.id, stage.prerequisites.map StagePrerequisite.stage)

theorem lookup_stageEntry_iff {named : List String} :
    Keyed.lookup Prod.fst id (Keyed.putAll Prod.fst (path.stages.map stageEntry)) = some (id, named) ↔
      ∃ before stage after, path.stages = before ++ stage :: after ∧ stage.id = id ∧
        (∀ later ∈ after, later.id ≠ id) ∧ stage.prerequisites.map StagePrerequisite.stage = named := by
  rw [Keyed.lookup_putAll_iff]
  constructor
  · rintro ⟨-, before, after, whole, last⟩
    obtain ⟨earlier, rest, stages, -, isRest⟩ := List.map_eq_append_iff.mp whole
    obtain ⟨stage, later, rfl, isStage, rfl⟩ := List.map_eq_cons_iff.mp isRest
    cases isStage
    exact ⟨earlier, stage, later, stages, rfl, fun one isLater => last _ (List.mem_map_of_mem isLater), rfl⟩
  · rintro ⟨before, stage, after, whole, rfl, last, rfl⟩
    refine ⟨rfl, before.map stageEntry, after.map stageEntry, by rw [whole, List.map_append, List.map_cons]; rfl, ?_⟩
    intro entry isLater
    obtain ⟨later, inside, rfl⟩ := List.mem_map.mp isLater
    exact last later inside

theorem edge_stageEdges_iff : Edge (stageEdges path) id other ↔ StageRequires path id other ∧ other ≠ id := by
  constructor
  · rintro ⟨named, names, isNamed⟩
    obtain ⟨⟨own, all⟩, found, rfl⟩ := Option.map_eq_some_iff.mp names
    cases (Keyed.key_of_lookup found : own = id)
    obtain ⟨before, stage, after, whole, isId, last, rfl⟩ := lookup_stageEntry_iff.mp found
    obtain ⟨isPrerequisite, distinct⟩ := List.mem_filter.mp isNamed
    exact ⟨⟨before, stage, after, whole, isId, last, List.mem_map.mp isPrerequisite⟩, of_decide_eq_true distinct⟩
  · rintro ⟨⟨before, stage, after, whole, isId, last, isPrerequisite⟩, distinct⟩
    have found := lookup_stageEntry_iff.mpr ⟨before, stage, after, whole, isId, last, rfl⟩
    exact ⟨_, Option.map_eq_some_iff.mpr ⟨_, found, rfl⟩,
      List.mem_filter.mpr ⟨List.mem_map.mpr isPrerequisite, decide_eq_true distinct⟩⟩

theorem StageRequires.known (requires : StageRequires path id other) :
    id ∈ path.stages.map LearningStageDefinition.id := by
  obtain ⟨before, stage, after, whole, rfl, -⟩ := requires
  rw [whole]
  exact List.mem_map_of_mem (List.mem_append_right before List.mem_cons_self)

/-- On a way round every stage is known: each of them asks for the next. -/
theorem closed_known {cycle : List String} (closed : Closed (Edge (stageEdges path)) cycle) :
    Closed (KnownStageEdge path) cycle where
  along := closed.along.imp_of_mem_imp fun id other _ isOther edge => by
    obtain ⟨requires, distinct⟩ := edge_stageEdges_iff.mp edge
    obtain ⟨next, onward⟩ := closed.exists_step isOther
    exact ⟨requires, distinct, (edge_stageEdges_iff.mp onward).1.known⟩
  long := closed.long
  back := closed.back

theorem edge_of_known (edge : KnownStageEdge path id other) : Edge (stageEdges path) id other :=
  edge_stageEdges_iff.mpr ⟨edge.requires, edge.distinct⟩

theorem findStageCycle_eq (path : LearningPathDefinition) :
    ∃ answer, Cycles.eachDone (Cycles.visit (stageEdges path) (path.stages.length + 1) [])
        (path.stages.map LearningStageDefinition.id) [] = some answer ∧
      findStageCycle path = match answer with
        | .error cycle => some cycle
        | .ok _ => none :=
  ⟨_, (Option.some_get (stageWalk_isSome path)).symm, rfl⟩

theorem findStageCycle_eq_none (nothing : findStageCycle path = none) (id : String) :
    ¬ TransGen (KnownStageEdge path) id id := by
  intro cycle
  have isStage : id ∈ path.stages.map LearningStageDefinition.id := by
    obtain ⟨next, first, -⟩ := Relation.TransGen.head'_iff.mp cycle
    exact first.requires.known
  obtain ⟨answer, ended, told⟩ := findStageCycle_eq path
  rw [nothing] at told
  cases answer with
  | error found => cases told
  | ok last =>
      have allLeft := (Cycles.eachDone_ok (fun _ _ _ _ known went => Cycles.acc_of_visit known went)
        (List.forall_mem_nil _) ended).1
      exact Cycles.not_cycle_of_acc (allLeft id isStage) (cycle.lift (fun node => node) fun _ _ => edge_of_known)

theorem findStageCycle_eq_some {cycle : List String} (found : findStageCycle path = some cycle) :
    Closed (KnownStageEdge path) cycle := by
  obtain ⟨answer, ended, told⟩ := findStageCycle_eq path
  rw [found] at told
  cases answer with
  | ok last => cases told
  | error first =>
      cases told
      obtain ⟨id, -, before, isFound⟩ := Cycles.eachDone_error ended
      have start : ([] ++ [id]).IsChain (Edge (stageEdges path)) := List.isChain_singleton id
      exact closed_known (Cycles.closed_of_visit start isFound)

/-- The search ends, however the stages name each other; it finds nothing exactly where no known stage leads back to
    itself, and else a way round. -/
theorem findStageCycle_exact (path : LearningPathDefinition) :
    (∀ fuel, path.stages.length < fuel →
        (Cycles.eachDone (Cycles.visit (stageEdges path) fuel [])
          (path.stages.map LearningStageDefinition.id) []).isSome = true) ∧
      (findStageCycle path = none ↔ ∀ id, ¬ TransGen (KnownStageEdge path) id id) ∧
      ∀ cycle, findStageCycle path = some cycle → Closed (KnownStageEdge path) cycle := by
  refine ⟨fun fuel enough => ?_, ⟨findStageCycle_eq_none, fun acyclic => ?_⟩, fun _ => findStageCycle_eq_some⟩
  · apply Cycles.eachDone_ends
    intro id _ done
    apply Cycles.visit_ends mem_stages_of_stageEdges List.nodup_nil (List.nil_subset _)
    rw [List.length_map]
    exact enough
  · cases found : findStageCycle path with
    | none => rfl
    | some cycle =>
        obtain ⟨id, back⟩ := (findStageCycle_eq_some found).transGen
        exact absurd back (acyclic id)

end JumptotechLabs.Labs
