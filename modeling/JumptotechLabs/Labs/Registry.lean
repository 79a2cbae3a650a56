/-
Module: JumptotechLabs.Labs.Registry
Layer: Labs (services/lab-orchestrator/src/lab-registry.ts, validation.ts)
Purpose: The catalog of labs: what the files of the labs directory register, and `validatePrerequisites`, which
  drops labs whose prerequisites name a lab that is not there or lead into a cycle, until a round drops none.
  What is left are the labs from which no chain of prerequisites reaches either.
Main exports: LabId, LoadedLabDefinition, LabRegistry, LabRegistry.load, LabRegistry.validatePrerequisites,
  LabRegistry.Mirrored, Pruned, pass_spec, round_spec, registry_keeps_founded_labs
-/
import JumptotechLabs.Core.Cycles
import JumptotechLabs.Core.Keyed

namespace JumptotechLabs.Labs

open JumptotechLabs.Core
open JumptotechLabs.Core.Cycles (Edge Founded)
open Relation (ReflTransGen TransGen)

/-! ### Labs -/

/-- `LAB_ID_PATTERN`. -/
def isLabId (text : String) : Bool :=
  let isTrackChar := fun c : Char => c.isUpper || c.isDigit
  match text.toList with
  | [] => false
  | first :: rest =>
      first.isUpper && decide (1 ≤ (rest.takeWhile isTrackChar).length) &&
        decide ((rest.takeWhile isTrackChar).length ≤ 9) &&
        match rest.dropWhile isTrackChar with
        | '-' :: number => number.length == 3 && number.all Char.isDigit
        | _ => false

/-- A lab id as the schema admits it. Such an id is its own upper case. -/
abbrev LabId := { text : String // isLabId text = true }

theorem isLabId_zero : isLabId "LIN-000" = true := by decide

theorem isLabId_one : isLabId "LIN-001" = true := by decide

/-- What is read of a `lab.yaml`. -/
structure LoadedLabDefinition where
  id : LabId
  slug : String
  title : String
  summary : String
  track : String
  provider : String
  difficulty : String
  durationMinutes : Nat
  prerequisites : List LabId
  sourcePath : String
deriving DecidableEq

/-- Why a file is not loaded: the format of a `LabDefinitionError`, or the message of another. -/
inductive LoadFailure where
  | invalid (format : String)
  | other (message : String)
deriving DecidableEq, Inhabited

def describeLoadFailure (file : String) : LoadFailure → String
  | .invalid format => format ++ "\n(" ++ file ++ ")"
  | .other message => file ++ ": " ++ message

/-- The two maps of the catalog, from id to lab and from slug to id, and what went wrong. -/
structure LabRegistry where
  labs : List LoadedLabDefinition
  slugs : List (String × LabId)
  loadErrors : List String
  labKeys : Keyed.Distinct LoadedLabDefinition.id labs
  slugKeys : Keyed.Distinct Prod.fst slugs

namespace LabRegistry

def empty : LabRegistry := ⟨[], [], [], .nil, .nil⟩

def lab (registry : LabRegistry) (id : LabId) : Option LoadedLabDefinition :=
  Keyed.lookup LoadedLabDefinition.id id registry.labs

def has (registry : LabRegistry) (id : LabId) : Bool := (registry.lab id).isSome

def slugOwner (registry : LabRegistry) (slug : String) : Option LabId :=
  (Keyed.lookup Prod.fst slug registry.slugs).map Prod.snd

def size (registry : LabRegistry) : Nat := registry.labs.length

/-- `#loadErrors.push`. -/
def report (registry : LabRegistry) (error : String) : LabRegistry :=
  { registry with loadErrors := registry.loadErrors ++ [error] }

/-- One file of `load`. -/
def register (registry : LabRegistry) (file : String × Except LoadFailure LoadedLabDefinition) : LabRegistry :=
  match file.2 with
  | .error cause => registry.report (describeLoadFailure file.1 cause)
  | .ok lab =>
      match isLab : registry.lab lab.id, isSlug : Keyed.lookup Prod.fst lab.slug registry.slugs with
      | some existing, _ =>
          registry.report ("LAB_DEFINITION_INVALID\n\n" ++ lab.id.val ++
            ":\nduplicate lab id — already defined by " ++ existing.sourcePath ++ " (" ++ file.1 ++ ")")
      | none, some (_, owner) =>
          registry.report ("LAB_DEFINITION_INVALID\n\n" ++ lab.id.val ++ ":\nduplicate slug '" ++ lab.slug ++
            "' — already used by " ++ owner.val ++ " (" ++ file.1 ++ ")")
      | none, none =>
          { registry with
            labs := registry.labs ++ [lab]
            slugs := registry.slugs ++ [(lab.slug, lab.id)]
            labKeys := registry.labKeys.append isLab
            slugKeys := registry.slugKeys.append isSlug }

def unregister (registry : LabRegistry) (lab : LoadedLabDefinition) : LabRegistry :=
  { registry with
    labs := Keyed.remove LoadedLabDefinition.id lab.id registry.labs
    slugs := Keyed.remove Prod.fst lab.slug registry.slugs
    labKeys := registry.labKeys.remove
    slugKeys := registry.slugKeys.remove }

end LabRegistry

/-! ### Prerequisites -/

/-- The prerequisites of a lab that is there. -/
def prerequisitesIn (labs : List LoadedLabDefinition) (id : LabId) : Option (List LabId) :=
  (Keyed.lookup LoadedLabDefinition.id id labs).map LoadedLabDefinition.prerequisites

theorem mem_ids_of_prerequisitesIn {labs : List LoadedLabDefinition} (id : LabId) (named : List LabId)
    (there : prerequisitesIn labs id = some named) : id ∈ labs.map LoadedLabDefinition.id := by
  obtain ⟨lab, found, -⟩ := Option.map_eq_some_iff.mp there
  rw [← Keyed.key_of_lookup found]
  exact List.mem_map_of_mem (Keyed.mem_of_lookup found)

namespace LabRegistry

/-- A path has no lab twice, so the walk ends. -/
theorem walk_isSome (registry : LabRegistry) (start : LabId) :
    (Cycles.walk (prerequisitesIn registry.labs) (registry.size + 1) [] start).isSome := by
  apply Cycles.walk_ends mem_ids_of_prerequisitesIn List.nodup_nil (List.nil_subset _)
  rw [List.length_map, size]
  exact Nat.lt_succ_self _

/-- Depth-first walk from one lab, returning the cycle path if it loops back. -/
def findPrerequisiteCycle (registry : LabRegistry) (start : LabId) : Option (List LabId) :=
  (Cycles.walk (prerequisitesIn registry.labs) (registry.size + 1) [] start).get (registry.walk_isSome start)

/-- Which prerequisites of a lab are not there? -/
def missingFault (registry : LabRegistry) (lab : LoadedLabDefinition) : Option String :=
  let missing := lab.prerequisites.filter fun id => !registry.has id
  if missing.isEmpty then none
  else some ("LAB_DEFINITION_INVALID\n\n" ++ lab.id.val ++ ":\nprerequisites reference unknown lab(s): " ++
    String.intercalate ", " (missing.map Subtype.val) ++ "\n(" ++ lab.sourcePath ++ ")")

/-- Do the prerequisites of a lab lead into a cycle? -/
def cycleFault (registry : LabRegistry) (lab : LoadedLabDefinition) : Option String :=
  (registry.findPrerequisiteCycle lab.id).map fun cycle =>
    "LAB_DEFINITION_INVALID\n\n" ++ lab.id.val ++ ":\nprerequisites form a cycle: " ++
      String.intercalate " → " (cycle.map Subtype.val) ++ "\n(" ++ lab.sourcePath ++ ")"

/-- One pass over a snapshot of the labs: those with a fault are dropped. Was any? -/
def pass (fault : LabRegistry → LoadedLabDefinition → Option String) :
    List LoadedLabDefinition → LabRegistry → LabRegistry × Bool
  | [], registry => (registry, false)
  | lab :: snapshot, registry =>
      match fault registry lab with
      | none => pass fault snapshot registry
      | some error => ((pass fault snapshot ((registry.report error).unregister lab)).1, true)

/-- One round: the pass over missing labs, then the pass over cycles. -/
def round (registry : LabRegistry) : LabRegistry × Bool :=
  let first := pass missingFault registry.labs registry
  let second := pass cycleFault first.1.labs first.1
  (second.1, first.2 || second.2)

/-- Rounds until one drops nothing. -/
def rounds : Nat → LabRegistry → Option LabRegistry
  | 0, _ => none
  | fuel + 1, registry =>
      let after := registry.round
      if after.2 then rounds fuel after.1 else some after.1

/-! ### One pass -/

/-- What a pass leaves of a registry that satisfies what dropping a faulty lab preserves. -/
structure Passed (fault : LabRegistry → LoadedLabDefinition → Option String) (holds : LabRegistry → Prop)
    (snapshot : List LoadedLabDefinition) (before : LabRegistry) (after : LabRegistry × Bool) : Prop where
  holds : holds after.1
  idle : after.2 = false → after.1 = before ∧ ∀ lab ∈ snapshot, fault before lab = none
  fewer : after.2 = true → after.1.size < before.size
  le : after.1.size ≤ before.size

theorem unregister_size {registry : LabRegistry} {lab : LoadedLabDefinition} (registered : lab ∈ registry.labs)
    (error : String) : ((registry.report error).unregister lab).size + 1 = registry.size :=
  Keyed.length_remove registry.labKeys (Keyed.lookup_of_mem registry.labKeys registered)

/-- A pass over labs that are registered drops those with a fault, one after the other. -/
theorem pass_spec {fault : LabRegistry → LoadedLabDefinition → Option String} {holds : LabRegistry → Prop}
    (drop : ∀ registry lab error, holds registry → lab ∈ registry.labs → fault registry lab = some error →
      holds ((registry.report error).unregister lab))
    {snapshot : List LoadedLabDefinition} {registry : LabRegistry}
    (distinct : Keyed.Distinct LoadedLabDefinition.id snapshot) (registered : snapshot ⊆ registry.labs)
    (start : holds registry) : Passed fault holds snapshot registry (pass fault snapshot registry) := by
  induction snapshot generalizing registry with
  | nil =>
      exact ⟨start, fun _ => ⟨rfl, List.forall_mem_nil _⟩,
        fun impossible => absurd impossible Bool.false_ne_true, Nat.le_refl _⟩
  | cons lab snapshot ih =>
      have isLab : lab ∈ registry.labs := registered List.mem_cons_self
      have others : snapshot ⊆ registry.labs := fun other inside => registered (List.mem_cons_of_mem _ inside)
      rw [pass]
      cases isFault : fault registry lab with
      | none =>
          have further := ih distinct.tail others start
          exact ⟨further.holds, fun unchanged => ⟨(further.idle unchanged).1,
            List.forall_mem_cons.mpr ⟨isFault, (further.idle unchanged).2⟩⟩, further.fewer, further.le⟩
      | some error =>
          have stillThere : snapshot ⊆ ((registry.report error).unregister lab).labs := by
            intro other inside
            refine Keyed.mem_remove.mpr ⟨others inside, fun same => ?_⟩
            exact Keyed.lookup_eq_none.mp distinct.tail_absent other inside same
          have further := ih distinct.tail stillThere (drop registry lab error start isLab isFault)
          have fewer : (pass fault snapshot ((registry.report error).unregister lab)).1.size < registry.size :=
            Nat.lt_of_le_of_lt further.le (Nat.lt_of_succ_le (Nat.le_of_eq (unregister_size isLab error)))
          exact ⟨further.holds, fun impossible => absurd impossible.symm Bool.false_ne_true, fun _ => fewer,
            Nat.le_of_lt fewer⟩

/-- What both passes preserve is preserved by a round; a round that drops nothing finds no fault. -/
theorem round_spec {holds : LabRegistry → Prop}
    (dropMissing : ∀ registry lab error, holds registry → lab ∈ registry.labs →
      missingFault registry lab = some error → holds ((registry.report error).unregister lab))
    (dropCycle : ∀ registry lab error, holds registry → lab ∈ registry.labs →
      cycleFault registry lab = some error → holds ((registry.report error).unregister lab))
    {registry : LabRegistry} (start : holds registry) :
    holds registry.round.1 ∧ (registry.round.2 = true → registry.round.1.size < registry.size) ∧
      (registry.round.2 = false → registry.round.1 = registry ∧
        ∀ lab ∈ registry.labs, missingFault registry lab = none ∧ cycleFault registry lab = none) := by
  have first := pass_spec dropMissing registry.labKeys (List.Subset.refl _) start
  have second := pass_spec dropCycle (pass missingFault registry.labs registry).1.labKeys (List.Subset.refl _)
    first.holds
  refine ⟨second.holds, fun dropped => ?_, fun unchanged => ?_⟩
  · have le := first.le
    have le' := second.le
    rcases Bool.or_eq_true_iff.mp dropped with isFirst | isSecond
    · have fewer := first.fewer isFirst
      exact Nat.lt_of_le_of_lt le' fewer
    · have fewer := second.fewer isSecond
      exact Nat.lt_of_lt_of_le fewer le
  · obtain ⟨noneFirst, noneSecond⟩ := Bool.or_eq_false_iff.mp unchanged
    obtain ⟨same, present⟩ := first.idle noneFirst
    obtain ⟨same', acyclic⟩ := second.idle noneSecond
    rw [same] at acyclic
    exact ⟨same'.trans same, fun lab inside => ⟨present lab inside, acyclic lab inside⟩⟩

theorem round_fewer {registry : LabRegistry} (dropped : registry.round.2 = true) :
    registry.round.1.size < registry.size :=
  (@round_spec (fun _ => True) (fun _ _ _ _ _ _ => trivial) (fun _ _ _ _ _ _ => trivial) registry trivial).2.1
    dropped

/-- Every round but the last drops a lab. -/
theorem rounds_isSome {fuel : Nat} {registry : LabRegistry} (enough : registry.size < fuel) :
    (rounds fuel registry).isSome := by
  induction fuel generalizing registry with
  | zero => cases enough
  | succ fuel ih =>
      rw [rounds]
      by_cases dropped : registry.round.2 = true
      · rw [if_pos dropped]
        have fewer := round_fewer dropped
        exact ih (by omega)
      · rw [if_neg dropped]
        rfl

/-- Reject prerequisite graphs that cannot be satisfied. -/
def validatePrerequisites (registry : LabRegistry) : LabRegistry :=
  (rounds (registry.size + 1) registry).get (rounds_isSome (Nat.lt_succ_self _))

/-- What the files of the labs directory register. -/
def registered (files : List (String × Except LoadFailure LoadedLabDefinition)) : LabRegistry :=
  files.foldl register empty

def load (files : List (String × Except LoadFailure LoadedLabDefinition)) : LabRegistry :=
  (registered files).validatePrerequisites

/-! ### The maps -/

/-- The two maps are each other's inverse. -/
def Mirrored (registry : LabRegistry) : Prop :=
  registry.slugs = registry.labs.map fun lab => (lab.slug, lab.id)

theorem mirrored_register {registry : LabRegistry} (mirrored : registry.Mirrored)
    (file : String × Except LoadFailure LoadedLabDefinition) : (registry.register file).Mirrored := by
  unfold register
  split
  · exact mirrored
  · split
    · exact mirrored
    · exact mirrored
    · rename_i lab _ _ _
      have onward := congrArg (· ++ [(lab.slug, lab.id)]) mirrored
      rw [Mirrored, List.map_append]
      exact onward

theorem mirrored_registered (files : List (String × Except LoadFailure LoadedLabDefinition)) :
    (registered files).Mirrored := by
  have run : ∀ registry : LabRegistry, registry.Mirrored → (files.foldl register registry).Mirrored := by
    induction files with
    | nil => exact fun _ mirrored => mirrored
    | cons file files ih => exact fun registry mirrored => ih _ (mirrored_register mirrored file)
  exact run empty rfl

/-- No two labs share a slug. -/
theorem Mirrored.distinctSlugs {registry : LabRegistry} (mirrored : registry.Mirrored) :
    Keyed.Distinct LoadedLabDefinition.slug registry.labs := by
  have keys := registry.slugKeys
  rw [Keyed.Distinct, mirrored, List.map_map] at keys
  exact keys

theorem Mirrored.unregister {registry : LabRegistry} (mirrored : registry.Mirrored) {lab : LoadedLabDefinition}
    (isLab : lab ∈ registry.labs) (error : String) : ((registry.report error).unregister lab).Mirrored := by
  have sameLabs : Keyed.remove LoadedLabDefinition.id lab.id registry.labs =
      Keyed.remove LoadedLabDefinition.slug lab.slug registry.labs := by
    apply List.filter_congr
    intro other isOther
    rw [decide_eq_decide, not_iff_not]
    constructor
    · intro same
      rw [List.inj_on_of_nodup_map registry.labKeys isOther isLab same]
    · intro same
      rw [List.inj_on_of_nodup_map mirrored.distinctSlugs isOther isLab same]
  rw [Mirrored]
  change Keyed.remove Prod.fst lab.slug registry.slugs =
    (Keyed.remove LoadedLabDefinition.id lab.id registry.labs).map _
  rw [sameLabs, mirrored]
  exact (Keyed.remove_map (fun _ => rfl) lab.slug registry.labs).symm

/-- From a slug to an id and back. -/
theorem Mirrored.slugOwner_eq_some {registry : LabRegistry} (mirrored : registry.Mirrored) {slug : String}
    {id : LabId} : registry.slugOwner slug = some id ↔ ∃ lab ∈ registry.labs, lab.slug = slug ∧ lab.id = id := by
  rw [slugOwner, Option.map_eq_some_iff]
  constructor
  · rintro ⟨entry, found, rfl⟩
    have isEntry := Keyed.mem_of_lookup found
    rw [mirrored] at isEntry
    obtain ⟨lab, isLab, rfl⟩ := List.mem_map.mp isEntry
    have isKey : lab.slug = slug := @Keyed.key_of_lookup _ _ _ Prod.fst _ _ _ found
    exact ⟨lab, isLab, isKey, rfl⟩
  · rintro ⟨lab, isLab, rfl, rfl⟩
    have isEntry : (lab.slug, lab.id) ∈ registry.slugs := by
      rw [mirrored]
      exact List.mem_map_of_mem isLab
    exact ⟨_, Keyed.lookup_of_mem registry.slugKeys isEntry, rfl⟩

/-! ### What is left -/

/-- Has every chain of prerequisites from a lab an end, and does it name registered labs only? -/
def Sound (registry : LabRegistry) (id : LabId) : Prop := Founded (prerequisitesIn registry.labs) id

/-- What is left of a registry after some labs that are not sound were dropped. -/
structure Pruned (start current : LabRegistry) : Prop where
  sublist : current.labs.Sublist start.labs
  unsound : ∀ lab ∈ start.labs, lab ∉ current.labs → ¬ start.Sound lab.id
  mirrored : current.Mirrored

theorem prerequisitesIn_of_mem {registry : LabRegistry} {lab : LoadedLabDefinition}
    (isLab : lab ∈ registry.labs) : prerequisitesIn registry.labs lab.id = some lab.prerequisites := by
  rw [prerequisitesIn, Keyed.lookup_of_mem registry.labKeys isLab]
  rfl

theorem exists_lab_of_prerequisitesIn {registry : LabRegistry} {id : LabId} {named : List LabId}
    (there : prerequisitesIn registry.labs id = some named) :
    ∃ lab ∈ registry.labs, lab.id = id ∧ lab.prerequisites = named := by
  obtain ⟨lab, found, names⟩ := Option.map_eq_some_iff.mp there
  exact ⟨lab, Keyed.mem_of_lookup found, Keyed.key_of_lookup found, names⟩

theorem prerequisitesIn_eq_none {registry : LabRegistry} {id : LabId} :
    prerequisitesIn registry.labs id = none ↔ registry.has id = false := by
  rw [prerequisitesIn, Option.map_eq_none_iff, has, lab, Option.isSome_eq_false_iff, Option.isNone_iff_eq_none]

theorem missingFault_eq_none {registry : LabRegistry} {lab : LoadedLabDefinition} :
    missingFault registry lab = none ↔ ∀ id ∈ lab.prerequisites, registry.has id = true := by
  have allThere : (lab.prerequisites.filter fun id => !registry.has id).isEmpty = true ↔
      ∀ id ∈ lab.prerequisites, registry.has id = true := by
    rw [List.isEmpty_iff, List.filter_eq_nil_iff]
    simp
  rw [← allThere, missingFault]
  by_cases none : (lab.prerequisites.filter fun id => !registry.has id).isEmpty = true
  · simp [none]
  · simp [none]

namespace Pruned

variable {start current : LabRegistry}

theorem refl (mirrored : start.Mirrored) : Pruned start start :=
  ⟨List.Sublist.refl _, fun _ isLab isGone => absurd isLab isGone, mirrored⟩

theorem part (pruned : Pruned start current) :
    Cycles.Part (prerequisitesIn current.labs) (prerequisitesIn start.labs) := by
  intro id named there
  obtain ⟨lab, isLab, rfl, rfl⟩ := exists_lab_of_prerequisitesIn there
  exact prerequisitesIn_of_mem (pruned.sublist.subset isLab)

theorem dropped (pruned : Pruned start current) (id : LabId) (wasThere : prerequisitesIn start.labs id ≠ none)
    (isGone : prerequisitesIn current.labs id = none) : ¬ start.Sound id := by
  obtain ⟨named, there⟩ := Option.ne_none_iff_exists'.mp wasThere
  obtain ⟨lab, isLab, rfl, rfl⟩ := exists_lab_of_prerequisitesIn there
  refine pruned.unsound lab isLab fun still => ?_
  rw [prerequisitesIn_of_mem still] at isGone
  cases isGone

/-- Another lab that is not sound is dropped. -/
theorem unregister (pruned : Pruned start current) {lab : LoadedLabDefinition} (isLab : lab ∈ current.labs)
    (unsound : ¬ start.Sound lab.id) (error : String) :
    Pruned start ((current.report error).unregister lab) := by
  refine ⟨List.filter_sublist.trans pruned.sublist, fun other wasThere isGone => ?_,
    pruned.mirrored.unregister isLab error⟩
  by_cases same : other.id = lab.id
  · rw [same]
    exact unsound
  · exact pruned.unsound other wasThere fun still => isGone (Keyed.mem_remove.mpr ⟨still, same⟩)

theorem dropMissing (pruned : Pruned start current) {lab : LoadedLabDefinition} (isLab : lab ∈ current.labs)
    {error : String} (fault : missingFault current lab = some error) :
    Pruned start ((current.report error).unregister lab) := by
  refine pruned.unregister isLab ?_ error
  have notAll : ¬ ∀ id ∈ lab.prerequisites, current.has id = true := fun all => by
    rw [missingFault_eq_none.mpr all] at fault
    cases fault
  push Not at notAll
  obtain ⟨id, isNamed, missing⟩ := notAll
  have edge : Edge (prerequisitesIn current.labs) lab.id id := ⟨_, prerequisitesIn_of_mem isLab, isNamed⟩
  exact Cycles.not_founded_of_missing pruned.part pruned.dropped edge
    (prerequisitesIn_eq_none.mpr (eq_false_of_ne_true missing))

end Pruned

/-- A cycle is found exactly where one is reached. -/
theorem findPrerequisiteCycle_isSome (registry : LabRegistry) (id : LabId) :
    (registry.findPrerequisiteCycle id).isSome ↔
      ∃ again, ReflTransGen (Edge (prerequisitesIn registry.labs)) id again ∧
        TransGen (Edge (prerequisitesIn registry.labs)) again again :=
  Cycles.walk_found_iff (Option.some_get (registry.walk_isSome id)).symm

theorem Pruned.dropCycle {start current : LabRegistry} (pruned : Pruned start current)
    {lab : LoadedLabDefinition} (isLab : lab ∈ current.labs) {error : String}
    (fault : cycleFault current lab = some error) : Pruned start ((current.report error).unregister lab) := by
  refine pruned.unregister isLab ?_ error
  obtain ⟨cycle, isFound, -⟩ := Option.map_eq_some_iff.mp fault
  have isSome : (current.findPrerequisiteCycle lab.id).isSome := by
    rw [isFound]
    rfl
  obtain ⟨again, reached, cycle⟩ := (current.findPrerequisiteCycle_isSome lab.id).mp isSome
  exact Cycles.not_founded_of_cycle pruned.part reached cycle

/-- Where no lab has a fault, all that are left are sound. -/
theorem Pruned.sound {start current : LabRegistry} (pruned : Pruned start current)
    (present : ∀ lab ∈ current.labs, missingFault current lab = none)
    (acyclic : ∀ lab ∈ current.labs, cycleFault current lab = none) {lab : LoadedLabDefinition}
    (isLab : lab ∈ current.labs) : start.Sound lab.id := by
  apply Cycles.founded_of_closed pruned.part
  · rintro id other ⟨named, there, isNamed⟩ missing
    obtain ⟨lab, isLab, rfl, rfl⟩ := exists_lab_of_prerequisitesIn there
    have isThere := missingFault_eq_none.mp (present lab isLab) other isNamed
    rw [prerequisitesIn_eq_none.mp missing] at isThere
    cases isThere
  · intro id there
    obtain ⟨named, there⟩ := Option.ne_none_iff_exists'.mp there
    obtain ⟨lab, isLab, rfl, rfl⟩ := exists_lab_of_prerequisitesIn there
    have none := Option.map_eq_none_iff.mp (acyclic lab isLab)
    apply Cycles.acc_of_walk
    rw [← none]
    exact (Option.some_get (current.walk_isSome lab.id)).symm
  · rw [prerequisitesIn_of_mem isLab]
    exact Option.some_ne_none _

/-! ### The catalog -/

/-- The last round drops nothing, and what held of the first registry holds of it. -/
theorem validatePrerequisites_spec {registry : LabRegistry} (mirrored : registry.Mirrored) :
    Pruned registry registry.validatePrerequisites ∧
      ∀ lab ∈ registry.validatePrerequisites.labs, missingFault registry.validatePrerequisites lab = none ∧
        cycleFault registry.validatePrerequisites lab = none := by
  have run (fuel : Nat) (current last : LabRegistry) (pruned : Pruned registry current)
      (ends : rounds fuel current = some last) : Pruned registry last ∧
        ∀ lab ∈ last.labs, missingFault last lab = none ∧ cycleFault last lab = none := by
    induction fuel generalizing current with
    | zero => cases ends
    | succ fuel ih =>
        obtain ⟨stillPruned, -, idle⟩ := round_spec (fun _ _ _ pruned isLab fault => pruned.dropMissing isLab fault)
          (fun _ _ _ pruned isLab fault => pruned.dropCycle isLab fault) pruned
        rw [rounds] at ends
        by_cases dropped : current.round.2 = true
        · rw [if_pos dropped] at ends
          exact ih _ stillPruned ends
        · rw [if_neg dropped] at ends
          cases ends
          obtain ⟨same, faultless⟩ := idle (eq_false_of_ne_true dropped)
          rw [same]
          exact ⟨pruned, faultless⟩
  exact run _ _ _ (Pruned.refl mirrored) (Option.some_get _).symm

/-- With more fuel the loop runs no further. -/
theorem rounds_more {fuel : Nat} {registry last : LabRegistry} (ends : rounds fuel registry = some last)
    (more : Nat) : rounds (fuel + more) registry = some last := by
  induction fuel generalizing registry with
  | zero => cases ends
  | succ fuel ih =>
      rw [Nat.succ_add, rounds]
      rw [rounds] at ends
      by_cases dropped : registry.round.2 = true
      · rw [if_pos dropped] at ends ⊢
        exact ih ends
      · rw [if_neg dropped] at ends ⊢
        exact ends

/-- What the catalog keeps. -/
structure Kept (registry kept : LabRegistry) : Prop where
  /-- The loop ends. -/
  ends : ∀ more, rounds (registry.size + 1 + more) registry = some kept
  /-- Labs stay in their order, as they were. -/
  sublist : kept.labs.Sublist registry.labs
  /-- A lab stays exactly where no chain of prerequisites from it reaches an unknown id or a cycle. -/
  exactly : ∀ lab ∈ registry.labs, lab ∈ kept.labs ↔
    (∀ id, ReflTransGen (Edge (prerequisitesIn registry.labs)) lab.id id → registry.has id = true) ∧
      ∀ id, ReflTransGen (Edge (prerequisitesIn registry.labs)) lab.id id →
        ¬ TransGen (Edge (prerequisitesIn registry.labs)) id id
  /-- Every prerequisite of a lab that stays, stays. -/
  closed : ∀ lab ∈ kept.labs, ∀ id ∈ lab.prerequisites, ∃ other ∈ kept.labs, other.id = id
  acyclic : ∀ id, ¬ TransGen (Edge (prerequisitesIn kept.labs)) id id
  /-- The two maps stay each other's inverse. -/
  inverse : (∀ slug id, kept.slugOwner slug = some id ↔ ∃ lab ∈ kept.labs, lab.slug = slug ∧ lab.id = id) ∧
    Keyed.Distinct LoadedLabDefinition.id kept.labs ∧ Keyed.Distinct LoadedLabDefinition.slug kept.labs

theorem sound_iff {registry : LabRegistry} {id : LabId} : registry.Sound id ↔
    (∀ other, ReflTransGen (Edge (prerequisitesIn registry.labs)) id other → registry.has other = true) ∧
      ∀ other, ReflTransGen (Edge (prerequisitesIn registry.labs)) id other →
        ¬ TransGen (Edge (prerequisitesIn registry.labs)) other other := by
  have present {other : LabId} : prerequisitesIn registry.labs other ≠ none ↔ registry.has other = true := by
    rw [ne_eq, prerequisitesIn_eq_none, Bool.not_eq_false]
  constructor
  · intro sound
    exact ⟨fun other reached => present.mp (sound.present other reached), sound.acyclic⟩
  · rintro ⟨known, acyclic⟩
    exact ⟨fun other reached => present.mpr (known other reached), acyclic⟩

theorem kept_validatePrerequisites {registry : LabRegistry} (mirrored : registry.Mirrored) :
    Kept registry registry.validatePrerequisites := by
  obtain ⟨pruned, faultless⟩ := validatePrerequisites_spec mirrored
  have present : ∀ lab ∈ registry.validatePrerequisites.labs,
      missingFault registry.validatePrerequisites lab = none := fun lab isLab => (faultless lab isLab).1
  have acyclic : ∀ lab ∈ registry.validatePrerequisites.labs,
      cycleFault registry.validatePrerequisites lab = none := fun lab isLab => (faultless lab isLab).2
  refine ⟨fun more => rounds_more (Option.some_get _).symm more, pruned.sublist, fun lab isLab => ?_,
    fun lab isLab id isNamed => ?_, fun id cycle => ?_,
    ⟨fun _ _ => pruned.mirrored.slugOwner_eq_some, LabRegistry.labKeys _, pruned.mirrored.distinctSlugs⟩⟩
  · rw [← sound_iff]
    constructor
    · exact pruned.sound present acyclic
    · intro sound
      by_contra isGone
      exact pruned.unsound lab isLab isGone sound
  · have isThere := missingFault_eq_none.mp (present lab isLab) id isNamed
    obtain ⟨other, found⟩ := Option.isSome_iff_exists.mp isThere
    exact ⟨other, Keyed.mem_of_lookup found, Keyed.key_of_lookup found⟩
  · obtain ⟨next, ⟨named, there, -⟩, -⟩ := Relation.TransGen.head'_iff.mp cycle
    obtain ⟨lab, isLab, rfl, rfl⟩ := exists_lab_of_prerequisitesIn there
    have sound := pruned.sound present acyclic isLab
    exact sound.acyclic lab.id .refl (cycle.lift id fun _ _ => pruned.part.edge)

theorem prerequisitesIn_perm {first second : LabRegistry} (same : first.labs.Perm second.labs) :
    prerequisitesIn first.labs = prerequisitesIn second.labs := by
  have within {one other : LabRegistry} (same : one.labs.Perm other.labs) {id : LabId} {named : List LabId}
      (there : prerequisitesIn one.labs id = some named) : prerequisitesIn other.labs id = some named := by
    obtain ⟨lab, isLab, rfl, rfl⟩ := exists_lab_of_prerequisitesIn there
    exact prerequisitesIn_of_mem (same.mem_iff.mp isLab)
  funext id
  apply Option.ext
  intro named
  exact ⟨within same, within same.symm⟩

/-- The catalog keeps exactly the labs from which no chain of prerequisites reaches an unknown id or a
    cycle, in whatever order their files were read. -/
theorem registry_keeps_founded_labs (registry : LabRegistry) (mirrored : registry.Mirrored) :
    Kept registry registry.validatePrerequisites ∧
      ∀ other : LabRegistry, other.Mirrored → other.labs.Perm registry.labs →
        other.validatePrerequisites.labs.Perm registry.validatePrerequisites.labs := by
  have kept := kept_validatePrerequisites mirrored
  refine ⟨kept, fun other isMirrored same => ?_⟩
  have otherKept := kept_validatePrerequisites isMirrored
  apply (List.perm_ext_iff_of_nodup (List.Nodup.of_map _ (LabRegistry.labKeys _))
    (List.Nodup.of_map _ (LabRegistry.labKeys _))).mpr
  have sameGraph := prerequisitesIn_perm same
  have sameLab {lab : LoadedLabDefinition} (isLab : lab ∈ registry.labs) :
      lab ∈ other.validatePrerequisites.labs ↔ lab ∈ registry.validatePrerequisites.labs := by
    rw [otherKept.exactly lab (same.mem_iff.mpr isLab), kept.exactly lab isLab, ← sound_iff, ← sound_iff, Sound,
      Sound, sameGraph]
  intro lab
  constructor
  · intro isKept
    exact (sameLab (same.mem_iff.mp (otherKept.sublist.subset isKept))).mp isKept
  · intro isKept
    exact (sameLab (kept.sublist.subset isKept)).mpr isKept

/-- A lab without prerequisites, one behind it, two that need each other, one behind these, and one behind a
    lab that is not there. -/
def tangled : List (String × Except LoadFailure LoadedLabDefinition) :=
  let lab := fun (id slug : String) (isId : isLabId id = true) (prerequisites : List LabId) =>
    (slug, .ok ⟨⟨id, isId⟩, slug, id, "", "linux", "container", "beginner", 20, prerequisites, slug⟩)
  [lab "LIN-005" "e" (by decide) [⟨"LIN-009", by decide⟩],
    lab "LIN-004" "d" (by decide) [⟨"LIN-002", by decide⟩],
    lab "LIN-003" "c" (by decide) [⟨"LIN-002", by decide⟩],
    lab "LIN-002" "b" (by decide) [⟨"LIN-003", by decide⟩],
    lab "LIN-001" "a" (by decide) [⟨"LIN-000", by decide⟩],
    lab "LIN-000" "o" (by decide) []]

theorem registry_keeps_founded_labs_tangled :
    Kept (registered tangled) (load tangled) ∧
      (load tangled).labs.map (fun lab => lab.id.val) = ["LIN-001", "LIN-000"] :=
  ⟨(registry_keeps_founded_labs (registered tangled) (mirrored_registered tangled)).1, by decide⟩

end LabRegistry

end JumptotechLabs.Labs
