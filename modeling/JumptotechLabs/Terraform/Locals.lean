/-
Module: JumptotechLabs.Terraform.Locals
Layer: Terraform (services/verifier/src/handlers/terraform-config.ts)
Purpose: What an expression refers to through local values. The walk over the locals is a bounded exploration of the
  references: what it collects is always within eight locals, and is all of that exactly where whatever a local
  mentions that is first met at the ninth place is also mentioned by the expression, or by a local met at an
  earlier place.
Main exports: localDefinitions, reachableReferences, referencesTargetTransitively, Reaches, FirstMet, LosesNoMention,
  SameMentions, locals_are_followed_iff
-/
import JumptotechLabs.Core.Exploration
import JumptotechLabs.Core.Keyed
import JumptotechLabs.Terraform.References

namespace JumptotechLabs.Terraform

open JumptotechLabs.Core
open JumptotechLabs.Core.Cycles (Edge)
open JumptotechLabs.Core.Exploration (Along DepthFirst Within explore)

/-- The blocks of a type, at the top level. -/
def HclDocument.blocksOfType (document : HclDocument) (type : Utf16) : List HclBlock :=
  document.blocks.filter fun block => block.type = type

/-- Local values, by name, gathered from every `locals` block. -/
def localDefinitions (config : HclDocument) : List HclArgument :=
  Keyed.putAll HclArgument.name ((config.blocksOfType (units "locals")).flatMap HclBlock.arguments)

/-- `MAX_LOCAL_DEPTH`. -/
def maxLocalDepth : Nat := 8

/-- `walk`. The room is what is left of the depth, the walk at the greatest depth included. -/
def walkFrom (locals : List HclArgument) : Nat → Utf16 → List TerraformReference → List TerraformReference
  | 0, _, collected => collected
  | room + 1, text, collected =>
      (extractReferences text).foldl
        (fun collected reference =>
          if collected.any fun other => other.address = reference.address then collected
          else if reference.kind = .local_ then
            match Keyed.lookup HclArgument.name (reference.target.drop (units "local.").length) locals with
            | some definition => walkFrom locals room definition.value (collected ++ [reference])
            | none => collected ++ [reference]
          else collected ++ [reference])
        collected

/-- Every reference an expression reaches, following local values. -/
def reachableReferences (config : HclDocument) (expression : Utf16) : List TerraformReference :=
  walkFrom (localDefinitions config) (maxLocalDepth + 1) expression []

/-- Whether a reference that is reached has the target. -/
def referencesTargetThroughLocals (config : HclDocument) (expression target : Utf16) : Bool :=
  (reachableReferences config expression).any fun reference => reference.target = target

/-- Direct first, then through locals. -/
def referencesTargetTransitively (config : HclDocument) (expression target : Utf16) : Bool :=
  referencesTarget expression target || referencesTargetThroughLocals config expression target

/-! ### The references as a graph -/

/-- The expression mentions the reference. -/
def Mentions (expression : Utf16) (reference : TerraformReference) : Prop := reference ∈ extractReferences expression

/-- The definition behind a reference, if it is one to a local that is there. -/
def definitionOf (config : HclDocument) (reference : TerraformReference) : Option Utf16 :=
  if reference.kind = .local_ then
    (Keyed.lookup HclArgument.name (reference.target.drop (units "local.").length) (localDefinitions config)).map
      HclArgument.value
  else none

/-- The reference is to a local whose definition mentions the other one. -/
def Follows (config : HclDocument) (reference other : TerraformReference) : Prop :=
  ∃ definition, definitionOf config reference = some definition ∧ Mentions definition other

/-- A chain of at most eight locals leads from the expression to the reference. -/
def Reaches (config : HclDocument) (expression : Utf16) : TerraformReference → Prop :=
  Within (Mentions expression) (Follows config) maxLocalDepth

/-- The same references in both expressions and in the definitions of each local, in any order. -/
structure SameMentions (config : HclDocument) (expression : Utf16) (config' : HclDocument) (expression' : Utf16) :
    Prop where
  expressions : ∀ reference, Mentions expression' reference ↔ Mentions expression reference
  definitions : ∀ reference other, Follows config' reference other ↔ Follows config reference other

/-- What a reference leads to. -/
def leadsOf (config : HclDocument) (reference : TerraformReference) : Option (List TerraformReference) :=
  (definitionOf config reference).map extractReferences

theorem edge_leadsOf {config : HclDocument} {reference other : TerraformReference} :
    Edge (leadsOf config) reference other ↔ Follows config reference other := by
  unfold Edge leadsOf Follows
  constructor
  · rintro ⟨named, isNamed, member⟩
    obtain ⟨definition, isDefinition, rfl⟩ := Option.map_eq_some_iff.mp isNamed
    exact ⟨definition, isDefinition, member⟩
  · rintro ⟨definition, isDefinition, member⟩
    exact ⟨_, Option.map_eq_some_iff.mpr ⟨definition, isDefinition, rfl⟩, member⟩

theorem edge_leadsOf_eq (config : HclDocument) : Edge (leadsOf config) = Follows config :=
  funext fun _ => funext fun _ => propext edge_leadsOf

/-! ### The walk is an exploration -/

/-- The references are those of their addresses. -/
def Classified (references : List TerraformReference) : Prop :=
  ∀ reference ∈ references, classify reference.address = some reference

theorem classified_extractReferences (expression : Utf16) : Classified (extractReferences expression) :=
  fun _ member => (mem_extractReferences.mp member).2

theorem Classified.push {references : List TerraformReference} {reference : TerraformReference}
    (classified : Classified references) (isClassified : classify reference.address = some reference) :
    Classified (references ++ [reference]) := by
  intro other member
  rcases List.mem_append.mp member with earlier | last
  · exact classified other earlier
  · exact List.mem_singleton.mp last ▸ isClassified

/-- An address is seen exactly where its reference was collected. -/
theorem any_address_iff {collected : List TerraformReference} {reference : TerraformReference}
    (classified : Classified collected) (isClassified : classify reference.address = some reference) :
    (collected.any fun other => other.address = reference.address) = true ↔ reference ∈ collected := by
  rw [List.any_eq_true]
  constructor
  · rintro ⟨other, member, same⟩
    have isOther := classified other member
    rw [of_decide_eq_true same, isClassified] at isOther
    exact Option.some.inj isOther ▸ member
  · exact fun member => ⟨reference, member, decide_eq_true rfl⟩

theorem walkFrom_eq_explore (config : HclDocument) {room : Nat} {text : Utf16} {collected : List TerraformReference}
    (classified : Classified collected) :
    walkFrom (localDefinitions config) room text collected =
        explore (leadsOf config) room (extractReferences text) collected ∧
      Classified (walkFrom (localDefinitions config) room text collected) := by
  induction room generalizing text collected with
  | zero => exact ⟨rfl, classified⟩
  | succ room ih =>
      rw [walkFrom, explore]
      have mentioned := classified_extractReferences text
      generalize extractReferences text = references at mentioned ⊢
      induction references generalizing collected with
      | nil => exact ⟨rfl, classified⟩
      | cons reference rest further =>
          obtain ⟨here, elsewhere⟩ := List.forall_mem_cons.mp mentioned
          rw [List.foldl_cons, List.foldl_cons]
          by_cases again : reference ∈ collected
          · rw [if_pos ((any_address_iff classified here).mpr again), if_pos again]
            exact further classified elsewhere
          · rw [if_neg (mt (any_address_iff classified here).mp again), if_neg again, leadsOf, definitionOf]
            by_cases isLocal : reference.kind = .local_
            · rw [if_pos isLocal, if_pos isLocal]
              cases Keyed.lookup HclArgument.name (reference.target.drop (units "local.").length)
                  (localDefinitions config) with
              | none => exact further (classified.push here) elsewhere
              | some definition =>
                  obtain ⟨same, still⟩ := @ih definition.value _ (classified.push here)
                  obtain ⟨onward, kept⟩ := further still elsewhere
                  exact ⟨onward.trans (by rw [same]; rfl), kept⟩
            · rw [if_neg isLocal, if_neg isLocal]
              exact further (classified.push here) elsewhere

theorem reachableReferences_eq_explore (config : HclDocument) (expression : Utf16) :
    reachableReferences config expression =
      explore (leadsOf config) (maxLocalDepth + 1) (extractReferences expression) [] :=
  (walkFrom_eq_explore config fun _ member => by cases member).1

/-! ### What is collected -/

/-- Nothing is collected that is further away than eight locals. -/
theorem reaches_of_mem {config : HclDocument} {expression : Utf16} {reference : TerraformReference}
    (member : reference ∈ reachableReferences config expression) : Reaches config expression reference := by
  rw [reachableReferences_eq_explore] at member
  have within := Exploration.within_of_mem_explore member
  rw [edge_leadsOf_eq] at within
  exact within

/-- A target that is reported stands in the expression, or within eight locals. -/
theorem reaches_of_referencesTargetTransitively {config : HclDocument} {expression target : Utf16}
    (reported : referencesTargetTransitively config expression target = true) :
    ∃ reference, Reaches config expression reference ∧
      (reference.target = target ∨ reference.target = Utf16.trim target) := by
  rcases Bool.or_eq_true_iff.mp reported with direct | through
  · obtain ⟨reference, member, isTarget⟩ := List.any_eq_true.mp direct
    exact ⟨reference, ⟨[], .start member, Nat.zero_le _⟩, .inr (of_decide_eq_true isTarget)⟩
  · obtain ⟨reference, member, isTarget⟩ := List.any_eq_true.mp through
    exact ⟨reference, reaches_of_mem member, .inl (of_decide_eq_true isTarget)⟩

/-- The depth-first tree of the mentions, in the order in which the expression and the definitions make them: each
    of its chains ends with a reference and holds the locals past which it is first met. -/
def FirstMet (config : HclDocument) (expression : Utf16) (tree : Set (List TerraformReference)) : Prop :=
  DepthFirst (extractReferences expression) (leadsOf config) maxLocalDepth tree

/-- Whatever a local mentions that is first met at the ninth place, and is within eight locals, is also mentioned by
    the expression, or by a local that is first met at an earlier place. -/
def LosesNoMention (config : HclDocument) (expression : Utf16) : Prop :=
  ∀ tree, FirstMet config expression tree → ∀ chain reference other, chain ++ [reference] ∈ tree →
    chain.length = maxLocalDepth → Follows config reference other → Reaches config expression other →
    Mentions expression other ∨
      ∃ earlier parent, earlier ++ [parent] ∈ tree ∧ earlier.length < maxLocalDepth ∧ Follows config parent other

theorem losesNoMention_iff {config : HclDocument} {expression : Utf16} {tree : Set (List TerraformReference)}
    (firstMet : FirstMet config expression tree) :
    LosesNoMention config expression ↔
      Exploration.LosesNothing (extractReferences expression) (leadsOf config) maxLocalDepth tree := by
  unfold Exploration.LosesNothing
  rw [edge_leadsOf_eq]
  constructor
  · exact fun whole => whole tree firstMet
  · intro whole other isTree
    rw [isTree.unique firstMet]
    exact whole

/-- Everything within eight locals is collected exactly where no mention is lost. -/
theorem collects_all_iff (config : HclDocument) (expression : Utf16) :
    (∀ reference, Reaches config expression reference → reference ∈ reachableReferences config expression) ↔
      LosesNoMention config expression := by
  obtain ⟨tree, firstMet, -⟩ :=
    Exploration.exists_depthFirst (extractReferences expression) (leadsOf config) maxLocalDepth
  rw [losesNoMention_iff firstMet, ← Exploration.mem_explore_of_within_iff firstMet, edge_leadsOf_eq,
    reachableReferences_eq_explore]
  exact Iff.rfl

/-- What a chain of eight locals reaches does not depend on the order. -/
theorem SameMentions.reaches_iff {config config' : HclDocument} {expression expression' : Utf16}
    (same : SameMentions config expression config' expression') (reference : TerraformReference) :
    Reaches config' expression' reference ↔ Reaches config expression reference := by
  have starts : Mentions expression' = Mentions expression := funext fun one => propext (same.expressions one)
  have edges : Follows config' = Follows config :=
    funext fun one => funext fun other => propext (same.definitions one other)
  rw [Reaches, Reaches, starts, edges]

theorem SameMentions.refl (config : HclDocument) (expression : Utf16) :
    SameMentions config expression config expression := ⟨fun _ => Iff.rfl, fun _ _ => Iff.rfl⟩

/-- Nothing but what eight locals reach is collected. All of it is, in the order that is given, exactly where no
    mention is lost in that order; and all of it is, and the same in every order of the mentions, exactly where no
    mention is lost in any. -/
theorem locals_are_followed_iff (config : HclDocument) (expression : Utf16) :
    (∀ reference ∈ reachableReferences config expression, Reaches config expression reference) ∧
    ((∀ reference, Reaches config expression reference → reference ∈ reachableReferences config expression) ↔
      LosesNoMention config expression) ∧
    ((∀ reference, Reaches config expression reference → reference ∈ reachableReferences config expression) ∧
        (∀ config' expression', SameMentions config expression config' expression' → ∀ reference,
          reference ∈ reachableReferences config' expression' ↔ reference ∈ reachableReferences config expression) ↔
      ∀ config' expression', SameMentions config expression config' expression' →
        LosesNoMention config' expression') := by
  refine ⟨fun _ => reaches_of_mem, collects_all_iff config expression, ?_, ?_⟩
  · rintro ⟨complete, sameSet⟩ config' expression' same
    rw [← collects_all_iff]
    intro reference reached
    exact (sameSet config' expression' same reference).mpr (complete reference ((same.reaches_iff reference).mp reached))
  · intro loses
    have complete := (collects_all_iff config expression).mpr (loses config expression (.refl config expression))
    refine ⟨complete, fun config' expression' same reference => ⟨fun member => ?_, fun member => ?_⟩⟩
    · exact complete reference ((same.reaches_iff reference).mp (reaches_of_mem member))
    · exact (collects_all_iff config' expression').mpr (loses config' expression' same) reference
        ((same.reaches_iff reference).mpr (reaches_of_mem member))

/-- Eight locals in a row, and `m`, which the last of them mentions. -/
def chainConfig : HclDocument :=
  scanHcl (units ("locals \x7b\n  l1 = local.l2\n  l2 = local.l3\n  l3 = local.l4\n  l4 = local.l5\n  l5 = local.l6\n" ++
    "  l6 = local.l7\n  l7 = local.l8\n  l8 = local.m\n  m = aws_vpc.main.id\n\x7d\n")) none

theorem localDefinitions_chainConfig : localDefinitions chainConfig =
    [⟨units "l1", units "local.l2", [], 2⟩, ⟨units "l2", units "local.l3", [], 3⟩,
      ⟨units "l3", units "local.l4", [], 4⟩, ⟨units "l4", units "local.l5", [], 5⟩,
      ⟨units "l5", units "local.l6", [], 6⟩, ⟨units "l6", units "local.l7", [], 7⟩,
      ⟨units "l7", units "local.l8", [], 8⟩, ⟨units "l8", units "local.m", [], 9⟩,
      ⟨units "m", units "aws_vpc.main.id", [], 10⟩] := by
  decide +kernel

/-- The expression mentions `local.m` itself, but the walk has met it at the greatest depth before. In the other
    order nothing is lost. -/
theorem local_met_too_deep_first :
    ∃ lost, Reaches chainConfig (units "[local.l1, local.m]") lost ∧
      lost ∉ reachableReferences chainConfig (units "[local.l1, local.m]") ∧
      SameMentions chainConfig (units "[local.l1, local.m]") chainConfig (units "[local.m, local.l1]") ∧
      lost ∈ reachableReferences chainConfig (units "[local.m, local.l1]") := by
  have start : Mentions (units "[local.l1, local.m]") ⟨.local_, units "local.m", none, units "local.m"⟩ := by
    unfold Mentions
    decide +kernel
  have follows : Follows chainConfig ⟨.local_, units "local.m", none, units "local.m"⟩
      ⟨.resource, units "aws_vpc.main", some (units "id"), units "aws_vpc.main.id"⟩ := by
    refine ⟨units "aws_vpc.main.id", ?_, ?_⟩
    · unfold definitionOf
      rw [localDefinitions_chainConfig]
      decide +kernel
    · unfold Mentions
      decide +kernel
  unfold reachableReferences
  rw [localDefinitions_chainConfig]
  refine ⟨_, ⟨[] ++ [_], .further (.start start) follows, by decide⟩, by decide +kernel, ⟨?_, ?_⟩,
    by decide +kernel⟩
  · have same : (extractReferences (units "[local.m, local.l1]")).Perm
        (extractReferences (units "[local.l1, local.m]")) := by decide +kernel
    exact fun reference => same.mem_iff
  · exact fun _ _ => Iff.rfl

end JumptotechLabs.Terraform
