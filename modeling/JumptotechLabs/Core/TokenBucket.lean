/-
Module: JumptotechLabs.Core.TokenBucket
Layer: Core (library)
Purpose: Token buckets over exact numbers: a bucket regains tokens at a rate, holds no more than its burst,
  and gives a request what it asks for or nothing. What is granted within an interval is bounded by the
  burst and what the rate gives back meanwhile; and a full bucket is no different from a new one.
Main exports: Bucket, Bucket.level, Bucket.spend, transcript, granted, Bucket.Within, within_spend,
  granted_le, level_of_refilled
-/
import Mathlib.Algebra.Order.Field.Basic
import Mathlib.Tactic.Linarith

namespace JumptotechLabs.Core.TokenBucket

variable {α : Type} [Field α] [LinearOrder α]

/-- The tokens of a bucket, and the instant they were counted at. -/
structure Bucket (α : Type) where
  tokens : α
  instant : α
deriving DecidableEq

/-- A request for tokens. -/
structure Request (α : Type) where
  now : α
  cost : α

variable (burst rate : α)

/-- The tokens there are at an instant. -/
def Bucket.level (bucket : Bucket α) (now : α) : α :=
  min burst (bucket.tokens + (now - bucket.instant) * rate)

/-- What a request gets, and the bucket it leaves. -/
def Bucket.spend (bucket : Bucket α) (request : Request α) : Bool × Bucket α :=
  let level := bucket.level burst rate request.now
  if level < request.cost then (false, ⟨level, request.now⟩)
  else (true, ⟨level - request.cost, request.now⟩)

/-- Every request of a sequence with its answer. -/
def transcript (bucket : Bucket α) : List (Request α) → List (Request α × Bool)
  | [] => []
  | request :: requests =>
      (request, (bucket.spend burst rate request).1) ::
        transcript (bucket.spend burst rate request).2 requests

/-- The bucket that a sequence of requests leaves. -/
def after (bucket : Bucket α) : List (Request α) → Bucket α
  | [] => bucket
  | request :: requests => after (bucket.spend burst rate request).2 requests

/-- What was granted between two instants, both included. -/
def granted (start stop : α) (answers : List (Request α × Bool)) : α :=
  ((answers.filter fun answer => answer.2 && decide (start ≤ answer.1.now ∧ answer.1.now ≤ stop)).map
    fun answer => answer.1.cost).sum

/-- The clock does not go backwards. -/
def Forward (requests : List (Request α)) : Prop :=
  requests.Pairwise fun earlier later => earlier.now ≤ later.now

/-- No debt, and no more than the burst. -/
structure Bucket.Within (bucket : Bucket α) : Prop where
  noDebt : 0 ≤ bucket.tokens
  bounded : bucket.tokens ≤ burst

section Spend

variable {burst rate}
variable {bucket : Bucket α} {request : Request α}

/-- A bucket was counted at the last request. -/
theorem spend_instant : (bucket.spend burst rate request).2.instant = request.now := by
  unfold Bucket.spend
  dsimp only
  split <;> rfl

/-- There is never more than the burst. -/
theorem level_le : bucket.level burst rate request.now ≤ burst := min_le_left _ _

/-- What a request gets is decided by the level alone. -/
theorem spend_congr {other : Bucket α}
    (same : bucket.level burst rate request.now = other.level burst rate request.now) :
    bucket.spend burst rate request = other.spend burst rate request := by
  unfold Bucket.spend
  rw [same]

/-- A new bucket is full. -/
theorem level_new (now : α) : (⟨burst, now⟩ : Bucket α).level burst rate now = burst := by
  simp [Bucket.level]

/-- What is granted comes out of the level. -/
theorem spend_balance (burst rate : α) (bucket : Bucket α) (request : Request α) :
    (if (bucket.spend burst rate request).1 then request.cost else 0) +
      (bucket.spend burst rate request).2.tokens = bucket.level burst rate request.now := by
  unfold Bucket.spend
  dsimp only
  split
  · simp
  · simp

variable [IsStrictOrderedRing α]

/-- There is never less than nothing at an instant. -/
theorem level_nonneg (burst_nonneg : 0 ≤ burst) (rate_nonneg : 0 ≤ rate) (noDebt : 0 ≤ bucket.tokens)
    {now : α} (later : bucket.instant ≤ now) : 0 ≤ bucket.level burst rate now := by
  have regained : 0 ≤ (now - bucket.instant) * rate := mul_nonneg (sub_nonneg.mpr later) rate_nonneg
  exact le_min burst_nonneg (add_nonneg noDebt regained)

/-- A request leaves no debt. -/
theorem spend_noDebt (burst_nonneg : 0 ≤ burst) (rate_nonneg : 0 ≤ rate) (noDebt : 0 ≤ bucket.tokens)
    (later : bucket.instant ≤ request.now) : 0 ≤ (bucket.spend burst rate request).2.tokens := by
  have nonneg := level_nonneg burst_nonneg rate_nonneg noDebt later
  unfold Bucket.spend
  dsimp only
  split
  · exact nonneg
  · rename_i enough
    exact sub_nonneg.mpr (not_lt.mp enough)

/-- A request leaves a bucket between empty and full. -/
theorem within_spend (burst_nonneg : 0 ≤ burst) (rate_nonneg : 0 ≤ rate) (within : bucket.Within burst)
    (later : bucket.instant ≤ request.now) (cost_nonneg : 0 ≤ request.cost) :
    (bucket.spend burst rate request).2.Within burst := by
  refine ⟨spend_noDebt burst_nonneg rate_nonneg within.noDebt later, ?_⟩
  have atMost : bucket.level burst rate request.now ≤ burst := level_le
  unfold Bucket.spend
  dsimp only
  split
  · exact atMost
  · dsimp only
    linarith

/-- A bucket that has refilled stays full. -/
theorem level_of_refilled (rate_nonneg : 0 ≤ rate) {now later : α} (onward : now ≤ later)
    (refilled : burst ≤ bucket.tokens + (now - bucket.instant) * rate) :
    bucket.level burst rate later = burst := by
  have more : (now - bucket.instant) * rate ≤ (later - bucket.instant) * rate :=
    mul_le_mul_of_nonneg_right (sub_le_sub_right onward _) rate_nonneg
  exact min_eq_left (by linarith)

end Spend

section Granted

variable {burst rate}

/-- Nothing is granted to no request. -/
theorem granted_nil (start stop : α) : granted start stop [] = 0 := by simp [granted]

/-- A request counts when it is within the interval and was granted. -/
theorem granted_cons (start stop : α) (request : Request α) (answer : Bool)
    (answers : List (Request α × Bool)) :
    granted start stop ((request, answer) :: answers) =
      (if start ≤ request.now ∧ request.now ≤ stop then if answer then request.cost else 0 else 0) +
        granted start stop answers := by
  unfold granted
  rw [List.filter_cons]
  by_cases inside : start ≤ request.now ∧ request.now ≤ stop
  · cases answer <;> simp [inside]
  · simp [inside]

/-- What is answered was asked. -/
theorem mem_transcript {bucket : Bucket α} {requests : List (Request α)} {answer : Request α × Bool}
    (member : answer ∈ transcript burst rate bucket requests) : answer.1 ∈ requests := by
  induction requests generalizing bucket with
  | nil => cases member
  | cons request requests ih =>
      rcases List.mem_cons.mp member with rfl | later
      · exact List.mem_cons_self
      · exact List.mem_cons_of_mem _ (ih later)

/-- Nothing is granted within an interval that is over. -/
theorem granted_of_over {bucket : Bucket α} {requests : List (Request α)} {start stop : α}
    (isOver : ∀ request ∈ requests, stop < request.now) :
    granted start stop (transcript burst rate bucket requests) = 0 := by
  unfold granted
  rw [List.filter_eq_nil_iff.mpr, List.map_nil, List.sum_nil]
  intro answer member
  have late := isOver answer.1 (mem_transcript member)
  simp [late]

variable [IsStrictOrderedRing α]

/-- Within an interval that has begun, what is granted was there or has come back since. -/
theorem granted_le_tokens (burst_nonneg : 0 ≤ burst) (rate_nonneg : 0 ≤ rate)
    {bucket : Bucket α} {requests : List (Request α)} {start stop : α} (noDebt : 0 ≤ bucket.tokens)
    (begun : bucket.instant ≤ stop) (later : ∀ request ∈ requests, bucket.instant ≤ request.now)
    (forward : Forward requests) (costs : ∀ request ∈ requests, 0 ≤ request.cost) :
    granted start stop (transcript burst rate bucket requests) ≤
      bucket.tokens + (stop - bucket.instant) * rate := by
  induction requests generalizing bucket with
  | nil =>
      rw [transcript, granted_nil]
      exact add_nonneg noDebt (mul_nonneg (sub_nonneg.mpr begun) rate_nonneg)
  | cons request requests ih =>
      obtain ⟨ahead, forward'⟩ := List.pairwise_cons.mp forward
      have first := later request List.mem_cons_self
      have cost_nonneg := costs request List.mem_cons_self
      rcases lt_or_ge stop request.now with isOver | inTime
      · have nothing : granted start stop (transcript burst rate bucket (request :: requests)) = 0 := by
          apply granted_of_over
          intro other member
          rcases List.mem_cons.mp member with rfl | behind
          · exact isOver
          · exact lt_of_lt_of_le isOver (ahead other behind)
        rw [nothing]
        exact add_nonneg noDebt (mul_nonneg (sub_nonneg.mpr begun) rate_nonneg)
      · have balance := spend_balance burst rate bucket request
        have level_le_sum : bucket.level burst rate request.now ≤
            bucket.tokens + (request.now - bucket.instant) * rate := min_le_right _ _
        have rest := @ih (bucket.spend burst rate request).2
          (spend_noDebt burst_nonneg rate_nonneg noDebt first) (spend_instant.trans_le inTime)
          (fun other member => spend_instant.trans_le (ahead other member)) forward'
          fun other member => costs other (List.mem_cons_of_mem _ member)
        have counted : (if start ≤ request.now ∧ request.now ≤ stop then
              if (bucket.spend burst rate request).1 then request.cost else 0
            else 0) ≤ if (bucket.spend burst rate request).1 then request.cost else 0 := by
          split
          · exact le_rfl
          · split
            · exact cost_nonneg
            · exact le_rfl
        rw [spend_instant] at rest
        rw [transcript, granted_cons]
        linarith

/-- Within any interval no more is granted than the burst and what comes back in its length. -/
theorem granted_le (burst_nonneg : 0 ≤ burst) (rate_nonneg : 0 ≤ rate)
    {bucket : Bucket α} {requests : List (Request α)} {start stop : α} (within : bucket.Within burst)
    (ordered : start ≤ stop) (later : ∀ request ∈ requests, bucket.instant ≤ request.now)
    (forward : Forward requests) (costs : ∀ request ∈ requests, 0 ≤ request.cost) :
    granted start stop (transcript burst rate bucket requests) ≤ burst + (stop - start) * rate := by
  have length_nonneg : 0 ≤ (stop - start) * rate := mul_nonneg (sub_nonneg.mpr ordered) rate_nonneg
  induction requests generalizing bucket with
  | nil =>
      rw [transcript, granted_nil]
      exact add_nonneg burst_nonneg length_nonneg
  | cons request requests ih =>
      obtain ⟨ahead, forward'⟩ := List.pairwise_cons.mp forward
      have first := later request List.mem_cons_self
      have cost_nonneg := costs request List.mem_cons_self
      have costs' : ∀ other ∈ requests, 0 ≤ other.cost :=
        fun other member => costs other (List.mem_cons_of_mem _ member)
      have within' := within_spend burst_nonneg rate_nonneg within first cost_nonneg
      have later' : ∀ other ∈ requests, (bucket.spend burst rate request).2.instant ≤ other.now :=
        fun other member => spend_instant.trans_le (ahead other member)
      rw [transcript, granted_cons]
      by_cases inside : start ≤ request.now ∧ request.now ≤ stop
      · -- The first request of the interval finds no more than the burst.
        have rest : granted start stop _ ≤ _ := granted_le_tokens burst_nonneg rate_nonneg within'.noDebt
          (spend_instant.trans_le inside.2) later' forward' costs'
        have balance := spend_balance burst rate bucket request
        have full : bucket.level burst rate request.now ≤ burst := level_le
        have shorter : (stop - request.now) * rate ≤ (stop - start) * rate :=
          mul_le_mul_of_nonneg_right (sub_le_sub_left inside.1 _) rate_nonneg
        rw [spend_instant] at rest
        rw [if_pos inside]
        linarith
      · rw [if_neg inside, zero_add]
        exact ih within' later' forward' costs'

/-- A sequence of requests leaves a bucket between empty and full. -/
theorem within_after (burst_nonneg : 0 ≤ burst) (rate_nonneg : 0 ≤ rate) {bucket : Bucket α}
    {requests : List (Request α)} (within : bucket.Within burst)
    (later : ∀ request ∈ requests, bucket.instant ≤ request.now) (forward : Forward requests)
    (costs : ∀ request ∈ requests, 0 ≤ request.cost) :
    (after burst rate bucket requests).Within burst := by
  induction requests generalizing bucket with
  | nil => exact within
  | cons request requests ih =>
      obtain ⟨ahead, forward'⟩ := List.pairwise_cons.mp forward
      have within' := within_spend burst_nonneg rate_nonneg within (later request List.mem_cons_self)
        (costs request List.mem_cons_self)
      exact ih within' (fun other member => spend_instant.trans_le (ahead other member)) forward'
        fun other member => costs other (List.mem_cons_of_mem _ member)

end Granted

end JumptotechLabs.Core.TokenBucket
