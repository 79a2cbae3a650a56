/-
Module: JumptotechLabs.Terminal.Budgets
Layer: Terminal (services/terminal/src/attach-budget.ts, services/terminal/src/input-budget.ts)
Purpose: How often a student may open a terminal, and how much a socket may type. The map of attach budgets drops
  every bucket that has refilled, before each call and by its own clock; what is decided is what a bucket for each
  student decides that is never dropped. In any interval both budgets grant no more than the burst and what the
  rate gives back meanwhile.
Main exports: AttachBudgetOptions, attachBudget, neverForgetting, InputBudgetOptions, inputBudget, SameLevels,
  sameLevels_spend, budgets_bound_the_rate
-/
import JumptotechLabs.Core.Keyed
import JumptotechLabs.Core.Object
import JumptotechLabs.Core.TokenBucket
import Mathlib.Algebra.Order.Ring.Unbundled.Rat
import Mathlib.Algebra.Field.Rat
import Mathlib.Tactic.Ring

namespace JumptotechLabs.Terminal

open JumptotechLabs.Core
open JumptotechLabs.Core.TokenBucket (Bucket Request Forward granted)

/-! ### Attaches -/

structure AttachBudgetOptions where
  /-- Attaches a student may make at once. -/
  burst : Rat
  /-- Attaches a student regains per minute. -/
  perMinute : Rat

/-- Attaches a student regains per millisecond. -/
def AttachBudgetOptions.perMs (options : AttachBudgetOptions) : Rat := options.perMinute / 60000

/-- `#buckets`: the students with a partly spent budget. -/
abbrev Buckets := List (String × Bucket Rat)

/-- A call of `spend`, and what the clock says. -/
structure AttachSpend where
  studentId : String
  now : Rat

/-- A bucket that has refilled is the same as no bucket, so it is dropped. -/
def forgetRefilled (options : AttachBudgetOptions) (now : Rat) (buckets : Buckets) : Buckets :=
  buckets.filter fun entry =>
    ¬ entry.2.tokens + (now - entry.2.instant) * options.perMs ≥ options.burst

/-- Spend one attach for a student; false when they are over budget. -/
def AttachBudget.spend (options : AttachBudgetOptions) (buckets : Buckets) (attach : AttachSpend) : Bool × Buckets :=
  let now := attach.now
  let remembered := forgetRefilled options now buckets
  let bucket := ((Keyed.lookup Prod.fst attach.studentId remembered).map Prod.snd).getD ⟨options.burst, now⟩
  let tokens := min options.burst (bucket.tokens + (now - bucket.instant) * options.perMs)
  if tokens < 1 then (false, Keyed.put Prod.fst (attach.studentId, ⟨tokens, now⟩) remembered)
  else (true, Keyed.put Prod.fst (attach.studentId, ⟨tokens - 1, now⟩) remembered)

abbrev attachBudget (options : AttachBudgetOptions) : Object AttachSpend Bool where
  State := Buckets
  step := AttachBudget.spend options

/-! ### Typed bytes -/

structure InputBudgetOptions where
  burstBytes : Rat
  bytesPerSecond : Rat

/-- A call of `spend`, and what the clock says. -/
structure Typed where
  bytes : Rat
  now : Rat

/-- Spend some bytes; false when the socket has typed more than its budget. -/
def InputBudget.spend (options : InputBudgetOptions) (budget : Bucket Rat) (typed : Typed) :
    Bool × Bucket Rat :=
  let tokens := min options.burstBytes
    (budget.tokens + (typed.now - budget.instant) / 1000 * options.bytesPerSecond)
  if typed.bytes > tokens then (false, ⟨tokens, typed.now⟩)
  else (true, ⟨tokens - typed.bytes, typed.now⟩)

abbrev inputBudget (options : InputBudgetOptions) : Object Typed Bool where
  State := Bucket Rat
  step := InputBudget.spend options

/-- The budget a socket opens with. -/
def InputBudget.opened (options : InputBudgetOptions) (now : Rat) : Bucket Rat := ⟨options.burstBytes, now⟩

/-! ### The budget that never forgets -/

/-- One bucket for each student, from the first attach on and for good. -/
abbrev neverForgetting (options : AttachBudgetOptions) : Object AttachSpend Bool where
  State := String → Option (Bucket Rat)
  step buckets attach :=
    let bucket := (buckets attach.studentId).getD ⟨options.burst, attach.now⟩
    let spent := bucket.spend options.burst options.perMs ⟨attach.now, 1⟩
    (spent.1, Function.update buckets attach.studentId (some spent.2))

/-- The clock does not go backwards. -/
def ForwardAttaches (attaches : List AttachSpend) : Prop :=
  attaches.Pairwise fun earlier later => earlier.now ≤ later.now

/-- The attaches a student was granted between two instants, both included. -/
def grantedAttaches (studentId : String) (start stop : Rat) (answers : List (AttachSpend × Bool)) : Nat :=
  answers.countP fun answer =>
    answer.2 && answer.1.studentId = studentId && decide (start ≤ answer.1.now ∧ answer.1.now ≤ stop)

/-- The bytes that were granted between two instants, both included. -/
def grantedBytes (start stop : Rat) (answers : List (Typed × Bool)) : Rat :=
  ((answers.filter fun answer => answer.2 && decide (start ≤ answer.1.now ∧ answer.1.now ≤ stop)).map
    fun answer => answer.1.bytes).sum

/-! ### Forgetting is not seen -/

variable {options : AttachBudgetOptions}

/-- The tokens of a student's bucket; a student without one has the burst. -/
def levelOf (options : AttachBudgetOptions) (now : Rat) : Option (Bucket Rat) → Rat
  | none => options.burst
  | some bucket => bucket.level options.burst options.perMs now

theorem level_getD (bucket : Option (Bucket Rat)) (now : Rat) :
    (bucket.getD ⟨options.burst, now⟩).level options.burst options.perMs now = levelOf options now bucket := by
  cases bucket with
  | none => exact TokenBucket.level_new now
  | some bucket => rfl

/-- The bucket that is remembered for a student. -/
def remembered (studentId : String) (buckets : Buckets) : Option (Bucket Rat) :=
  (Keyed.lookup Prod.fst studentId buckets).map Prod.snd

/-- One call is one request to the student's bucket, after the others were dropped. -/
theorem attach_spend_eq (buckets : Buckets) (attach : AttachSpend) :
    AttachBudget.spend options buckets attach =
      let kept := forgetRefilled options attach.now buckets
      let bucket := (remembered attach.studentId kept).getD ⟨options.burst, attach.now⟩
      let spent := bucket.spend options.burst options.perMs ⟨attach.now, 1⟩
      (spent.1, Keyed.put Prod.fst (attach.studentId, spent.2) kept) := by
  unfold AttachBudget.spend Bucket.spend Bucket.level remembered
  dsimp only
  split <;> rfl

theorem remembered_put (studentId : String) (entry : String × Bucket Rat) (buckets : Buckets) :
    remembered studentId (Keyed.put Prod.fst entry buckets) =
      if entry.1 = studentId then some entry.2 else remembered studentId buckets := by
  unfold remembered
  rw [Keyed.lookup_put]
  split <;> rfl

/-- From now on every student has the same tokens in both. -/
structure SameLevels (options : AttachBudgetOptions) (now : Rat) (buckets : Buckets)
    (all : String → Option (Bucket Rat)) : Prop where
  distinct : Keyed.Distinct Prod.fst buckets
  same : ∀ studentId later, now ≤ later →
    levelOf options later (remembered studentId buckets) = levelOf options later (all studentId)

/-- A bucket that is dropped had refilled, and so had what it is compared with. -/
theorem sameLevels_forget (perMs_nonneg : 0 ≤ options.perMs) {now : Rat} {buckets : Buckets}
    {all : String → Option (Bucket Rat)} (same : SameLevels options now buckets all) :
    SameLevels options now (forgetRefilled options now buckets) all := by
  refine ⟨same.distinct.filter _, ?_⟩
  intro studentId later onward
  rw [← same.same studentId later onward]
  unfold remembered forgetRefilled
  rw [Keyed.lookup_filter same.distinct]
  cases Keyed.lookup Prod.fst studentId buckets with
  | none => rfl
  | some entry =>
      rw [Option.filter_some]
      split
      · rfl
      · rename_i dropped
        have refilled : options.burst ≤ entry.2.tokens + (now - entry.2.instant) * options.perMs := by
          simpa using dropped
        exact (TokenBucket.level_of_refilled perMs_nonneg onward refilled).symm

theorem sameLevels_later {now later : Rat} {buckets : Buckets} {all : String → Option (Bucket Rat)}
    (same : SameLevels options now buckets all) (onward : now ≤ later) :
    SameLevels options later buckets all :=
  ⟨same.distinct, fun studentId further onward' => same.same studentId further (onward.trans onward')⟩

/-- One call decides the same in both, and leaves the same tokens. -/
theorem sameLevels_spend (perMs_nonneg : 0 ≤ options.perMs) {buckets : Buckets}
    {all : String → Option (Bucket Rat)} {attach : AttachSpend} (same : SameLevels options attach.now buckets all) :
    (AttachBudget.spend options buckets attach).1 = ((neverForgetting options).step all attach).1 ∧
      SameLevels options attach.now (AttachBudget.spend options buckets attach).2
        ((neverForgetting options).step all attach).2 := by
  have kept := sameLevels_forget perMs_nonneg same
  have spent : ((remembered attach.studentId (forgetRefilled options attach.now buckets)).getD
        ⟨options.burst, attach.now⟩).spend options.burst options.perMs ⟨attach.now, 1⟩ =
      ((all attach.studentId).getD ⟨options.burst, attach.now⟩).spend options.burst options.perMs
        ⟨attach.now, 1⟩ := by
    apply TokenBucket.spend_congr
    rw [level_getD, level_getD]
    exact kept.same attach.studentId attach.now le_rfl
  rw [attach_spend_eq]
  dsimp only [neverForgetting]
  rw [spent]
  refine ⟨rfl, kept.distinct.put, ?_⟩
  intro studentId later onward
  rw [remembered_put]
  by_cases own : attach.studentId = studentId
  · rw [if_pos own, ← own, Function.update_self]
  · rw [if_neg own, Function.update_of_ne (Ne.symm own)]
    exact kept.same studentId later onward

theorem attachBudget_transcript (perMs_nonneg : 0 ≤ options.perMs) {buckets : Buckets}
    {all : String → Option (Bucket Rat)} {attaches : List AttachSpend} (forward : ForwardAttaches attaches)
    (same : ∀ attach ∈ attaches, SameLevels options attach.now buckets all) :
    (attachBudget options).transcript buckets attaches = (neverForgetting options).transcript all attaches := by
  induction attaches generalizing buckets all with
  | nil => rfl
  | cons attach attaches ih =>
      obtain ⟨ahead, forward'⟩ := List.pairwise_cons.mp forward
      obtain ⟨answer, next⟩ := sameLevels_spend perMs_nonneg (same attach List.mem_cons_self)
      have rest := ih forward' fun other member => sameLevels_later next (ahead other member)
      exact List.cons_eq_cons.mpr ⟨Prod.ext rfl answer, rest⟩

/-! ### What one student is granted -/

/-- A student's attaches, as requests for one token. -/
def requestsOf (studentId : String) (attaches : List AttachSpend) : List (Request Rat) :=
  (attaches.filter fun attach => attach.studentId = studentId).map fun attach => ⟨attach.now, 1⟩

theorem requestsOf_cons_own (attach : AttachSpend) (attaches : List AttachSpend) :
    requestsOf attach.studentId (attach :: attaches) =
      ⟨attach.now, 1⟩ :: requestsOf attach.studentId attaches := by
  simp [requestsOf]

theorem requestsOf_cons_other {studentId : String} {attach : AttachSpend} (other : attach.studentId ≠ studentId)
    (attaches : List AttachSpend) : requestsOf studentId (attach :: attaches) = requestsOf studentId attaches := by
  simp [requestsOf, other]

theorem mem_requestsOf {studentId : String} {attaches : List AttachSpend} {request : Request Rat}
    (member : request ∈ requestsOf studentId attaches) :
    ∃ attach ∈ attaches, attach.studentId = studentId ∧ request = ⟨attach.now, 1⟩ := by
  obtain ⟨attach, inside, rfl⟩ := List.mem_map.mp member
  obtain ⟨inside', own⟩ := List.mem_filter.mp inside
  exact ⟨attach, inside', of_decide_eq_true own, rfl⟩

theorem forward_requestsOf (studentId : String) {attaches : List AttachSpend} (forward : ForwardAttaches attaches) :
    Forward (requestsOf studentId attaches) :=
  List.pairwise_map.mpr (forward.filter _)

/-- What a student is granted is what the student's own bucket grants. -/
theorem granted_requestsOf (studentId : String) (start stop : Rat) {bucket : Bucket Rat}
    {all : String → Option (Bucket Rat)} {attaches : List AttachSpend}
    (same : ∀ attach ∈ attaches, bucket.level options.burst options.perMs attach.now =
      levelOf options attach.now (all studentId)) :
    (grantedAttaches studentId start stop ((neverForgetting options).transcript all attaches) : Rat) =
      granted start stop
        (TokenBucket.transcript options.burst options.perMs bucket (requestsOf studentId attaches)) := by
  induction attaches generalizing bucket all with
  | nil => simp [requestsOf, TokenBucket.transcript, Object.transcript, grantedAttaches, TokenBucket.granted_nil]
  | cons attach attaches ih =>
      rw [Object.transcript, grantedAttaches, List.countP_cons]
      by_cases own : attach.studentId = studentId
      · subst own
        have spent : bucket.spend options.burst options.perMs ⟨attach.now, 1⟩ =
            ((all attach.studentId).getD ⟨options.burst, attach.now⟩).spend options.burst options.perMs
              ⟨attach.now, 1⟩ := by
          apply TokenBucket.spend_congr
          rw [level_getD]
          exact same attach List.mem_cons_self
        have next : ((neverForgetting options).step all attach).2 attach.studentId =
            some (bucket.spend options.burst options.perMs ⟨attach.now, 1⟩).2 := by
          rw [spent]
          exact Function.update_self ..
        have rest := @ih (bucket.spend options.burst options.perMs ⟨attach.now, 1⟩).2
          ((neverForgetting options).step all attach).2 fun other _ => by rw [next]; rfl
        have answer : ((neverForgetting options).step all attach).1 =
            (bucket.spend options.burst options.perMs ⟨attach.now, 1⟩).1 := by
          rw [spent]
        rw [requestsOf_cons_own, TokenBucket.transcript, TokenBucket.granted_cons, ← rest, answer,
          grantedAttaches]
        by_cases inside : start ≤ attach.now ∧ attach.now ≤ stop
        · cases (bucket.spend options.burst options.perMs ⟨attach.now, 1⟩).1 <;> simp [inside, add_comm]
        · simp [inside]
      · have next : ((neverForgetting options).step all attach).2 studentId = all studentId :=
          Function.update_of_ne (Ne.symm own) ..
        have rest := @ih bucket ((neverForgetting options).step all attach).2 fun other member => by
          rw [next]
          exact same other (List.mem_cons_of_mem _ member)
        rw [requestsOf_cons_other own, ← rest, grantedAttaches]
        simp [own]

theorem grantedAttaches_le (burst_nonneg : 0 ≤ options.burst) (perMs_nonneg : 0 ≤ options.perMs)
    {attaches : List AttachSpend} (forward : ForwardAttaches attaches) (studentId : String) {start stop : Rat}
    (ordered : start ≤ stop) :
    (grantedAttaches studentId start stop ((attachBudget options).transcript [] attaches) : Rat) ≤
      options.burst + (stop - start) * options.perMs := by
  obtain ⟨opening, before⟩ : ∃ opening : Rat, ∀ attach ∈ attaches, opening ≤ attach.now := by
    cases attaches with
    | nil => exact ⟨0, fun attach member => by cases member⟩
    | cons first attaches =>
        refine ⟨first.now, fun attach member => ?_⟩
        rcases List.mem_cons.mp member with rfl | behind
        · exact le_rfl
        · exact (List.pairwise_cons.mp forward).1 attach behind
  have full : ∀ attach ∈ attaches, (⟨options.burst, opening⟩ : Bucket Rat).level options.burst options.perMs
      attach.now = levelOf options attach.now none := by
    intro attach member
    have regained : 0 ≤ (attach.now - opening) * options.perMs :=
      mul_nonneg (sub_nonneg.mpr (before attach member)) perMs_nonneg
    exact min_eq_left (le_add_of_nonneg_right regained)
  have unseen : (attachBudget options).transcript [] attaches =
      (neverForgetting options).transcript (fun _ => none) attaches :=
    attachBudget_transcript perMs_nonneg forward fun _ _ => ⟨Keyed.Distinct.nil, fun _ _ _ => rfl⟩
  rw [unseen, granted_requestsOf studentId start stop full]
  refine TokenBucket.granted_le burst_nonneg perMs_nonneg ⟨burst_nonneg, le_rfl⟩ ordered ?_
    (forward_requestsOf studentId forward) ?_
  · intro request member
    obtain ⟨attach, inside, -, rfl⟩ := mem_requestsOf member
    exact before attach inside
  · intro request member
    obtain ⟨attach, -, -, rfl⟩ := mem_requestsOf member
    exact zero_le_one

/-- No bucket is in debt or above the burst, and none is ahead of the clock. -/
def BucketsSound (options : AttachBudgetOptions) (now : Rat) (buckets : Buckets) : Prop :=
  ∀ entry ∈ buckets, entry.2.Within options.burst ∧ entry.2.instant ≤ now

theorem bucketsSound_spend (burst_nonneg : 0 ≤ options.burst) (perMs_nonneg : 0 ≤ options.perMs) {buckets : Buckets}
    {attach : AttachSpend} (sound : BucketsSound options attach.now buckets) :
    BucketsSound options attach.now (AttachBudget.spend options buckets attach).2 := by
  have kept : BucketsSound options attach.now (forgetRefilled options attach.now buckets) :=
    fun entry member => sound entry (List.mem_filter.mp member).1
  have found : ∀ bucket, remembered attach.studentId (forgetRefilled options attach.now buckets) = some bucket →
      bucket.Within options.burst ∧ bucket.instant ≤ attach.now := by
    intro bucket isFound
    obtain ⟨entry, looked, rfl⟩ := Option.map_eq_some_iff.mp isFound
    exact kept entry (Keyed.mem_of_lookup looked)
  rw [attach_spend_eq]
  dsimp only
  intro entry member
  rcases Keyed.mem_put member with rfl | old
  · refine ⟨TokenBucket.within_spend burst_nonneg perMs_nonneg ?_ ?_ zero_le_one,
      TokenBucket.spend_instant.le⟩
    · cases look : remembered attach.studentId (forgetRefilled options attach.now buckets) with
      | none => exact ⟨burst_nonneg, le_rfl⟩
      | some bucket => exact (found bucket look).1
    · cases look : remembered attach.studentId (forgetRefilled options attach.now buckets) with
      | none => exact le_rfl
      | some bucket => exact (found bucket look).2
  · exact kept entry old

theorem bucketsSound_after (burst_nonneg : 0 ≤ options.burst) (perMs_nonneg : 0 ≤ options.perMs) {buckets : Buckets}
    {attaches : List AttachSpend} (forward : ForwardAttaches attaches)
    (sound : ∀ attach ∈ attaches, BucketsSound options attach.now buckets)
    (within : ∀ entry ∈ buckets, entry.2.Within options.burst) :
    ∀ entry ∈ (attachBudget options).after buckets attaches, entry.2.Within options.burst := by
  induction attaches generalizing buckets with
  | nil => exact within
  | cons attach attaches ih =>
      obtain ⟨ahead, forward'⟩ := List.pairwise_cons.mp forward
      have next := bucketsSound_spend burst_nonneg perMs_nonneg (sound attach List.mem_cons_self)
      exact ih forward' (fun other member entry inside =>
        ⟨(next entry inside).1, (next entry inside).2.trans (ahead other member)⟩)
        fun entry inside => (next entry inside).1

/-! ### What one socket is granted -/

variable {limits : InputBudgetOptions}

/-- Bytes a socket regains per millisecond. -/
def InputBudgetOptions.perMs (limits : InputBudgetOptions) : Rat := limits.bytesPerSecond / 1000

theorem input_spend_eq (budget : Bucket Rat) (typed : Typed) :
    InputBudget.spend limits budget typed =
      budget.spend limits.burstBytes limits.perMs ⟨typed.now, typed.bytes⟩ := by
  unfold InputBudget.spend Bucket.spend Bucket.level InputBudgetOptions.perMs
  have sameRate : (typed.now - budget.instant) / 1000 * limits.bytesPerSecond =
      (typed.now - budget.instant) * (limits.bytesPerSecond / 1000) := by ring
  dsimp only
  rw [sameRate]

/-- What a socket types, as requests for tokens. -/
def requestOf (typed : Typed) : Request Rat := ⟨typed.now, typed.bytes⟩

theorem grantedBytes_eq (start stop : Rat) (budget : Bucket Rat) (writes : List Typed) :
    grantedBytes start stop ((inputBudget limits).transcript budget writes) =
      granted start stop
        (TokenBucket.transcript limits.burstBytes limits.perMs budget (writes.map requestOf)) := by
  induction writes generalizing budget with
  | nil => rfl
  | cons typed writes ih =>
      have spent : (inputBudget limits).step budget typed =
          budget.spend limits.burstBytes limits.perMs (requestOf typed) := input_spend_eq budget typed
      rw [Object.transcript, List.map_cons, TokenBucket.transcript, TokenBucket.granted_cons, ← ih, spent]
      unfold grantedBytes
      rw [List.filter_cons]
      by_cases inside : start ≤ typed.now ∧ typed.now ≤ stop
      · cases (budget.spend limits.burstBytes limits.perMs (requestOf typed)).1 <;> simp [inside, requestOf]
      · simp [inside, requestOf]

theorem input_after_eq (budget : Bucket Rat) (writes : List Typed) :
    (inputBudget limits).after budget writes =
      TokenBucket.after limits.burstBytes limits.perMs budget (writes.map requestOf) := by
  induction writes generalizing budget with
  | nil => rfl
  | cons typed writes ih =>
      rw [Object.after, List.map_cons, TokenBucket.after, ← ih]
      exact congrArg (fun spent => (inputBudget limits).after spent.2 writes) (input_spend_eq budget typed)

/-- Whatever is asked and when, the map that forgets decides like the one that does not; and within any interval
    a student is granted no more attaches, and a socket no more bytes, than the burst and what the rate gives back
    in the interval's length. No bucket is ever in debt or above its burst. -/
theorem budgets_bound_the_rate (options : AttachBudgetOptions) (limits : InputBudgetOptions)
    (burst_nonneg : 0 ≤ options.burst) (perMinute_nonneg : 0 ≤ options.perMinute)
    (burstBytes_nonneg : 0 ≤ limits.burstBytes) (bytesPerSecond_nonneg : 0 ≤ limits.bytesPerSecond) :
    (∀ attaches, ForwardAttaches attaches →
      (attachBudget options).transcript [] attaches =
        (neverForgetting options).transcript (fun _ => none) attaches ∧
      (∀ studentId start stop, start ≤ stop →
        (grantedAttaches studentId start stop ((attachBudget options).transcript [] attaches) : Rat) ≤
          options.burst + (stop - start) * options.perMs) ∧
      ∀ entry ∈ (attachBudget options).after [] attaches, entry.2.Within options.burst) ∧
    ∀ opened writes, (writes.Pairwise fun earlier later : Typed => earlier.now ≤ later.now) →
      (∀ typed ∈ writes, opened ≤ typed.now ∧ 0 ≤ typed.bytes) →
      (∀ start stop, start ≤ stop →
        grantedBytes start stop ((inputBudget limits).transcript (InputBudget.opened limits opened) writes) ≤
          limits.burstBytes + (stop - start) * limits.perMs) ∧
      ((inputBudget limits).after (InputBudget.opened limits opened) writes).Within limits.burstBytes := by
  have perMs_nonneg : 0 ≤ options.perMs := div_nonneg perMinute_nonneg (by norm_num)
  have perMs_nonneg' : 0 ≤ limits.perMs := div_nonneg bytesPerSecond_nonneg (by norm_num)
  constructor
  · intro attaches forward
    refine ⟨?_, ?_, ?_⟩
    · exact attachBudget_transcript perMs_nonneg forward fun _ _ => ⟨Keyed.Distinct.nil, fun _ _ _ => rfl⟩
    · intro studentId start stop ordered
      exact grantedAttaches_le burst_nonneg perMs_nonneg forward studentId ordered
    · exact bucketsSound_after burst_nonneg perMs_nonneg forward (fun _ _ entry member => by cases member)
        fun entry member => by cases member
  · intro opened writes forward sane
    have full : (InputBudget.opened limits opened).Within limits.burstBytes := ⟨burstBytes_nonneg, le_rfl⟩
    have forward' : Forward (writes.map requestOf) := List.pairwise_map.mpr forward
    have later : ∀ request ∈ writes.map requestOf, (InputBudget.opened limits opened).instant ≤ request.now := by
      intro request member
      obtain ⟨typed, inside, rfl⟩ := List.mem_map.mp member
      exact (sane typed inside).1
    have costs : ∀ request ∈ writes.map requestOf, 0 ≤ request.cost := by
      intro request member
      obtain ⟨typed, inside, rfl⟩ := List.mem_map.mp member
      exact (sane typed inside).2
    constructor
    · intro start stop ordered
      rw [grantedBytes_eq]
      exact TokenBucket.granted_le burstBytes_nonneg perMs_nonneg' full ordered later forward' costs
    · rw [input_after_eq]
      exact TokenBucket.within_after burstBytes_nonneg perMs_nonneg' full later forward' costs

/-- The budgets the service has by default. -/
theorem budgets_bound_the_rate_default :
    (0 ≤ (30 : Rat) ∧ 0 ≤ (262144 : Rat)) ∧
      ∀ attaches, ForwardAttaches attaches →
        (attachBudget ⟨30, 30⟩).transcript [] attaches =
          (neverForgetting ⟨30, 30⟩).transcript (fun _ => none) attaches :=
  ⟨⟨by norm_num, by norm_num⟩, fun attaches forward =>
    ((budgets_bound_the_rate ⟨30, 30⟩ ⟨262144, 8192⟩ (by norm_num) (by norm_num) (by norm_num)
      (by norm_num)).1 attaches forward).1⟩

end JumptotechLabs.Terminal
