/-
Module: JumptotechLabs.Billing.Atomicity
Layer: Billing (apps/api/src/billing/processor.ts, store.ts)
Purpose: A webhook is processed exactly once, and all of it or nothing. The access mutation is the last thing
  that can throw, so a transaction that throws has not changed access, and what it did to billing is put
  back; an event that was settled is claimed from then on, and a claimed event changes nothing.
Main exports: Settles, settles_process, processInMemory_of_claimed, processInMemory_of_unclaimed,
  webhooks_exactly_once
-/
import JumptotechLabs.Billing.Store

namespace JumptotechLabs.Billing

open JumptotechLabs.Access JumptotechLabs.Core

/-- The event's id was claimed. -/
def BillingTables.claimed (tables : BillingTables) (eventId : String) : Bool :=
  (tables.event eventId).isSome

/-! ### The rest of a claimed event -/

/-- What the processing of a claimed event does: a failure has not touched access, a return is no
    duplicate, and no claim is made or dropped. -/
structure Settles (world : BillingWorld InMemoryAccessStore)
    (outcome : Except BillingFailure ProcessResult) (after : BillingWorld InMemoryAccessStore) :
    Prop where
  access : ∀ failure, outcome = .error failure → after.access = world.access
  outcome : ∀ result, outcome = .ok result → result.outcome ≠ .duplicate
  claims : ∀ eventId, after.tables.claimed eventId = world.tables.claimed eventId

section Steps

variable {accounts : List String} {world : BillingWorld InMemoryAccessStore} {event : BillingEvent}

theorem claimed_setEventOutcome (tables : BillingTables) (id eventId : String)
    (outcome : EventOutcome) :
    (tables.setEventOutcome id outcome).claimed eventId = tables.claimed eventId := by
  simp only [BillingTables.claimed, BillingTables.event, BillingTables.setEventOutcome]
  rw [Keyed.lookup_modify, Option.isSome_map]
  intro row
  rfl

theorem claimed_congr {tables other : BillingTables} (same : tables.events = other.events)
    (eventId : String) : tables.claimed eventId = other.claimed eventId := by
  simp only [BillingTables.claimed, BillingTables.event, same]

/-- Settling, whatever was done to access before. -/
theorem settles_settle {outcome : EventOutcome} {userId reason : Option String}
    {access : InMemoryAccessStore} {tables : BillingTables}
    (same : tables.events = world.tables.events) :
    (settle event outcome userId reason).Ensures (memoryTx accounts).effects
      ⟨tables, access⟩ (Settles world) := by
  unfold settle
  rw [ensures_tx]
  simp only [memoryTx, Prog.thenEnsures_ok, Prog.ensures_pure]
  constructor
  · intro failure impossible
    cases impossible
  · intro result isResult
    cases isResult
    intro impossible
    cases outcome with
    | applied => cases impossible
    | stale => cases impossible
    | ignored => cases impossible
  · intro eventId
    rw [claimed_setEventOutcome]
    exact claimed_congr same eventId

theorem settles_failure {failure : BillingFailure} {tables : BillingTables}
    (same : tables.events = world.tables.events) :
    Settles world (.error failure) ⟨tables, world.access⟩ := by
  constructor
  · intro failure _
    rfl
  · intro result impossible
    cases impossible
  · exact claimed_congr same

/-- A mutation that throws leaves the access store as it was. -/
theorem mutate_of_error {store : InMemoryAccessStore} {call : AccessCall} {failure : AccessFailure}
    (thrown : (store.mutate call).1 = .error failure) : (store.mutate call).2 = store := by
  unfold InMemoryAccessStore.mutate at thrown ⊢
  split
  · rfl
  rename_i known
  rw [if_neg known] at thrown
  simp only at thrown ⊢
  split
  · rfl
  · rename_i changes planned
    rw [planned] at thrown
    cases thrown

theorem settles_processFor (world : BillingWorld InMemoryAccessStore) {deps : BillingDeps}
    {s : SubscriptionSnapshot} {userId : String} {time now : Instant} {tables : BillingTables} (same : tables.events = world.tables.events) :
    (processFor deps event s userId time now).Ensures (memoryTx accounts).effects
      ⟨tables, world.access⟩ (Settles world) := by
  unfold processFor
  rw [ensures_tx]
  simp only [memoryTx, Prog.thenEnsures_ok]
  rw [ensures_tx]
  simp only [memoryTx, Prog.thenEnsures_ok]
  split
  · exact settles_settle same
  split
  · exact settles_settle same
  split
  · exact settles_failure same
  rw [ensures_tx]
  simp only [memoryTx, Prog.thenEnsures_ok]
  rw [ensures_tx]
  simp only [memoryTx, Prog.thenEnsures_ok]
  rw [Prog.ensures_bind, Prog.ensures_settle]
  cases desiredEntitlement _ deps.policy with
  | error failure => exact settles_failure same
  | ok desired =>
      rw [Prog.thenEnsures_ok]
      cases desired with
      | none => exact settles_settle same
      | some desired =>
          simp only
          rw [ensures_tx]
          simp only [memoryTx]
          cases reply : (world.access.mutate _).1 with
          | error failure =>
              rw [mutate_of_error reply]
              exact settles_failure same
          | ok result => exact settles_settle same

theorem bindInMemory_events (tables : BillingTables) (customerRef userId : String) (time : Instant) :
    (bindInMemory tables customerRef userId time).2.events = tables.events := by
  unfold bindInMemory
  split
  · rfl
  split
  · rfl
  · rfl

theorem settles_processUnbound (world : BillingWorld InMemoryAccessStore) {deps : BillingDeps}
    {s : SubscriptionSnapshot} {time now : Instant} {tables : BillingTables} (same : tables.events = world.tables.events) :
    (processUnbound deps event s time now).Ensures (memoryTx accounts).effects
      ⟨tables, world.access⟩ (Settles world) := by
  unfold processUnbound
  split
  · exact settles_failure same
  rw [ensures_tx]
  simp only [memoryTx, Prog.thenEnsures_ok]
  split
  · rw [ensures_tx]
    simp only [memoryTx, Prog.thenEnsures_ok]
    rename_i userId _ _
    have sameBound := (bindInMemory_events tables s.customerRef userId time).trans same
    split
    · exact settles_settle sameBound
    · exact settles_processFor world sameBound
    · exact settles_processFor world sameBound
  · exact settles_failure same

theorem settles_processSubscription (world : BillingWorld InMemoryAccessStore) {deps : BillingDeps}
    {s : SubscriptionSnapshot} {time now : Instant} {tables : BillingTables} (same : tables.events = world.tables.events) :
    (processSubscription deps event s time now).Ensures (memoryTx accounts).effects
      ⟨tables, world.access⟩ (Settles world) := by
  unfold processSubscription
  rw [ensures_tx]
  simp only [memoryTx, Prog.thenEnsures_ok]
  split
  · exact settles_processFor world same
  · exact settles_processUnbound world same

theorem settles_processCheckout (world : BillingWorld InMemoryAccessStore)
    {checkoutRef customerRef : String} {clientReference : Option String} {time : Instant} {tables : BillingTables} (same : tables.events = world.tables.events) :
    (processCheckout event checkoutRef customerRef clientReference time).Ensures
      (memoryTx accounts).effects ⟨tables, world.access⟩ (Settles world) := by
  unfold processCheckout
  rw [ensures_tx]
  simp only [memoryTx, Prog.thenEnsures_ok]
  split
  · exact settles_settle same
  split
  · exact settles_settle same
  rw [ensures_tx]
  simp only [memoryTx, Prog.thenEnsures_ok]
  rename_i checkout _ _
  have sameBound := (bindInMemory_events tables customerRef checkout.userId time).trans same
  split
  · exact settles_settle sameBound
  · rw [ensures_tx]
    exact settles_settle sameBound
  · rw [ensures_tx]
    exact settles_settle sameBound

end Steps

/-! ### One delivery -/

section Delivery

variable {deps : BillingDeps} {delivery : Delivery} {world : BillingWorld InMemoryAccessStore}

theorem settles_process (unclaimed : world.tables.claimed delivery.event.eventId = false) :
    (process deps delivery.event delivery.time delivery.now).Ensures
      (memoryTx delivery.accounts).effects world
      (Settles ⟨world.tables.putEvent delivery.event delivery.time, world.access⟩) := by
  rw [BillingTables.claimed] at unclaimed
  unfold process
  rw [ensures_tx]
  simp only [memoryTx, unclaimed, Bool.false_eq_true, if_false, Prog.thenEnsures_ok, if_true]
  split
  · exact settles_settle rfl
  · exact settles_processCheckout
      ⟨world.tables.putEvent delivery.event delivery.time, world.access⟩ rfl
  · exact settles_processSubscription
      ⟨world.tables.putEvent delivery.event delivery.time, world.access⟩ rfl

theorem claimed_putEvent (tables : BillingTables) (event : BillingEvent) (time : Instant)
    (eventId : String) :
    (tables.putEvent event time).claimed eventId =
      (decide (event.eventId = eventId) || tables.claimed eventId) := by
  simp only [BillingTables.claimed, BillingTables.event, BillingTables.putEvent, Keyed.lookup_put]
  split
  · simp_all
  · simp_all

/-- A delivery of a claimed id is a duplicate, and changes nothing. -/
theorem processInMemory_of_claimed (isClaimed : world.tables.claimed delivery.event.eventId = true) :
    processInMemory deps delivery world = (.ok { outcome := .duplicate }, world) := by
  rw [BillingTables.claimed] at isClaimed
  unfold processInMemory transactionInMemory process tx Prog.perform
  simp only [bind, Prog.bind, Prog.run, memoryTx, isClaimed, if_true, Prog.settle,
    Bool.false_eq_true, if_false, pure]

/-- Another delivery throws, and leaves everything as it was; or it is settled, and its id is the one more
    that is claimed. -/
theorem processInMemory_of_unclaimed (deps : BillingDeps)
    (unclaimed : world.tables.claimed delivery.event.eventId = false) :
    (∃ failure, processInMemory deps delivery world = (.error failure, world)) ∨
      ∃ result after, processInMemory deps delivery world = (.ok result, after) ∧
        result.outcome ≠ .duplicate ∧
        ∀ eventId, after.tables.claimed eventId =
          (decide (delivery.event.eventId = eventId) || world.tables.claimed eventId) := by
  have ensures : (process deps delivery.event delivery.time delivery.now).Ensures _ world _ :=
    settles_process unclaimed
  have settles := ensures.run_effects
  unfold processInMemory transactionInMemory
  cases ran : (process deps delivery.event delivery.time delivery.now).run
      (memoryTx delivery.accounts) world with
  | mk outcome after =>
      rw [ran] at settles
      cases outcome with
      | error failure =>
          left
          have sameAccess : after.access = world.access := settles.access failure rfl
          refine ⟨failure, ?_⟩
          simp only [sameAccess]
      | ok result =>
          right
          refine ⟨result, after, rfl, settles.outcome result rfl, ?_⟩
          intro eventId
          rw [settles.claims eventId]
          exact claimed_putEvent ..

end Delivery

/-! ### Every run -/

section Runs

variable {deps : BillingDeps} {world : BillingWorld InMemoryAccessStore} {delivery : Delivery}

/-- No call drops a claim. -/
theorem claimed_step {eventId : String} (call : BillingCall)
    (isClaimed : world.tables.claimed eventId = true) :
    ((memoryBilling deps).step world call).2.tables.claimed eventId = true := by
  cases call with
  | recordCheckout checkout accounts => exact isClaimed
  | process delivery =>
      simp only
      cases same : world.tables.claimed delivery.event.eventId with
      | true =>
          rw [processInMemory_of_claimed same]
          exact isClaimed
      | false =>
          rcases processInMemory_of_unclaimed deps same with
            ⟨failure, same⟩ | ⟨result, after, same, _, claims⟩
          · rw [same]
            exact isClaimed
          · rw [same]
            simp only
            rw [claims, isClaimed, Bool.or_true]

/-- A delivery that returned leaves its id claimed. -/
theorem claimed_of_returned {result : Option ProcessResult}
    (returned : ((memoryBilling deps).step world (.process delivery)).1 = .ok result) :
    ((memoryBilling deps).step world (.process delivery)).2.tables.claimed delivery.event.eventId =
      true := by
  simp only at returned ⊢
  cases same : world.tables.claimed delivery.event.eventId with
  | true =>
      rw [processInMemory_of_claimed same]
      exact same
  | false =>
      rcases processInMemory_of_unclaimed deps same with
        ⟨failure, same⟩ | ⟨result, after, same, _, claims⟩
      · rw [same] at returned
        cases returned
      · rw [same]
        simp [claims]

/-- A delivery that throws leaves everything as it was. -/
theorem step_of_thrown {failure : BillingFailure}
    (thrown : ((memoryBilling deps).step world (.process delivery)).1 = .error failure) :
    ((memoryBilling deps).step world (.process delivery)).2 = world := by
  simp only at thrown ⊢
  cases same : world.tables.claimed delivery.event.eventId with
  | true => rw [processInMemory_of_claimed same]
  | false =>
      rcases processInMemory_of_unclaimed deps same with
        ⟨failure, same⟩ | ⟨result, after, same, _, claims⟩
      · rw [same]
      · rw [same] at thrown
        cases thrown

/-- Once a delivery of an event returned, every later one is a duplicate. -/
theorem duplicate_after {result : Option ProcessResult} {again : Delivery}
    (returned : ((memoryBilling deps).step world (.process delivery)).1 = .ok result)
    (sameEvent : again.event.eventId = delivery.event.eventId) (between : List BillingCall) :
    (memoryBilling deps).step
        ((memoryBilling deps).after ((memoryBilling deps).step world (.process delivery)).2 between)
        (.process again) =
      (.ok (some { outcome := .duplicate }),
        (memoryBilling deps).after ((memoryBilling deps).step world (.process delivery)).2
          between) := by
  have stays := Object.after_of_step
    (fun state : (memoryBilling deps).State => state.tables.claimed delivery.event.eventId = true)
    (fun _ call isClaimed => claimed_step call isClaimed) (claimed_of_returned returned) between
  rw [← sameEvent] at stays
  simp only
  rw [processInMemory_of_claimed stays]
  rfl

/-- From any state and in any run. Of two deliveries of one event at most one changes anything. A delivery
    that throws leaves billing and access as they were, and the rest of the run is as if it had never
    been made. Once a delivery of an event was settled, every later one is a duplicate and changes
    nothing. -/
theorem webhooks_exactly_once (deps : BillingDeps) (start : BillingWorld InMemoryAccessStore)
    (past : List BillingCall) (delivery : Delivery) :
    let store := memoryBilling deps
    let before := store.after start past
    let after := store.after start (past ++ [BillingCall.process delivery])
    (∀ between again, again.event.eventId = delivery.event.eventId → after ≠ before →
        store.after start (past ++ BillingCall.process delivery :: between ++ [BillingCall.process again]) =
          store.after start (past ++ BillingCall.process delivery :: between)) ∧
      (∀ failure, (store.step before (.process delivery)).1 = .error failure →
        after = before ∧
          ∀ later, store.after start (past ++ BillingCall.process delivery :: later) =
              store.after start (past ++ later) ∧
            store.transcript start (past ++ BillingCall.process delivery :: later) =
              store.transcript start past ++
                (BillingCall.process delivery, Except.error failure) :: store.transcript before later) ∧
      ∀ result between again, (store.step before (.process delivery)).1 = .ok result →
        again.event.eventId = delivery.event.eventId →
        let settled := store.after start (past ++ BillingCall.process delivery :: between)
        store.step settled (.process again) = (.ok (some { outcome := .duplicate }), settled) := by
  intro store before after
  have isAfter : after = (store.step before (.process delivery)).2 := Object.after_append ..
  have alone : ∀ later, store.after start (past ++ BillingCall.process delivery :: later) =
      store.after (store.step before (.process delivery)).2 later := by
    intro later
    exact Object.after_append ..
  have threw : ∀ failure, (store.step before (.process delivery)).1 = .error failure →
      after = before := by
    intro failure thrown
    rw [isAfter]
    exact step_of_thrown thrown
  refine ⟨?_, ?_, ?_⟩
  · intro between again sameEvent changed
    cases reply : (store.step before (.process delivery)).1 with
    | error failure => exact absurd (threw failure reply) changed
    | ok result =>
        rw [Object.after_append, alone]
        exact congrArg Prod.snd (duplicate_after reply sameEvent between)
  · intro failure thrown
    refine ⟨threw failure thrown, ?_⟩
    intro later
    have same := threw failure thrown
    rw [isAfter] at same
    constructor
    · rw [alone, same]
      exact (Object.after_append ..).symm
    · rw [Object.transcript_append, Object.transcript]
      rw [thrown, same]
  · intro result between again returned sameEvent settled
    have isSettled : settled =
        store.after (store.step before (.process delivery)).2 between := alone between
    rw [isSettled]
    exact duplicate_after returned sameEvent between

end Runs

/-- It comes too early and throws; once the checkout is recorded it is applied, as if for the first
    time. -/
theorem webhooks_exactly_once_tooEarly :
    let store := memoryBilling someDeps
    let early : BillingCall := .process (deliveryAt 1 subscriptionCreated)
    let later : List BillingCall :=
      [.recordCheckout ⟨"cs", someStudent, "offer", 2⟩ [],
        .process (deliveryAt 3 subscriptionCreated)]
    (store.step nothingBilled early).1 = .error unmappedSubscription ∧
      store.after nothingBilled (early :: later) = store.after nothingBilled later ∧
      (store.after nothingBilled later).tables.subscriptions.length = 1 := by
  intro store early later
  have thrown : (store.step nothingBilled early).1 = .error unmappedSubscription := by
    rfl
  refine ⟨thrown, ?_, by decide +kernel⟩
  exact (((webhooks_exactly_once someDeps nothingBilled [] (deliveryAt 1 subscriptionCreated)).2.1 _
    thrown).2 later).1

end JumptotechLabs.Billing
