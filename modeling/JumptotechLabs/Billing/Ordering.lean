/-
Module: JumptotechLabs.Billing.Ordering
Layer: Billing (apps/api/src/billing/processor.ts, lifecycle.ts, store.ts, apps/api/src/access/entitlements.ts)
Purpose: The order in which webhooks are delivered does not matter. Whatever the order and however often each
  is repeated, every subscription ends in the state of its newest event, and billing's row is what those
  states ask for.
Main exports: Report, Handed, Deliverable, Delivered, delivered_step, delivered_of_handed, Newest,
  delivery_order_irrelevant
-/
import JumptotechLabs.Billing.Atomicity
import JumptotechLabs.Billing.Desired
import Mathlib.Data.List.Induction

namespace JumptotechLabs.Billing

open JumptotechLabs.Access JumptotechLabs.Core

/-! ### Events of one account -/

/-- An event that reports the state of a subscription. -/
structure Report where
  eventId : String
  eventType : String
  occurredAt : Instant
  s : SubscriptionSnapshot
deriving DecidableEq, Inhabited

def Report.event (report : Report) : BillingEvent :=
  ⟨report.eventId, report.eventType, report.occurredAt, .subscription report.s⟩

/-- One delivery of it. -/
structure Handed where
  report : Report
  time : Instant
  now : Instant
  accounts : List String
deriving DecidableEq, Inhabited

def Handed.delivery (handed : Handed) : Delivery :=
  ⟨handed.report.event, handed.time, handed.now, handed.accounts⟩

/-- What a window asks for. -/
def requestOf (policy : BillingPolicy) (row : StoredSubscription) : SyncRequest :=
  match entitlementFor row policy with
  | .ok request => request
  | .error _ => default

section Account

variable (deps : BillingDeps) (userId : String)

/-- The state a report carries, as it is stored. -/
def carried (report : Report) (time : Instant) : StoredSubscription :=
  storedFrom report.event report.s userId
    ((deps.offerFor report.s.priceRef).bind Offer.planId) time

/-- What it asks for by itself. -/
def asked (report : Report) : SyncRequest := requestOf deps.policy (carried deps userId report 0)

/-- The events of one account that is not suspended and has no subscription yet: its customers are bound,
    its prices have offers, each period ends after it starts, no two events share an id, two of one
    subscription are of different times, and all have entitlement ends, two subscriptions' never the
    same. -/
structure Deliverable (start : BillingWorld InMemoryAccessStore) (reports : List Report) : Prop where
  account : userId ≠ ""
  bound : ∀ report ∈ reports,
    (start.tables.customer report.s.customerRef).map CustomerRow.userId = some userId
  priced : ∀ report ∈ reports, (deps.offerFor report.s.priceRef).isSome = true
  period : ∀ report ∈ reports, report.s.currentPeriodStart < report.s.currentPeriodEnd
  ids : ∀ a ∈ reports, ∀ b ∈ reports, a.eventId = b.eventId → a = b
  times : ∀ a ∈ reports, ∀ b ∈ reports, a.s.subscriptionRef = b.s.subscriptionRef →
    a.occurredAt = b.occurredAt → a = b
  dated : ∀ report ∈ reports,
    entitlementFor (carried deps userId report 0) deps.policy = .ok (asked deps userId report)
  ends : ∀ a ∈ reports, ∀ b ∈ reports,
    (asked deps userId a).expiresAt = (asked deps userId b).expiresAt →
      a.s.subscriptionRef = b.s.subscriptionRef
  fresh : ∀ report ∈ reports, start.tables.claimed report.eventId = false ∧
    start.tables.subscription report.s.subscriptionRef = none
  unsubscribed : ∀ row ∈ start.tables.subscriptions, row.userId ≠ userId
  free : ∀ entry, start.access.row userId .operator = some entry → entry.status ≠ .suspended
  unbilled : start.access.row userId .billing = none

/-- A delivery of one of the events, to an account that is there, when the clock reads a date. -/
structure InTime (reports : List Report) (handed : Handed) : Prop where
  report : handed.report ∈ reports
  account : userId ∈ handed.accounts
  clock : 0 ≤ handed.now ∧ handed.now ≤ 8640000000000000

/-- The account's subscriptions. -/
def mine (tables : BillingTables) : List StoredSubscription :=
  tables.subscriptions.filter (·.userId == userId)

/-- Billing's row is what the account's subscriptions ask for. -/
inductive Synced (done : List Handed) (world : BillingWorld InMemoryAccessStore) : Prop where
  | none (noneMine : mine userId world.tables = [])
      (noRow : world.access.row userId .billing = none) : Synced done world
  | opened {desired : SyncRequest}
      (chosen : Chosen ((mine userId world.tables).map (requestOf deps.policy)) desired)
      (isActive : desired.active = true) {entry : Entitlement}
      (row : world.access.row userId .billing = some entry)
      (isOpen : snapshot entry = openedBy desired) : Synced done world
  | closed {desired : SyncRequest}
      (chosen : Chosen ((mine userId world.tables).map (requestOf deps.policy)) desired)
      (isInactive : desired.active = false)
      (isClosed : ∀ entry, world.access.row userId .billing = some entry →
        ∀ time, (∀ handed ∈ done, handed.now ≤ time) → ClosedBy time (snapshot entry)) :
      Synced done world

/-- After some deliveries: their ids are claimed, each subscription is in the state of its newest event
    among them, and billing's row is what those states ask for. -/
structure Delivered (start : BillingWorld InMemoryAccessStore) (done : List Handed)
    (world : BillingWorld InMemoryAccessStore) : Prop where
  customers : world.tables.customers = start.tables.customers
  claims : ∀ eventId, world.tables.claimed eventId =
    (start.tables.claimed eventId || done.any fun handed => handed.report.eventId == eventId)
  rows : ∀ row ∈ world.tables.subscriptions, row.userId = userId →
    ∃ handed ∈ done, row = carried deps userId handed.report handed.time
  latest : ∀ handed ∈ done, ∃ row,
    world.tables.subscription handed.report.s.subscriptionRef = some row ∧ row.userId = userId ∧
      handed.report.occurredAt ≤ row.providerStateAt
  unseen : ∀ ref, (∀ handed ∈ done, handed.report.s.subscriptionRef ≠ ref) →
    world.tables.subscription ref = start.tables.subscription ref
  operator : world.access.row userId .operator = start.access.row userId .operator
  steady : ∀ entry, world.access.row userId .billing = some entry → Steady (snapshot entry)
  synced : Synced deps userId done world

variable {deps userId} {start world : BillingWorld InMemoryAccessStore} {reports : List Report}
  {done : List Handed} {handed : Handed}

theorem entitlementFor_carried (deliverable : Deliverable deps userId start reports)
    {report : Report} (member : report ∈ reports) (time : Instant) :
    entitlementFor (carried deps userId report time) deps.policy =
      .ok (asked deps userId report) :=
  deliverable.dated report member

theorem requestOf_carried (report : Report) (time : Instant) :
    requestOf deps.policy (carried deps userId report time) = asked deps userId report := rfl

/-- A window that ends after its subscription's period starts is from a date, and not empty. -/
theorem window_ok {subscription : StoredSubscription} {active : Bool} {ends : Int}
    {request : SyncRequest} (isWindow : window subscription active ends = .ok request)
    (later : subscription.currentPeriodStart < ends) :
    request.startsAt < request.expiresAt ∧ InRange request.startsAt := by
  unfold window iso at isWindow
  unfold toISOString at isWindow
  by_cases starts : subscription.currentPeriodStart.natAbs ≤ 8640000000000000
  · by_cases finishes : ends.natAbs ≤ 8640000000000000
    · simp only [if_pos starts, if_pos finishes, Except.ok.injEq] at isWindow
      subst isWindow
      exact ⟨later, starts⟩
    · simp only [if_pos starts, if_neg finishes] at isWindow
      cases isWindow
  · simp only [if_neg starts] at isWindow
    cases isWindow

theorem hours_nonneg (hours : Nat) : 0 ≤ (hours : Int) * hour := by
  unfold hour
  omega

theorem lt_add_leeway {start ends leeway : Int} (period : start < ends) (nonneg : 0 ≤ leeway) :
    start < ends + leeway := by
  omega

theorem lt_add_grace {start : Int} {hours : Nat} (some : 0 < hours) :
    start < start + (hours : Int) * hour := by
  unfold hour
  omega

/-- What a report asks for is a window, from a date. -/
theorem asked_window (deliverable : Deliverable deps userId start reports) {report : Report}
    (member : report ∈ reports) :
    (asked deps userId report).startsAt < (asked deps userId report).expiresAt ∧
      InRange (asked deps userId report).startsAt := by
  have dated := deliverable.dated report member
  have period : (carried deps userId report 0).currentPeriodStart <
      (carried deps userId report 0).currentPeriodEnd := deliverable.period report member
  unfold entitlementFor at dated
  split at dated
  · apply window_ok dated
    apply lt_add_leeway period
    split
    · exact Int.le_refl _
    · exact hours_nonneg _
  · apply window_ok dated
    apply lt_add_leeway period
    split
    · exact Int.le_refl _
    · exact hours_nonneg _
  · split at dated
    · rename_i grace
      exact window_ok dated (lt_add_grace grace)
    · exact window_ok dated period
  all_goals exact window_ok dated period

/-! ### One delivery -/

/-- The account of an event whose customer is bound. -/
theorem bound_of_delivered (deliverable : Deliverable deps userId start reports)
    (delivered : Delivered deps userId start done world) {report : Report}
    (member : report ∈ reports) :
    (world.tables.customer report.s.customerRef).map CustomerRow.userId = some userId := by
  rw [BillingTables.customer, delivered.customers]
  exact deliverable.bound report member

/-- What a program ensures with one outcome and one world is what the transaction returns. -/
theorem processInMemory_of_ensures {delivery : Delivery} {result : ProcessResult}
    {after : BillingWorld InMemoryAccessStore}
    (ensures : (process deps delivery.event delivery.time delivery.now).Ensures
      (memoryTx delivery.accounts).effects world
      fun outcome world => outcome = .ok result ∧ world = after) :
    processInMemory deps delivery world = (.ok result, after) := by
  have ran := ensures.run_effects
  unfold processInMemory transactionInMemory
  cases isRun : (process deps delivery.event delivery.time delivery.now).run
      (memoryTx delivery.accounts) world with
  | mk outcome reached =>
      rw [isRun] at ran
      obtain ⟨isOk, isAfter⟩ := ran
      simp only at isOk isAfter
      rw [isOk, isAfter]

/-- An unclaimed event of a bound customer goes on to its account. -/
theorem process_of_bound {post : Except BillingFailure ProcessResult →
      BillingWorld InMemoryAccessStore → Prop}
    (account : userId ≠ "") (unclaimed : world.tables.claimed handed.report.eventId = false)
    (bound : (world.tables.customer handed.report.s.customerRef).map CustomerRow.userId =
      some userId)
    (rest : (processFor deps handed.report.event handed.report.s userId handed.time
      handed.now).Ensures (memoryTx handed.accounts).effects
        ⟨world.tables.putEvent handed.report.event handed.time, world.access⟩ post) :
    (process deps handed.delivery.event handed.delivery.time handed.delivery.now).Ensures
      (memoryTx handed.delivery.accounts).effects world post := by
  have isNew : (world.tables.event handed.delivery.event.eventId).isSome = false := unclaimed
  unfold process
  rw [ensures_tx]
  simp only [memoryTx, isNew, Bool.false_eq_true, if_false, Prog.thenEnsures_ok, if_true]
  simp only [Handed.delivery, Report.event] at rest ⊢
  unfold processSubscription
  rw [ensures_tx]
  simp only [memoryTx, Prog.thenEnsures_ok]
  have named : ((world.tables.putEvent handed.report.event handed.time).customer
      handed.report.s.customerRef).map CustomerRow.userId = some userId := bound
  simp only [Report.event] at named
  rw [named]
  simpa [Option.filter, account] using rest

theorem ensures_settle_event {event : BillingEvent} {outcome : EventOutcome}
    {user reason : Option String} {accounts : List String} :
    (settle event outcome user reason).Ensures (memoryTx accounts).effects world
      fun ended after => ended = .ok ⟨outcome.toOutcome, user, reason⟩ ∧
        after = { world with tables := world.tables.setEventOutcome event.eventId outcome } := by
  unfold settle
  rw [ensures_tx]
  simp only [memoryTx, Prog.thenEnsures_ok, Prog.ensures_pure, and_self]

/-- An event older than what is stored only claims its id. -/
theorem processInMemory_of_stale (account : userId ≠ "")
    (unclaimed : world.tables.claimed handed.report.eventId = false)
    (bound : (world.tables.customer handed.report.s.customerRef).map CustomerRow.userId =
      some userId)
    {row : StoredSubscription}
    (stored : world.tables.subscription handed.report.s.subscriptionRef = some row)
    (isMine : row.userId = userId) (older : handed.report.occurredAt < row.providerStateAt) :
    processInMemory deps handed.delivery world =
      (.ok ⟨.stale, some userId, some "older_than_stored"⟩,
        ⟨(world.tables.putEvent handed.report.event handed.time).setEventOutcome
          handed.report.eventId .stale, world.access⟩) := by
  apply processInMemory_of_ensures
  apply process_of_bound account unclaimed bound
  have there : (world.tables.putEvent handed.report.event handed.time).subscription
      handed.report.s.subscriptionRef = some row := stored
  unfold processFor
  rw [ensures_tx]
  simp only [memoryTx, Prog.thenEnsures_ok]
  rw [ensures_tx]
  have isOlder : decide (handed.report.event.occurredAt < row.providerStateAt) = true :=
    decide_eq_true older
  simp only [memoryTx, Prog.thenEnsures_ok, there, Option.any_some, isMine, bne_self_eq_false,
    Bool.false_eq_true, if_false, isOlder, if_true]
  exact ensures_settle_event

/-- An event that is not: its state is stored, and billing's row synchronised. -/
theorem processInMemory_of_newer (account : userId ≠ "")
    (unclaimed : world.tables.claimed handed.report.eventId = false)
    (bound : (world.tables.customer handed.report.s.customerRef).map CustomerRow.userId =
      some userId)
    (priced : (deps.offerFor handed.report.s.priceRef).isSome = true)
    (notOlder : ∀ row, world.tables.subscription handed.report.s.subscriptionRef = some row →
      row.userId = userId ∧ ¬ handed.report.occurredAt < row.providerStateAt)
    {desired : SyncRequest} {changed : MutationResult} {access : InMemoryAccessStore}
    (isDesired : desiredEntitlement (mine userId (world.tables.putSubscription
      (carried deps userId handed.report handed.time))) deps.policy = .ok (some desired))
    (mutates : world.access.mutate
      ⟨{ userId := userId
         source := some .billing
         action := .sync
         actor := "billing." ++ deps.provider
         reason := reasonFor handed.report.event
         sync := some desired }, handed.now, handed.accounts⟩ = (.ok changed, access)) :
    processInMemory deps handed.delivery world =
      (.ok ⟨.applied, some userId, none⟩,
        ⟨((world.tables.putEvent handed.report.event handed.time).putSubscription
            (carried deps userId handed.report handed.time)).setEventOutcome
          handed.report.eventId .applied, access⟩) := by
  apply processInMemory_of_ensures
  apply process_of_bound account unclaimed bound
  obtain ⟨offer, isOffer⟩ := Option.isSome_iff_exists.mp priced
  have isCarried : carried deps userId handed.report handed.time =
      storedFrom handed.report.event handed.report.s userId offer.planId handed.time := by
    rw [carried, isOffer]
    rfl
  rw [isCarried] at isDesired ⊢
  have sameStored : (world.tables.putEvent handed.report.event handed.time).subscription
      handed.report.s.subscriptionRef =
        world.tables.subscription handed.report.s.subscriptionRef := rfl
  have notForeign : (world.tables.subscription handed.report.s.subscriptionRef).any
      (·.userId != userId) = false := by
    cases stored : world.tables.subscription handed.report.s.subscriptionRef with
    | none => rfl
    | some row => simp [(notOlder row stored).1]
  have notStale : ((world.tables.subscription handed.report.s.subscriptionRef).any fun stored =>
      decide (handed.report.event.occurredAt < stored.providerStateAt)) = false := by
    cases stored : world.tables.subscription handed.report.s.subscriptionRef with
    | none => rfl
    | some row => exact decide_eq_false (notOlder row stored).2
  unfold processFor
  rw [ensures_tx]
  simp only [memoryTx, Prog.thenEnsures_ok]
  rw [ensures_tx]
  simp only [memoryTx, Prog.thenEnsures_ok, sameStored, notForeign, notStale, Bool.false_eq_true,
    if_false, isOffer]
  rw [ensures_tx]
  simp only [memoryTx, Prog.thenEnsures_ok]
  rw [ensures_tx]
  simp only [memoryTx, Prog.thenEnsures_ok]
  rw [Prog.ensures_bind, Prog.ensures_settle]
  have asks : desiredEntitlement
      (((world.tables.putEvent handed.report.event handed.time).putSubscription
        (storedFrom handed.report.event handed.report.s userId offer.planId
          handed.time)).subscriptions.filter (·.userId == userId)) deps.policy =
        .ok (some desired) := isDesired
  rw [asks, Prog.thenEnsures_ok]
  simp only
  rw [ensures_tx]
  simp only [memoryTx, mutates, thrownFrom, Prog.thenEnsures_ok]
  exact ensures_settle_event

/-- What an account's subscriptions ask for does not depend on when they were delivered. -/
theorem Synced.mono {more : List Handed} {after : BillingWorld InMemoryAccessStore}
    (synced : Synced deps userId done world)
    (subscriptions : after.tables.subscriptions = world.tables.subscriptions)
    (access : after.access = world.access) (kept : ∀ handed ∈ done, handed ∈ more) :
    Synced deps userId more after := by
  have sameMine : mine userId after.tables = mine userId world.tables := by
    rw [mine, mine, subscriptions]
  cases synced with
  | none noneMine noRow =>
      exact .none (by rw [sameMine]; exact noneMine) (by rw [access]; exact noRow)
  | opened chosen isActive row isOpen =>
      exact .opened (by rw [sameMine]; exact chosen) isActive (by rw [access]; exact row) isOpen
  | closed chosen isInactive isClosed =>
      apply Synced.closed (by rw [sameMine]; exact chosen) isInactive
      intro entry row time past
      rw [access] at row
      exact isClosed entry row time fun handed member => past handed (kept handed member)

/-- A delivery that stores nothing: its subscription is already in the state of an event as new. -/
theorem Delivered.noted {after : BillingWorld InMemoryAccessStore}
    (delivered : Delivered deps userId start done world)
    (customers : after.tables.customers = world.tables.customers)
    (subscriptions : after.tables.subscriptions = world.tables.subscriptions)
    (access : after.access = world.access)
    (claims : ∀ eventId, after.tables.claimed eventId =
      (world.tables.claimed eventId || handed.report.eventId == eventId))
    (known : ∃ row, world.tables.subscription handed.report.s.subscriptionRef = some row ∧
      row.userId = userId ∧ handed.report.occurredAt ≤ row.providerStateAt) :
    Delivered deps userId start (done ++ [handed]) after := by
  have sameRow : ∀ ref, after.tables.subscription ref = world.tables.subscription ref := by
    intro ref
    rw [BillingTables.subscription, BillingTables.subscription, subscriptions]
  constructor
  · exact customers.trans delivered.customers
  · intro eventId
    rw [claims, delivered.claims, List.any_append, Bool.or_assoc]
    simp
  · intro row member isMine
    rw [subscriptions] at member
    obtain ⟨earlier, inDone, isCarried⟩ := delivered.rows row member isMine
    exact ⟨earlier, List.mem_append_left _ inDone, isCarried⟩
  · intro earlier member
    rw [sameRow]
    rcases List.mem_append.mp member with inDone | isLast
    · exact delivered.latest earlier inDone
    · rw [List.mem_singleton.mp isLast]
      exact known
  · intro ref unseen
    rw [sameRow]
    exact delivered.unseen ref fun earlier inDone => unseen earlier (List.mem_append_left _ inDone)
  · rw [access]
    exact delivered.operator
  · rw [access]
    exact delivered.steady
  · exact delivered.synced.mono subscriptions access fun earlier inDone =>
      List.mem_append_left _ inDone

/-- What is stored of a reported subscription is the account's. -/
theorem stored_mine (deliverable : Deliverable deps userId start reports)
    (delivered : Delivered deps userId start done world) {report : Report}
    (member : report ∈ reports) {row : StoredSubscription}
    (stored : world.tables.subscription report.s.subscriptionRef = some row) :
    row.userId = userId := by
  by_cases seen : ∃ earlier ∈ done,
      earlier.report.s.subscriptionRef = report.s.subscriptionRef
  · obtain ⟨earlier, inDone, sameRef⟩ := seen
    obtain ⟨other, isStored, isMine, _⟩ := delivered.latest earlier inDone
    rw [sameRef, stored] at isStored
    cases isStored
    exact isMine
  · have untouched := delivered.unseen report.s.subscriptionRef fun earlier inDone sameRef =>
      seen ⟨earlier, inDone, sameRef⟩
    rw [stored, (deliverable.fresh report member).2] at untouched
    cases untouched

/-- A claimed id is that of an event delivered before. -/
theorem delivered_of_claimed (deliverable : Deliverable deps userId start reports)
    (delivered : Delivered deps userId start done world)
    (inTime : ∀ earlier ∈ done, InTime userId reports earlier) {report : Report}
    (member : report ∈ reports) (isClaimed : world.tables.claimed report.eventId = true) :
    ∃ earlier ∈ done, earlier.report = report := by
  rw [delivered.claims, (deliverable.fresh report member).1, Bool.false_or,
    List.any_eq_true] at isClaimed
  obtain ⟨earlier, inDone, sameId⟩ := isClaimed
  exact ⟨earlier, inDone, deliverable.ids _ (inTime earlier inDone).report _ member
    (beq_iff_eq.mp sameId)⟩

theorem mem_mine {tables : BillingTables} {row : StoredSubscription} :
    row ∈ mine userId tables ↔ row ∈ tables.subscriptions ∧ row.userId = userId := by
  simp [mine]

/-- The subscriptions after one more is stored are again those of delivered events. -/
theorem rows_putSubscription (delivered : Delivered deps userId start done world)
    {row : StoredSubscription}
    (member : row ∈ (world.tables.putSubscription
      (carried deps userId handed.report handed.time)).subscriptions)
    (isMine : row.userId = userId) :
    ∃ earlier ∈ done ++ [handed], row = carried deps userId earlier.report earlier.time := by
  rcases Keyed.mem_put member with isNew | wasThere
  · exact ⟨handed, List.mem_append_right _ List.mem_cons_self, isNew⟩
  · obtain ⟨earlier, inDone, isCarried⟩ := delivered.rows row wasThere isMine
    exact ⟨earlier, List.mem_append_left _ inDone, isCarried⟩

theorem subscription_carried (tables : BillingTables) (report : Report) (time : Instant)
    (ref : String) :
    (tables.putSubscription (carried deps userId report time)).subscription ref =
      if report.s.subscriptionRef = ref then some (carried deps userId report time)
      else tables.subscription ref :=
  Keyed.lookup_put ..

/-- A delivery that stores its state, which is no older than the one stored. -/
theorem Delivered.stored {after : BillingWorld InMemoryAccessStore}
    (delivered : Delivered deps userId start done world)
    (customers : after.tables.customers = world.tables.customers)
    (subscriptions : after.tables.subscriptions = (world.tables.putSubscription
      (carried deps userId handed.report handed.time)).subscriptions)
    (claims : ∀ eventId, after.tables.claimed eventId =
      (world.tables.claimed eventId || handed.report.eventId == eventId))
    (notOlder : ∀ row, world.tables.subscription handed.report.s.subscriptionRef = some row →
      row.userId = userId ∧ ¬ handed.report.occurredAt < row.providerStateAt)
    (operator : after.access.row userId .operator = world.access.row userId .operator)
    (steady : ∀ entry, after.access.row userId .billing = some entry → Steady (snapshot entry))
    (synced : Synced deps userId (done ++ [handed]) after) :
    Delivered deps userId start (done ++ [handed]) after := by
  have found : ∀ ref, after.tables.subscription ref =
      if handed.report.s.subscriptionRef = ref then
        some (carried deps userId handed.report handed.time)
      else world.tables.subscription ref := by
    intro ref
    rw [← subscription_carried, BillingTables.subscription, subscriptions]
    rfl
  constructor
  · exact customers.trans delivered.customers
  · intro eventId
    rw [claims, delivered.claims, List.any_append, Bool.or_assoc]
    simp
  · intro row member isMine
    rw [subscriptions] at member
    exact rows_putSubscription delivered member isMine
  · intro earlier member
    rw [found]
    by_cases sameRef : handed.report.s.subscriptionRef = earlier.report.s.subscriptionRef
    · rw [if_pos sameRef]
      refine ⟨_, rfl, rfl, ?_⟩
      rcases List.mem_append.mp member with inDone | inLast
      · obtain ⟨row, stored, _, noLater⟩ := delivered.latest earlier inDone
        rw [← sameRef] at stored
        exact Int.le_trans noLater (Int.not_lt.mp (notOlder row stored).2)
      · rw [List.mem_singleton.mp inLast]
        exact Int.le_refl _
    · rw [if_neg sameRef]
      rcases List.mem_append.mp member with inDone | inLast
      · exact delivered.latest earlier inDone
      · rw [List.mem_singleton.mp inLast] at sameRef
        exact absurd rfl sameRef
  · intro ref unseen
    rw [found, if_neg (unseen handed (List.mem_append_right _ List.mem_cons_self))]
    exact delivered.unseen ref fun earlier inDone => unseen earlier (List.mem_append_left _ inDone)
  · exact operator.trans delivered.operator
  · exact steady
  · exact synced

/-- The account is not suspended: the operator's row is as at the start, and billing's was never touched
    by an operator. -/
theorem Delivered.free (delivered : Delivered deps userId start done world)
    (deliverable : Deliverable deps userId start reports) {source : GrantedVia}
    {entry : Entitlement} (found : world.access.row userId source = some entry) :
    entry.status ≠ .suspended := by
  cases source with
  | operator =>
      rw [delivered.operator] at found
      exact deliverable.free entry found
  | billing =>
      have isActive : entry.status = .active := (delivered.steady entry found).1
      rw [isActive]
      intro impossible
      cases impossible

/-- What billing asks for once a delivered state is stored: the chosen one of the windows, which is a
    window from a date. -/
theorem desired_of_stored (deliverable : Deliverable deps userId start reports)
    (delivered : Delivered deps userId start done world)
    (inTime : ∀ earlier ∈ done ++ [handed], InTime userId reports earlier) :
    let stored := mine userId (world.tables.putSubscription
      (carried deps userId handed.report handed.time))
    ∃ desired, desiredEntitlement stored deps.policy = .ok (some desired) ∧
      Chosen (stored.map (requestOf deps.policy)) desired ∧
      desired.startsAt < desired.expiresAt ∧ InRange desired.startsAt := by
  intro stored
  have rows : ∀ row ∈ stored,
      ∃ earlier ∈ done ++ [handed], row = carried deps userId earlier.report earlier.time := by
    intro row member
    obtain ⟨isStored, isMine⟩ := mem_mine.mp member
    exact rows_putSubscription delivered isStored isMine
  have each : ∀ row ∈ stored,
      entitlementFor row deps.policy = .ok (requestOf deps.policy row) := by
    intro row member
    obtain ⟨earlier, inDone, isCarried⟩ := rows row member
    rw [isCarried, entitlementFor_carried deliverable (inTime earlier inDone).report,
      requestOf_carried]
  have nonempty : stored ≠ [] := by
    have isStored : (world.tables.putSubscription (carried deps userId handed.report
        handed.time)).subscription handed.report.s.subscriptionRef =
          some (carried deps userId handed.report handed.time) :=
      (subscription_carried ..).trans (if_pos rfl)
    exact List.ne_nil_of_mem (mem_mine.mpr ⟨Keyed.mem_of_lookup isStored, rfl⟩)
  obtain ⟨desired, isDesired, chosen⟩ := desiredEntitlement_chosen each nonempty
  refine ⟨desired, isDesired, chosen, ?_⟩
  obtain ⟨row, member, isRequest⟩ := List.mem_map.mp chosen.mem
  obtain ⟨earlier, inDone, isCarried⟩ := rows row member
  rw [← isRequest, isCarried, requestOf_carried]
  exact asked_window deliverable (inTime earlier inDone).report

/-- A newer event is stored, and the row synchronised with what is then asked for. -/
theorem delivered_newer (deliverable : Deliverable deps userId start reports)
    (delivered : Delivered deps userId start done world)
    (inTime : ∀ earlier ∈ done ++ [handed], InTime userId reports earlier)
    (unclaimed : world.tables.claimed handed.report.eventId = false)
    (notOlder : ∀ row, world.tables.subscription handed.report.s.subscriptionRef = some row →
      row.userId = userId ∧ ¬ handed.report.occurredAt < row.providerStateAt) :
    ∃ result after, processInMemory deps handed.delivery world = (.ok result, after) ∧
      Delivered deps userId start (done ++ [handed]) after := by
  have isLast : handed ∈ done ++ [handed] := List.mem_append_right _ List.mem_cons_self
  have here := inTime handed isLast
  obtain ⟨desired, isDesired, chosen, nonempty, starts⟩ :=
    desired_of_stored deliverable delivered inTime
  let call : AccessCall :=
    ⟨{ userId := userId
       source := some .billing
       action := .sync
       actor := "billing." ++ deps.provider
       reason := reasonFor handed.report.event
       sync := some desired }, handed.now, handed.accounts⟩
  obtain ⟨changed, access, mutates, others, opens, closes⟩ :=
    mutate_sync (rfl : call.input.userId = userId) rfl rfl rfl here.account nonempty starts
      here.clock (fun _ _ => delivered.free deliverable) delivered.steady
  refine ⟨_, _, processInMemory_of_newer deliverable.account unclaimed
    (bound_of_delivered deliverable delivered here.report)
    (deliverable.priced _ here.report) notOlder isDesired mutates, ?_⟩
  apply Delivered.stored delivered
  · rfl
  · rfl
  · intro eventId
    rw [claimed_setEventOutcome]
    exact (claimed_putEvent ..).trans (Bool.or_comm ..)
  · exact notOlder
  · exact others userId .operator fun same => nomatch same.2
  · intro entry row
    cases isActive : desired.active with
    | true =>
        obtain ⟨opened, found, isOpen⟩ := opens isActive
        rw [found] at row
        cases row
        rw [isOpen]
        exact ⟨rfl, starts⟩
    | false => exact (closes isActive entry row).1
  · cases isActive : desired.active with
    | true =>
        obtain ⟨opened, found, isOpen⟩ := opens isActive
        exact .opened chosen isActive found isOpen
    | false =>
        apply Synced.closed chosen isActive
        intro entry row time past
        obtain ⟨expiresAt, isEnd, isOver⟩ := (closes isActive entry row).2
        exact ⟨expiresAt, isEnd, Int.le_trans isOver (past handed isLast)⟩

/-- Each delivery returns, and leaves what was delivered delivered. -/
theorem delivered_step (deliverable : Deliverable deps userId start reports)
    (delivered : Delivered deps userId start done world)
    (inTime : ∀ earlier ∈ done ++ [handed], InTime userId reports earlier) :
    ∃ result after, processInMemory deps handed.delivery world = (.ok result, after) ∧
      Delivered deps userId start (done ++ [handed]) after := by
  have isReport := (inTime handed (List.mem_append_right _ List.mem_cons_self)).report
  have bound := bound_of_delivered deliverable delivered isReport
  cases isClaimed : world.tables.claimed handed.report.eventId with
  | true =>
      refine ⟨_, world, processInMemory_of_claimed isClaimed, ?_⟩
      obtain ⟨earlier, inDone, same⟩ := delivered_of_claimed deliverable delivered
        (fun earlier inDone => inTime earlier (List.mem_append_left _ inDone)) isReport isClaimed
      apply delivered.noted rfl rfl rfl
      · intro eventId
        by_cases sameId : handed.report.eventId = eventId
        · rw [← sameId, isClaimed, Bool.true_or]
        · rw [beq_eq_false_iff_ne.mpr sameId, Bool.or_false]
      · rw [← same]
        exact delivered.latest earlier inDone
  | false =>
      by_cases stale : ∃ row,
          world.tables.subscription handed.report.s.subscriptionRef = some row ∧
            handed.report.occurredAt < row.providerStateAt
      · obtain ⟨row, stored, older⟩ := stale
        have isMine := stored_mine deliverable delivered isReport stored
        refine ⟨_, _, processInMemory_of_stale deliverable.account isClaimed bound stored isMine
          older, ?_⟩
        apply Delivered.noted delivered
        · rfl
        · rfl
        · rfl
        · intro eventId
          rw [claimed_setEventOutcome]
          exact (claimed_putEvent ..).trans (Bool.or_comm ..)
        · exact ⟨row, stored, isMine, Int.le_of_lt older⟩
      · apply delivered_newer deliverable delivered inTime isClaimed
        intro row stored
        exact ⟨stored_mine deliverable delivered isReport stored,
          fun older => stale ⟨row, stored, older⟩⟩

/-! ### Every order -/

theorem delivered_start (deliverable : Deliverable deps userId start reports) :
    Delivered deps userId start [] start := by
  constructor
  · rfl
  · intro eventId
    simp
  · intro row member isMine
    exact absurd isMine (deliverable.unsubscribed row member)
  · intro handed member
    exact absurd member List.not_mem_nil
  · intro ref _
    rfl
  · rfl
  · intro entry found
    rw [deliverable.unbilled] at found
    cases found
  · apply Synced.none _ deliverable.unbilled
    rw [mine, List.filter_eq_nil_iff]
    intro row member isMine
    exact deliverable.unsubscribed row member (beq_iff_eq.mp isMine)

/-- The calls that deliver them. -/
def deliveries (order : List Handed) : List BillingCall :=
  order.map fun handed => .process handed.delivery

theorem delivered_deliveries (deliverable : Deliverable deps userId start reports)
    (delivered : Delivered deps userId start done world) (order : List Handed)
    (inTime : ∀ handed ∈ done ++ order, InTime userId reports handed) :
    Delivered deps userId start (done ++ order)
      ((memoryBilling deps).after world (deliveries order)) := by
  induction order generalizing done world with
  | nil =>
      rw [List.append_nil]
      exact delivered
  | cons handed order ih =>
      rw [List.append_cons] at inTime ⊢
      obtain ⟨result, after, processed, next⟩ := delivered_step deliverable delivered
        fun earlier member => inTime earlier (List.mem_append_left _ member)
      have rest := ih next inTime
      have isNext : ((memoryBilling deps).step world (.process handed.delivery)).2 = after := by
        simp only [processed]
      rw [deliveries, List.map_cons, Object.after, isNext]
      exact rest

theorem delivered_of_inTime (deliverable : Deliverable deps userId start reports)
    {order : List Handed} (inTime : ∀ handed ∈ order, InTime userId reports handed) :
    Delivered deps userId start order ((memoryBilling deps).after start (deliveries order)) :=
  delivered_deliveries deliverable (delivered_start deliverable) order inTime

/-- The newest event of its subscription. -/
def Newest (reports : List Report) (report : Report) : Prop :=
  report ∈ reports ∧ ∀ other ∈ reports,
    other.s.subscriptionRef = report.s.subscriptionRef → other.occurredAt ≤ report.occurredAt

/-- An order in which every event is delivered, once or more, and nothing else. -/
structure Delivers (userId : String) (reports : List Report) (order : List Handed) : Prop where
  inTime : ∀ handed ∈ order, InTime userId reports handed
  every : ∀ report ∈ reports, ∃ handed ∈ order, handed.report = report

/-- Once every event was delivered, a subscription is in the state of its newest one. -/
theorem stored_of_newest (deliverable : Deliverable deps userId start reports)
    (delivers : Delivers userId reports done)
    (delivered : Delivered deps userId start done world) {report : Report}
    (newest : Newest reports report) :
    ∃ time, world.tables.subscription report.s.subscriptionRef =
      some (carried deps userId report time) := by
  obtain ⟨handed, inDone, isReport⟩ := delivers.every report newest.1
  obtain ⟨row, stored, isMine, noEarlier⟩ := delivered.latest handed inDone
  obtain ⟨last, inOrder, isCarried⟩ :=
    delivered.rows row (Keyed.mem_of_lookup stored) isMine
  have sameRef : last.report.s.subscriptionRef = report.s.subscriptionRef := by
    have key := Keyed.key_of_lookup stored
    rw [isCarried, isReport] at key
    exact key
  have isLast := (delivers.inTime last inOrder).report
  rw [isCarried, isReport] at noEarlier
  have same := deliverable.times _ isLast _ newest.1 sameRef
    (Int.le_antisymm (newest.2 _ isLast sameRef) noEarlier)
  rw [isReport, isCarried, same] at stored
  exact ⟨last.time, stored⟩

/-- And what the account's subscriptions ask for is what their newest events ask for. -/
theorem requests_of_newest (deliverable : Deliverable deps userId start reports)
    (delivers : Delivers userId reports done)
    (delivered : Delivered deps userId start done world) (request : SyncRequest) :
    request ∈ (mine userId world.tables).map (requestOf deps.policy) ↔
      ∃ report, Newest reports report ∧ asked deps userId report = request := by
  constructor
  · intro member
    obtain ⟨row, inMine, isRequest⟩ := List.mem_map.mp member
    obtain ⟨inTables, isMine⟩ := mem_mine.mp inMine
    obtain ⟨handed, inDone, isCarried⟩ := delivered.rows row inTables isMine
    refine ⟨handed.report, ⟨(delivers.inTime handed inDone).report, ?_⟩, ?_⟩
    · intro other inReports sameRef
      obtain ⟨otherHanded, inOrder, isOther⟩ := delivers.every other inReports
      obtain ⟨stored, found, _, noEarlier⟩ := delivered.latest otherHanded inOrder
      have isRow : world.tables.subscription row.subscriptionRef = some row :=
        Keyed.lookup_of_mem world.tables.subscriptionKeys inTables
      have isRef : row.subscriptionRef = handed.report.s.subscriptionRef := by
        rw [isCarried]
        rfl
      rw [isOther, sameRef, ← isRef, isRow] at found
      cases found
      rw [isOther, isCarried] at noEarlier
      exact noEarlier
    · rw [← isRequest, isCarried, requestOf_carried]
  · intro isAsked
    obtain ⟨report, newest, isRequest⟩ := isAsked
    obtain ⟨time, stored⟩ := stored_of_newest deliverable delivers delivered newest
    apply List.mem_map.mpr
    refine ⟨_, mem_mine.mpr ⟨Keyed.mem_of_lookup stored, rfl⟩, ?_⟩
    rw [requestOf_carried, isRequest]

/-- Two newest events with one end are one event. -/
theorem newest_unique (deliverable : Deliverable deps userId start reports) {a b : Report}
    (isNewest : Newest reports a) (isNewest' : Newest reports b)
    (sameEnd : (asked deps userId a).expiresAt = (asked deps userId b).expiresAt) : a = b := by
  have sameRef := deliverable.ends a isNewest.1 b isNewest'.1 sameEnd
  exact deliverable.times a isNewest.1 b isNewest'.1 sameRef
    (Int.le_antisymm (isNewest'.2 a isNewest.1 sameRef) (isNewest.2 b isNewest'.1 sameRef.symm))

/-- A subscription's state is never replaced by an older one. -/
theorem providerStateAt_mono (deliverable : Deliverable deps userId start reports)
    {more : List Handed} {after : BillingWorld InMemoryAccessStore}
    (inTime : ∀ handed ∈ done ++ more, InTime userId reports handed)
    (delivered : Delivered deps userId start done world)
    (deliveredMore : Delivered deps userId start (done ++ more) after) {ref : String}
    {row : StoredSubscription} (stored : world.tables.subscription ref = some row) :
    ∃ next, after.tables.subscription ref = some next ∧
      row.providerStateAt ≤ next.providerStateAt := by
  by_cases seen : ∃ handed ∈ done, handed.report.s.subscriptionRef = ref
  · obtain ⟨handed, inDone, isRef⟩ := seen
    have isMine : row.userId = userId := by
      rw [← isRef] at stored
      have inReports := (inTime handed (List.mem_append_left _ inDone)).report
      exact stored_mine deliverable delivered inReports stored
    obtain ⟨source, inOrder, isCarried⟩ :=
      delivered.rows row (Keyed.mem_of_lookup stored) isMine
    obtain ⟨next, found, _, noEarlier⟩ :=
      deliveredMore.latest source (List.mem_append_left _ inOrder)
    have sameRef : source.report.s.subscriptionRef = ref := by
      have key := Keyed.key_of_lookup stored
      rw [isCarried] at key
      exact key
    rw [sameRef] at found
    rw [isCarried]
    exact ⟨next, found, noEarlier⟩
  · -- A row no delivery has touched is from the start, under a reference that no event has.
    have untouched := delivered.unseen ref fun handed inDone isRef => seen ⟨handed, inDone, isRef⟩
    rw [stored] at untouched
    have stays := deliveredMore.unseen ref fun handed member isRef => by
      have fresh := (deliverable.fresh _ (inTime handed member).report).2
      rw [isRef, ← untouched] at fresh
      cases fresh
    exact ⟨row, stays.trans untouched.symm, Int.le_refl _⟩

theorem evaluateAccess_of_snapshot {a b : Entitlement} (same : snapshot a = snapshot b)
    (time : Instant) : evaluateAccess (some a) time = evaluateAccess (some b) time := by
  have status : a.status = b.status := congrArg EntitlementSnapshot.status same
  have startsAt : a.startsAt = b.startsAt := congrArg EntitlementSnapshot.startsAt same
  have expiresAt : a.expiresAt = b.expiresAt := congrArg EntitlementSnapshot.expiresAt same
  simp only [evaluateAccess, status, startsAt, expiresAt]

theorem evaluateAccess_of_closed {entry : Entitlement} {time : Instant}
    (isClosed : ClosedBy time (snapshot entry)) :
    (evaluateAccess (some entry) time).active = false := by
  obtain ⟨expiresAt, isEnd, isOver⟩ := isClosed
  have ends : entry.expiresAt = some expiresAt := isEnd
  have past : (entry.expiresAt.any fun expiresAt => decide (expiresAt ≤ time)) = true := by
    rw [ends]
    exact decide_eq_true isOver
  simp only [evaluateAccess, past, if_true]
  split
  · rfl
  split
  · rfl
  split
  · rfl
  · rfl

/-- Billing's row is not active and nothing entitles, or it is what an entitling window asks for. -/
theorem Synced.row_cases (synced : Synced deps userId done world) :
    ((∀ request ∈ (mine userId world.tables).map (requestOf deps.policy),
        request.active = false) ∧
      ∀ time, (∀ handed ∈ done, handed.now ≤ time) →
        (evaluateAccess (world.access.row userId .billing) time).active = false) ∨
    ∃ desired entry, Chosen ((mine userId world.tables).map (requestOf deps.policy)) desired ∧
      desired.active = true ∧ world.access.row userId .billing = some entry ∧
      snapshot entry = openedBy desired := by
  cases synced with
  | none noneMine noRow =>
      left
      rw [noneMine, noRow]
      constructor
      · intro request member
        exact absurd member List.not_mem_nil
      · intro time _
        rfl
  | opened chosen isActive row isOpen => exact .inr ⟨_, _, chosen, isActive, row, isOpen⟩
  | closed chosen isInactive isClosed =>
      left
      constructor
      · intro request member
        cases isActive : request.active with
        | false => rfl
        | true =>
            rw [(chosen.active request member isActive).1] at isInactive
            cases isInactive
      · intro time past
        cases row : world.access.row userId .billing with
        | none => rfl
        | some entry => exact evaluateAccess_of_closed (isClosed entry row time past)

/-- Two worlds whose subscriptions ask for the same, no two with one end: neither row is active, or both
    are the same. -/
theorem Synced.agree {other : List Handed} {world' : BillingWorld InMemoryAccessStore}
    (synced : Synced deps userId done world) (syncedOther : Synced deps userId other world')
    (sameRequests : ∀ request, request ∈ (mine userId world.tables).map (requestOf deps.policy) ↔
      request ∈ (mine userId world'.tables).map (requestOf deps.policy))
    (ends : ∀ a ∈ (mine userId world.tables).map (requestOf deps.policy),
      ∀ b ∈ (mine userId world.tables).map (requestOf deps.policy),
      a.expiresAt = b.expiresAt → a = b) :
    ((∀ request ∈ (mine userId world.tables).map (requestOf deps.policy),
        request.active = false) ∧ ∀ time, (∀ handed ∈ done ++ other, handed.now ≤ time) →
          (evaluateAccess (world.access.row userId .billing) time).active = false ∧
            (evaluateAccess (world'.access.row userId .billing) time).active = false) ∨
      ∃ entry same, world.access.row userId .billing = some entry ∧
        world'.access.row userId .billing = some same ∧ snapshot entry = snapshot same := by
  rcases synced.row_cases with ⟨noneActive, closed⟩ |
      ⟨desired, entry, chosen, isActive, found, isOpen⟩
  · rcases syncedOther.row_cases with ⟨_, closedOther⟩ |
        ⟨desired, entry, chosen, isActive, _, _⟩
    · left
      refine ⟨noneActive, ?_⟩
      intro time past
      exact ⟨closed time fun handed member => past handed (List.mem_append_left _ member),
        closedOther time fun handed member => past handed (List.mem_append_right _ member)⟩
    · have inactive := noneActive desired ((sameRequests desired).mpr chosen.mem)
      rw [isActive] at inactive
      cases inactive
  · rcases syncedOther.row_cases with ⟨noneActive, _⟩ |
        ⟨desired', entry', chosen', _, found', isOpen'⟩
    · have inactive := noneActive desired ((sameRequests desired).mp chosen.mem)
      rw [isActive] at inactive
      cases inactive
    · right
      refine ⟨entry, entry', found, found', ?_⟩
      rw [isOpen, isOpen', chosen_unique sameRequests ends chosen chosen']

/-- For every set of events of one account and every two orders of delivery, with any repetitions: each
    subscription ends in the state of its newest event, its state is never replaced by an older one,
    billing's row is active after the last delivery in both orders or in neither, and where a
    subscription entitles, the row is the same. -/
theorem delivery_order_irrelevant (deliverable : Deliverable deps userId start reports)
    {order other : List Handed} (delivers : Delivers userId reports order)
    (deliversOther : Delivers userId reports other) :
    let after := fun order => (memoryBilling deps).after start (deliveries order)
    let row := fun order => (after order).access.row userId .billing
    (∀ report, Newest reports report → ∃ time,
        (after order).tables.subscription report.s.subscriptionRef =
          some (carried deps userId report time)) ∧
      (∀ before between later, order = before ++ between ++ later → ∀ ref stored,
        (after before).tables.subscription ref = some stored →
        ∃ next, (after (before ++ between)).tables.subscription ref = some next ∧
          stored.providerStateAt ≤ next.providerStateAt) ∧
      (∀ time, (∀ handed ∈ order ++ other, handed.now ≤ time) →
        (evaluateAccess (row order) time).active = (evaluateAccess (row other) time).active) ∧
      ((∃ subscription ∈ mine userId (after order).tables,
          ∃ request, entitlementFor subscription deps.policy = .ok request ∧
            request.active = true) →
        ∃ entry same, row order = some entry ∧ row other = some same ∧
          snapshot entry = snapshot same) := by
  intro after row
  have delivered := delivered_of_inTime deliverable delivers.inTime
  have deliveredOther := delivered_of_inTime deliverable deliversOther.inTime
  have requests := requests_of_newest deliverable delivers delivered
  have requestsOther := requests_of_newest deliverable deliversOther deliveredOther
  have sameRequests := fun request => (requests request).trans (requestsOther request).symm
  have ends : ∀ a ∈ (mine userId (after order).tables).map (requestOf deps.policy),
      ∀ b ∈ (mine userId (after order).tables).map (requestOf deps.policy),
      a.expiresAt = b.expiresAt → a = b := by
    intro a member b member' sameEnd
    obtain ⟨report, newest, rfl⟩ := (requests a).mp member
    obtain ⟨report', newest', rfl⟩ := (requests b).mp member'
    rw [newest_unique deliverable newest newest' sameEnd]
  have rows := delivered.synced.agree deliveredOther.synced sameRequests ends
  refine ⟨?_, ?_, ?_, ?_⟩
  · intro report newest
    exact stored_of_newest deliverable delivers delivered newest
  · intro before between later isOrder ref stored isStored
    have inTime : ∀ handed ∈ before ++ between, InTime userId reports handed := by
      intro handed member
      apply delivers.inTime
      rw [isOrder]
      exact List.mem_append_left _ member
    have deliveredBefore := delivered_of_inTime deliverable
      fun handed member => inTime handed (List.mem_append_left _ member)
    exact providerStateAt_mono deliverable inTime deliveredBefore
      (delivered_of_inTime deliverable inTime) isStored
  · intro time past
    rcases rows with ⟨_, closed⟩ | ⟨entry, same, found, foundOther, isSame⟩
    · rw [(closed time past).1, (closed time past).2]
    · have sameAnswer : evaluateAccess (row order) time = evaluateAccess (row other) time := by
        simp only [row, after, found, foundOther]
        exact evaluateAccess_of_snapshot isSame time
      rw [sameAnswer]
  · intro entitles
    rcases rows with ⟨noneActive, _⟩ | opened
    · obtain ⟨subscription, member, request, isRequest, isActive⟩ := entitles
      have inactive := noneActive _ (List.mem_map_of_mem member)
      rw [requestOf, isRequest] at inactive
      rw [isActive] at inactive
      cases inactive
    · exact opened

end Account

/-! ### A concrete account -/

/-- A customer is bound, and nothing else is stored. -/
def someCustomer : BillingWorld InMemoryAccessStore :=
  ⟨BillingTables.empty.putCustomer ⟨"cus", someStudent, 0⟩, .empty⟩

/-- A report of a subscription that ends at an instant. -/
def someReport (eventId ref : String) (occurredAt : Instant) (status : SubscriptionStatus)
    (ends : Instant) : Report where
  eventId := eventId
  eventType := "subscription.updated"
  occurredAt := occurredAt
  s :=
    { subscriptionRef := ref
      customerRef := "cus"
      priceRef := "price"
      status := status
      currentPeriodStart := 0
      currentPeriodEnd := ends
      cancelAtPeriodEnd := true
      endedAt := none
      clientReference := none }

/-- One subscription is cancelled, another is paid. -/
def someReports : List Report :=
  [someReport "evt-1" "sub-1" 1 .active 100, someReport "evt-2" "sub-1" 2 .canceled 90,
    someReport "evt-3" "sub-2" 1 .active 200]

/-- They are delivered at an instant. -/
def handedAt (now : Instant) (report : Report) : Handed := ⟨report, now, now, [someStudent]⟩

/-- As they occurred. -/
def inOrder : List Handed := someReports.map (handedAt 10)

/-- The other way round, and once more. -/
def outOfOrder : List Handed := (someReports.reverse ++ someReports).map (handedAt 20)

theorem inTime_handedAt {now : Instant} {report : Report} (clock : 0 ≤ now ∧ now ≤ 100)
    (member : report ∈ someReports) : InTime someStudent someReports (handedAt now report) :=
  ⟨member, List.mem_cons_self, clock.1, Int.le_trans clock.2 (by decide)⟩

theorem delivery_order_irrelevant_cancelledAndPaid :
    Newest someReports (someReport "evt-2" "sub-1" 2 .canceled 90) ∧
    (∃ entry same,
      ((memoryBilling someDeps).after someCustomer (deliveries inOrder)).access.row someStudent
          .billing = some entry ∧
        ((memoryBilling someDeps).after someCustomer (deliveries outOfOrder)).access.row someStudent
          .billing = some same ∧
        snapshot entry = snapshot same) := by
  have deliverable : Deliverable someDeps someStudent someCustomer someReports := by
    constructor
    · decide
    · decide
    · decide
    · decide
    · decide
    · decide
    · decide
    · decide
    · decide
    · decide
    · intro entry found
      cases found
    · rfl
  have delivers : Delivers someStudent someReports inOrder := by
    constructor
    · intro handed member
      obtain ⟨report, inReports, rfl⟩ := List.mem_map.mp member
      exact inTime_handedAt (by decide) inReports
    · decide
  have deliversOther : Delivers someStudent someReports outOfOrder := by
    constructor
    · intro handed member
      obtain ⟨report, inReports, rfl⟩ := List.mem_map.mp member
      apply inTime_handedAt (by decide)
      rcases List.mem_append.mp inReports with inReversed | inReports
      · exact List.mem_reverse.mp inReversed
      · exact inReports
    · decide
  refine ⟨⟨by decide, by decide⟩, ?_⟩
  apply (delivery_order_irrelevant deliverable delivers deliversOther).2.2.2
  exact ⟨carried someDeps someStudent (someReport "evt-3" "sub-2" 1 .active 200) 10,
    by decide +kernel, _, rfl, rfl⟩

end JumptotechLabs.Billing
