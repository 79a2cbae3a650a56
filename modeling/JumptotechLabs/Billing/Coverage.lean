/-
Module: JumptotechLabs.Billing.Coverage
Layer: Billing (apps/api/src/billing/lifecycle.ts, service.ts, apps/api/src/access/entitlements.ts)
Purpose: Billing's row covers what is paid for. The request that billing synchronises to and the one of the
  subscription a student is told about are both chosen among the same requests, so they entitle together
  and to the same end; and a synchronised row is open until exactly that end.
Main exports: primarySubscription_chosen, Chosen.agree, Chosen.covers_iff, Applied.synced_to,
  ensures_view, billing_row_covers_paid
-/
import JumptotechLabs.Access.History
import JumptotechLabs.Access.Retries
import JumptotechLabs.Access.Suspension
import JumptotechLabs.Billing.Desired
import JumptotechLabs.Billing.Service

namespace JumptotechLabs.Billing

open JumptotechLabs.Access JumptotechLabs.Core

/-! ### The two choices -/

theorem ranksFirst_trans (a b c : StoredSubscription × SyncRequest) (first : ranksFirst a b = true)
    (second : ranksFirst b c = true) : ranksFirst a c = true := by
  unfold ranksFirst at first second ⊢
  grind

theorem ranksFirst_total (a b : StoredSubscription × SyncRequest) :
    (ranksFirst a b || ranksFirst b a) = true := by
  unfold ranksFirst
  grind

/-- What ranks first entitles if anything does, and then to the last end. -/
theorem chosen_of_ranksFirst {ranked : List (StoredSubscription × SyncRequest)}
    {primary : StoredSubscription × SyncRequest} (member : primary ∈ ranked)
    (first : ∀ other ∈ ranked, ranksFirst primary other = true) :
    Chosen (ranked.map Prod.snd) primary.2 := by
  constructor
  · exact List.mem_map_of_mem member
  · intro request inRequests isActive
    obtain ⟨other, inRanked, rfl⟩ := List.mem_map.mp inRequests
    have before := first other inRanked
    unfold ranksFirst at before
    grind
  · intro isInactive request inRequests
    obtain ⟨other, inRanked, rfl⟩ := List.mem_map.mp inRequests
    have before := first other inRanked
    unfold ranksFirst at before
    grind

theorem mapM_ok_iff {α β : Type} {f : α → Except BillingFailure β} {items : List α} {results : List β}
    (mapped : items.mapM f = .ok results) : ∀ item ∈ items, ∃ result, f item = .ok result := by
  induction items generalizing results with
  | nil => simp
  | cons item items ih =>
      rw [List.mapM_cons] at mapped
      cases isFirst : f item with
      | error failure =>
          rw [isFirst] at mapped
          cases mapped
      | ok result =>
          rw [isFirst] at mapped
          cases rest : items.mapM f with
          | error failure =>
              rw [rest] at mapped
              cases mapped
          | ok others =>
              intro other member
              rcases List.mem_cons.mp member with rfl | inItems
              · exact ⟨result, isFirst⟩
              · exact ih rest other inItems

/-- Where billing finds what it wants, every subscription has a request of its own. -/
theorem requests_of_desired {subscriptions : List StoredSubscription} {policy : BillingPolicy}
    {desired : SyncRequest} (isDesired : desiredEntitlement subscriptions policy = .ok (some desired)) :
    subscriptions ≠ [] ∧ ∃ request : StoredSubscription → SyncRequest,
      ∀ row ∈ subscriptions, entitlementFor row policy = .ok (request row) := by
  unfold desiredEntitlement at isDesired
  split at isDesired
  · cases isDesired
  rename_i someRows
  split at isDesired
  · cases isDesired
  rename_i all mapped
  refine ⟨fun empty => someRows (List.isEmpty_iff.mpr empty), ?_⟩
  refine ⟨fun row => (entitlementFor row policy).toOption.getD default, ?_⟩
  intro row member
  obtain ⟨request, isRequest⟩ := mapM_ok_iff mapped row member
  simp [isRequest, Except.toOption]

/-- The subscription a student is told about is one whose request is chosen. -/
theorem primarySubscription_chosen {subscriptions : List StoredSubscription} {policy : BillingPolicy}
    {request : StoredSubscription → SyncRequest}
    (each : ∀ row ∈ subscriptions, entitlementFor row policy = .ok (request row))
    (someRows : subscriptions ≠ []) :
    ∃ primary ∈ subscriptions, primarySubscription subscriptions policy = .ok (some primary) ∧
      Chosen (subscriptions.map request) (request primary) := by
  have zipped : subscriptions.zip (subscriptions.map request) =
      subscriptions.map fun row => (row, request row) := by
    have both := List.zip_map' (f := id) (g := request) (l := subscriptions)
    rwa [List.map_id] at both
  unfold primarySubscription
  rw [if_neg fun empty => someRows (List.isEmpty_iff.mp empty), mapM_ok each]
  simp only [zipped]
  cases isHead : ((subscriptions.map fun row => (row, request row)).mergeSort ranksFirst).head? with
  | none => exact absurd (List.map_eq_nil_iff.mp (head_mergeSort_eq_none isHead)) someRows
  | some primary =>
      obtain ⟨member, first⟩ := head_mergeSort ranksFirst_trans ranksFirst_total isHead
      have chosen := chosen_of_ranksFirst member first
      obtain ⟨row, inRows, rfl⟩ := List.mem_map.mp member
      rw [List.map_map] at chosen
      exact ⟨row, inRows, rfl, chosen⟩

/-- Two choices among the same requests entitle together, and to the same end. -/
theorem Chosen.agree {requests : List SyncRequest} {request request' : SyncRequest}
    (chosen : Chosen requests request) (chosen' : Chosen requests request') :
    request.active = request'.active ∧ request.expiresAt = request'.expiresAt := by
  cases isActive : request.active with
  | true =>
      obtain ⟨isActive', le⟩ := chosen'.active request chosen.mem isActive
      have ge := (chosen.active request' chosen'.mem isActive').2
      exact ⟨isActive'.symm, Int.le_antisymm le ge⟩
  | false =>
      have isInactive' : request'.active = false := by
        apply eq_false_of_ne_true
        intro isActive'
        have impossible := (chosen.active request' chosen'.mem isActive').1
        rw [isActive] at impossible
        cases impossible
      have le := chosen'.inactive isInactive' request chosen.mem
      have ge := chosen.inactive isActive request' chosen'.mem
      exact ⟨isInactive'.symm, Int.le_antisymm le ge⟩

/-- The chosen request entitles at an instant exactly if some request does. -/
theorem Chosen.covers_iff {subscriptions : List StoredSubscription} {policy : BillingPolicy}
    {request : StoredSubscription → SyncRequest} {desired : SyncRequest}
    (each : ∀ row ∈ subscriptions, entitlementFor row policy = .ok (request row))
    (chosen : Chosen (subscriptions.map request) desired) (time : Instant) :
    (desired.active = true ∧ time < desired.expiresAt) ↔
      ∃ row ∈ subscriptions, ∃ own, entitlementFor row policy = .ok own ∧ own.active = true ∧
        time < own.expiresAt := by
  constructor
  · intro covers
    obtain ⟨row, member, rfl⟩ := List.mem_map.mp chosen.mem
    exact ⟨row, member, request row, each row member, covers⟩
  · intro covered
    obtain ⟨row, member, own, isOwn, isActive, inside⟩ := covered
    rw [each row member] at isOwn
    cases isOwn
    obtain ⟨active, later⟩ := chosen.active _ (List.mem_map_of_mem member) isActive
    exact ⟨active, Int.lt_of_lt_of_le inside later⟩

/-- A request starts where the subscription's current period does. -/
theorem startsAt_of_entitlementFor {row : StoredSubscription} {policy : BillingPolicy}
    {own : SyncRequest} (isOwn : entitlementFor row policy = .ok own) :
    own.startsAt = row.currentPeriodStart := by
  have starts : ∀ active ends, window row active ends = .ok own →
      own.startsAt = row.currentPeriodStart := by
    intro active ends isWindow
    unfold window iso toISOString at isWindow
    split at isWindow
    · rename_i startsAt expiresAt isStart isEnd
      cases isWindow
      split_ifs at isStart
      cases isStart
      rfl
    · cases isWindow
    · cases isWindow
  unfold entitlementFor at isOwn
  split at isOwn
  · exact starts _ _ isOwn
  · exact starts _ _ isOwn
  · split at isOwn
    · exact starts _ _ isOwn
    · exact starts _ _ isOwn
  · exact starts _ _ isOwn
  · exact starts _ _ isOwn
  · exact starts _ _ isOwn
  · exact starts _ _ isOwn
  · exact starts _ _ isOwn

/-! ### The row -/

/-- An account is suspended exactly if one of its rows is. -/
theorem evaluateAccount_suspended_iff {grants : List Entitlement} {now : Instant} :
    (evaluateAccount grants now).state = .suspended ↔ ∃ row ∈ grants, row.status = .suspended := by
  constructor
  · intro isSuspended
    unfold evaluateAccount at isSuspended
    split at isSuspended
    · cases isSuspended
    split at isSuspended
    · rename_i held found
      exact ⟨held, List.mem_of_find?_eq_some found, by simpa using List.find?_some found⟩
    · rename_i noneHeld
      have clear := List.find?_eq_none.mp noneHeld
      unfold evaluateOpen at isSuspended
      simp only at isSuspended
      split at isSuspended
      · cases isSuspended
      · unfold evaluateAccess at isSuspended
        split at isSuspended
        · cases isSuspended
        · rename_i latest isLatest
          have member : latest ∈ grants :=
            List.mem_mergeSort.mp (List.mem_of_mem_head? isLatest)
          have free : latest.status ≠ .suspended := by simpa using clear latest member
          split_ifs at isSuspended
  · intro held
    obtain ⟨row, member, suspended⟩ := held
    exact (evaluateAccount_of_suspended member suspended now).1

section Row

variable {ledger after : Ledger} {order : List GrantedVia} {input : MutationInput}
  {now : Instant} {context : MutationContext} {changes : List RowChange} {sync : SyncRequest}

/-- Nothing is written where there is no row to close. -/
theorem planSync_absent {rows : List Entitlement} (absent : bySource rows .billing = none)
    (asked : input.sync = some sync) (inactive : sync.active = false)
    (planned : planSync rows input now = .ok changes) : changes = [] := by
  obtain ⟨other, isAsked, isBilling, inOrder⟩ := planSync_asked planned
  rw [asked] at isAsked
  cases isAsked
  simp only [planSync, isBilling, asked, if_neg (Int.not_le.mpr inOrder), inactive, Bool.false_eq_true,
    if_false, absent] at planned
  cases planned
  rfl

/-- Billing's row, once an account with no suspended row is synchronised. -/
theorem synced_to (applied : Applied ledger after order input now context changes)
    (isSync : input.action = .sync) (asked : input.sync = some sync)
    (clear : ∀ row ∈ ledger.rowsIn order input.userId, row.status ≠ .suspended) :
    (sync.active = true →
      ∃ row, after.row input.userId .billing = some row ∧ snapshot row = openedBy sync) ∧
    (sync.active = false → ∀ row, after.row input.userId .billing = some row →
      ClosedBy now (snapshot row) ∧ row.status ≠ .suspended) := by
  have noneHeld : ((ledger.rowsIn order input.userId).filter isSuspended).isEmpty = true := by
    rw [List.isEmpty_iff, List.filter_eq_nil_iff]
    intro row member isHeld
    exact clear row member (beq_iff_eq.mp isHeld)
  have planned : planSync (ledger.rowsIn order input.userId) input now = .ok changes := by
    have accepted := applied.planned
    rwa [planAccountMutation, isSync] at accepted
  have billing : bySource (ledger.rowsIn order input.userId) .billing = ledger.row input.userId .billing :=
    Ledger.bySource_rowsIn applied.both .billing
  constructor
  · intro isActive
    have isChanges := planSync_active asked isActive planned
    rw [billing] at isChanges
    subst isChanges
    obtain ⟨row, isRow, isNext⟩ := applied.synced
    refine ⟨row, isRow, ?_⟩
    rw [isNext]
    simp only [syncedSnapshot, noneHeld, if_true, openedBy]
  · intro isInactive row isRow
    cases current : ledger.row input.userId .billing with
    | none =>
        have untouched : changes = [] := planSync_absent (billing.trans current) asked isInactive planned
        subst untouched
        rw [applied.kept List.not_mem_nil, current] at isRow
        cases isRow
    | some before =>
        obtain ⟨next, closed, isChanges⟩ :=
          planSync_inactive (billing.trans current) asked isInactive planned
        rw [← current] at isChanges
        subst isChanges
        obtain ⟨row', isRow', isNext⟩ := applied.synced
        rw [isRow] at isRow'
        cases isRow'
        obtain ⟨expiresAt, ends, _, isOver⟩ := closedSnapshot_window closed
        obtain ⟨_, _, sameStatus, _⟩ := closedSnapshot_ok closed
        constructor
        · exact ⟨expiresAt, by rw [isNext, ends], isOver⟩
        · have status : row.status = next.status := congrArg EntitlementSnapshot.status isNext
          rw [status, sameStatus]
          exact clear before (Ledger.mem_rowsIn applied.both current)

/-- Then it is active from now on exactly as long as the request says. -/
theorem active_after_sync (applied : Applied ledger after order input now context changes)
    (isSync : input.action = .sync) (asked : input.sync = some sync)
    (clear : ∀ row ∈ ledger.rowsIn order input.userId, row.status ≠ .suspended)
    (started : sync.startsAt ≤ now) {time : Instant} (later : now ≤ time) :
    ((evaluateAccess (after.row input.userId .billing) time).active = true ↔
      sync.active = true ∧ time < sync.expiresAt) ∧
    (sync.active = true →
      (after.row input.userId .billing).bind Entitlement.expiresAt = some sync.expiresAt) := by
  obtain ⟨opens, closes⟩ := synced_to applied isSync asked clear
  cases isActive : sync.active with
  | true =>
      obtain ⟨row, isRow, isOpened⟩ := opens isActive
      have status : row.status = .active := congrArg EntitlementSnapshot.status isOpened
      have starts : row.startsAt = sync.startsAt := congrArg EntitlementSnapshot.startsAt isOpened
      have ends : row.expiresAt = some sync.expiresAt := congrArg EntitlementSnapshot.expiresAt isOpened
      rw [isRow, active_iff_window status ends, starts]
      have begun : sync.startsAt ≤ time := Int.le_trans started later
      simp [begun, ends]
  | false =>
      constructor
      · cases isRow : after.row input.userId .billing with
        | none => simp [evaluateAccess]
        | some row =>
            obtain ⟨⟨expiresAt, ends, isOver⟩, _⟩ := closes isActive row isRow
            rw [not_active_of_over ends (Int.le_trans isOver later)]
            simp
      · intro impossible
        cases impossible

/-- And the account is as little suspended as it was. -/
theorem clear_after_sync (applied : Applied ledger after order input now context changes)
    (isSync : input.action = .sync) (asked : input.sync = some sync)
    (clear : ∀ row ∈ ledger.rowsIn order input.userId, row.status ≠ .suspended) :
    ∀ row ∈ after.rowsIn order input.userId, row.status ≠ .suspended := by
  intro row member
  obtain ⟨opens, closes⟩ := synced_to applied isSync asked clear
  have found := Ledger.row_of_mem member
  by_cases isBilling : row.grantedVia = .billing
  · rw [isBilling] at found
    cases isActive : sync.active with
    | true =>
        obtain ⟨opened, isRow, isOpened⟩ := opens isActive
        rw [found] at isRow
        cases isRow
        have status : row.status = .active := congrArg EntitlementSnapshot.status isOpened
        rw [status]
        simp
    | false => exact (closes isActive row found).2
  · have untouched : row.grantedVia ∉ changes.map RowChange.source := by
      intro touched
      obtain ⟨change, inChanges, isSource⟩ := List.mem_map.mp touched
      have sources := (source_of_planned (planned_of_ok applied.planned)).2 isSync
      rw [sources change inChanges] at isSource
      exact isBilling isSource.symm
    rw [applied.kept untouched] at found
    exact clear row (Ledger.mem_rowsIn applied.both found)

end Row

/-! ### The service -/

@[simp] theorem computed_ok {α : Type} (value : α) : computed (.ok value) = pure value := rfl

/-- What `view` finds, when its subscriptions have a primary one. -/
theorem ensures_view {deps : ServiceDeps} {world : ServiceWorld} {userId : String}
    {primary : StoredSubscription} {request : SyncRequest}
    (isPrimary : primarySubscription (world.reads.subscriptionsOf userId) deps.policy = .ok (some primary))
    (isRequest : entitlementFor primary deps.policy = .ok request) :
    (deps.view userId).Ensures serviceHandler.effects world fun outcome after =>
      ∃ shown, outcome = .ok shown ∧
        shown.subscription = some (deps.subscriptionView primary request (world.clock 0)) ∧
        after = { world with clock := fun reading => world.clock (reading + 1) } := by
  unfold ServiceDeps.view
  rw [Prog.ensures_bind, ensures_ask]
  simp only [serviceHandler, Prog.thenEnsures_ok, isPrimary, computed_ok]
  rw [Prog.ensures_bind, Prog.ensures_pure, Prog.thenEnsures_ok, Prog.ensures_bind, ensures_ask]
  simp only [serviceHandler, Prog.thenEnsures_ok, isRequest, computed_ok]
  rw [Prog.ensures_bind, Prog.ensures_pure, Prog.thenEnsures_ok, Prog.ensures_bind, Prog.ensures_pure,
    Prog.thenEnsures_ok, Prog.ensures_bind, ensures_ask]
  simp only [serviceHandler, Prog.thenEnsures_ok]
  rw [Prog.ensures_bind, ensures_ask]
  exact ⟨_, rfl, rfl, rfl⟩

/-- A refusal of a checkout because the account is subscribed. -/
def alreadySubscribed : ServiceFailure :=
  .billingError .alreadySubscribed
    "This account already has an active subscription. Change or cancel it through “Manage billing”."

/-- Once the account may start one, a checkout is not refused so any more. -/
theorem ensures_openCheckout (deps : ServiceDeps) (world : ServiceWorld) (userId : String)
    (offer : ConfiguredOffer) :
    (deps.openCheckout userId offer).Ensures serviceHandler.effects world fun outcome _ =>
      outcome ≠ .error alreadySubscribed := by
  unfold ServiceDeps.openCheckout ServiceDeps.callProvider
  rw [Prog.ensures_bind, ensures_ask]
  simp only [serviceHandler, Prog.thenEnsures_ok]
  rw [Prog.ensures_bind, Prog.ensures_tryCatch, ensures_ask]
  simp only [serviceHandler]
  split
  · simp [alreadySubscribed]
  · simp only [Prog.orEnsures_ok, Prog.thenEnsures_ok]
    rw [Prog.ensures_bind, ensures_ask]
    simp only [serviceHandler, Prog.thenEnsures_ok]
    cases written : iso (world.clock 0) with
    | error failure => simp [computed, Except.mapError, alreadySubscribed]
    | ok createdAt =>
        rw [computed_ok, Prog.ensures_bind, Prog.ensures_pure, Prog.thenEnsures_ok, Prog.ensures_bind,
          ensures_ask]
        simp [serviceHandler]

/-- A checkout of an account that is not suspended is refused with ALREADY_SUBSCRIBED exactly if the view
    says until when the subscription entitles. -/
theorem ensures_startCheckout {deps : ServiceDeps} {world : ServiceWorld} {userId offerId : String}
    {primary : StoredSubscription} {request : SyncRequest} {offer : ConfiguredOffer}
    (isPrimary : primarySubscription (world.reads.subscriptionsOf userId) deps.policy = .ok (some primary))
    (isRequest : entitlementFor primary deps.policy = .ok request)
    (isOffer : deps.offers.find? (·.id == offerId) = some offer)
    (clear : ∀ row ∈ world.reads.grants userId, row.status ≠ .suspended) :
    (deps.startCheckout userId (some offerId)).Ensures serviceHandler.effects world fun outcome _ =>
      outcome = .error alreadySubscribed ↔
        (deps.subscriptionView primary request (world.clock 0)).accessUntil.isSome = true := by
  have free : ∀ now, ¬ (evaluateAccount (world.reads.grants userId) now).state = .suspended := by
    intro now isSuspended
    obtain ⟨row, member, held⟩ := evaluateAccount_suspended_iff.mp isSuspended
    exact clear row member held
  simp only [ServiceDeps.startCheckout, Option.bind_some, isOffer, Prog.ensures_bind]
  apply (ensures_view isPrimary isRequest).mono
  intro outcome after viewed
  obtain ⟨shown, rfl, isShown, rfl⟩ := viewed
  rw [Prog.thenEnsures_ok, Prog.ensures_bind, ensures_ask]
  simp only [serviceHandler, Prog.thenEnsures_ok]
  rw [Prog.ensures_bind, ensures_ask]
  simp only [serviceHandler, Prog.thenEnsures_ok, free, if_false, isShown, Option.bind_some]
  by_cases covers : (deps.subscriptionView primary request (world.clock 0)).accessUntil.isSome = true
  · rw [if_pos covers]
    simp [alreadySubscribed, covers]
  · rw [if_neg covers, Prog.ensures_bind, ensures_ask]
    simp only [serviceHandler, Prog.thenEnsures_ok, covers, Bool.false_eq_true, iff_false]
    cases written : iso (world.clock 2 - 3600000) with
    | error failure => simp [computed, Except.mapError, alreadySubscribed]
    | ok since =>
        rw [computed_ok, Prog.ensures_bind, Prog.ensures_pure, Prog.thenEnsures_ok, Prog.ensures_bind,
          ensures_ask]
        simp only [serviceHandler, Prog.thenEnsures_ok]
        split
        · simp [alreadySubscribed]
        · exact ensures_openCheckout deps _ userId offer

/-! ### What is paid for -/

/-- Synchronised with what its subscriptions say, an account that is not suspended has billing's row open
    from now on exactly as long as one of them entitles; and as long as nothing else happens the view says
    until when, and a checkout is refused, exactly while the row is open. -/
theorem billing_row_covers_paid (backend : AccessBackend) (calls : List AccessCall) (call : AccessCall)
    (result : MutationResult) (subscriptions : List StoredSubscription) (deps : ServiceDeps)
    (desired : SyncRequest) (time : Instant)
    (started : ∀ row ∈ subscriptions, row.currentPeriodStart ≤ call.now)
    (isDesired : desiredEntitlement subscriptions deps.policy = .ok (some desired))
    (isSync : call.input.action = .sync) (asked : call.input.sync = some desired)
    (free : (evaluateAccount (backend.store.grants
      (backend.store.object.after backend.store.start calls) call.input.userId) call.now).state ≠ .suspended)
    (accepted : (backend.store.object.step
      (backend.store.object.after backend.store.start calls) call).1 = .ok result)
    (later : call.now ≤ time) :
    let after := (backend.store.object.step
      (backend.store.object.after backend.store.start calls) call).2
    let row := backend.store.row after call.input.userId .billing
    ((evaluateAccess row time).active = true ↔
      ∃ subscription ∈ subscriptions, ∃ own, entitlementFor subscription deps.policy = .ok own ∧
        own.active = true ∧ time < own.expiresAt) ∧
    ∀ world : ServiceWorld, world.reads.subscriptionsOf call.input.userId = subscriptions →
      world.reads.grants call.input.userId = backend.store.grants after call.input.userId →
      world.clock 0 = time →
      (∃ shown subscription, ((deps.view call.input.userId).run serviceHandler world).1 = .ok shown ∧
        shown.subscription = some subscription ∧
        (subscription.accessUntil.isSome = true ↔ (evaluateAccess row time).active = true) ∧
        ((evaluateAccess row time).active = true →
          subscription.accessUntil = row.bind Entitlement.expiresAt)) ∧
      ∀ offer ∈ deps.offers,
        (((deps.startCheckout call.input.userId (some offer.id)).run serviceHandler world).1 =
            .error alreadySubscribed ↔ (evaluateAccess row time).active = true) := by
  intro after row
  obtain ⟨ledger, ledgerAfter, context, changes, holds, holdsAfter, applied⟩ :=
    accepted_applied backend calls call result accepted
  have clear : ∀ entry ∈ ledger.rowsIn backend.order call.input.userId, entry.status ≠ .suspended := by
    intro entry member held
    apply free
    rw [holds.grants]
    exact evaluateAccount_suspended_iff.mpr ⟨entry, member, held⟩
  obtain ⟨someRows, request, each⟩ := requests_of_desired isDesired
  obtain ⟨desired', isDesired', chosen⟩ := desiredEntitlement_chosen each someRows
  rw [isDesired] at isDesired'
  cases isDesired'
  obtain ⟨primary, inRows, isPrimary, chosenPrimary⟩ := primarySubscription_chosen each someRows
  obtain ⟨sameActive, sameEnd⟩ := chosenPrimary.agree chosen
  have begun : desired.startsAt ≤ call.now := by
    obtain ⟨source, member, rfl⟩ := List.mem_map.mp chosen.mem
    rw [startsAt_of_entitlementFor (each source member)]
    exact started source member
  have isRow : row = ledgerAfter.row call.input.userId .billing := by
    change backend.store.row after call.input.userId .billing = _
    rw [holdsAfter.row]
  obtain ⟨open_iff, ends⟩ := active_after_sync applied isSync asked clear begun later
  rw [← isRow] at open_iff ends
  have until_ : (deps.subscriptionView primary (request primary) time).accessUntil =
      if desired.active && decide (time < desired.expiresAt) then some desired.expiresAt else none := by
    simp only [ServiceDeps.subscriptionView, sameActive, sameEnd]
  have shows : (deps.subscriptionView primary (request primary) time).accessUntil.isSome = true ↔
      (evaluateAccess row time).active = true := by
    rw [open_iff, until_]
    split
    · rename_i covers
      simpa using covers
    · rename_i uncovered
      simpa using uncovered
  refine ⟨open_iff.trans (chosen.covers_iff each time), ?_⟩
  intro world isSubscriptions isGrants isTime
  rw [← isSubscriptions] at isPrimary
  subst isTime
  constructor
  · obtain ⟨shown, isShown, subscription, _⟩ := (ensures_view isPrimary (each primary inRows)).run_effects
    refine ⟨shown, _, isShown, subscription, shows, ?_⟩
    intro isOpen
    obtain ⟨isActive, inside⟩ := open_iff.mp isOpen
    rw [until_, ends isActive]
    simp [isActive, inside]
  · intro offer inOffers
    have clearAfter : ∀ entry ∈ world.reads.grants call.input.userId, entry.status ≠ .suspended := by
      rw [isGrants, holdsAfter.grants]
      exact clear_after_sync applied isSync asked clear
    have someOffer : (deps.offers.find? (·.id == offer.id)).isSome = true :=
      List.find?_isSome.mpr ⟨offer, inOffers, beq_self_eq_true _⟩
    obtain ⟨found, isFound⟩ := Option.isSome_iff_exists.mp someOffer
    rw [← shows]
    exact (ensures_startCheckout isPrimary (each primary inRows) isFound clearAfter).run_effects

/-- One offer, and no leeway and no grace. -/
def someService : ServiceDeps where
  offers := [⟨⟨"price", none⟩, "monthly", "Monthly", none, none, some .month, []⟩]
  plans := []
  policy := ⟨0, 0⟩
  appUrl := "http://localhost"

/-- A subscription of the account whose period is `[0, ends)`. -/
def subscribedUntil (subscriptionRef : String) (status : SubscriptionStatus) (ends : Instant) :
    StoredSubscription where
  subscriptionRef := subscriptionRef
  userId := someStudent
  customerRef := "cus"
  priceRef := "price"
  planId := none
  status := status
  currentPeriodStart := 0
  currentPeriodEnd := ends
  cancelAtPeriodEnd := false
  endedAt := none
  providerStateAt := 0
  updatedAt := 0

/-- A subscription that is paid until 100, beside one whose later period was never paid for. -/
theorem billing_row_covers_paid_besideUnpaid :
    let subscriptions := [subscribedUntil "new" .unpaid 200, subscribedUntil "old" .active 100]
    let call := accessCall 10 .sync none none (some ⟨true, 0, 100, .subscription, none⟩)
    let after := (memoryAccess.step InMemoryAccessStore.empty call).2
    (evaluateAccess (after.row someStudent .billing) 99).active = true ∧
      ((someService.startCheckout someStudent (some "monthly")).run serviceHandler
        ⟨⟨fun _ => subscriptions, fun _ => none, fun _ _ => 0, after.grantsOf⟩, fun _ => 99, false, "cs",
          "http://localhost", []⟩).1 = .error alreadySubscribed := by
  intro subscriptions call after
  have isDesired : desiredEntitlement subscriptions someService.policy =
      .ok (some ⟨true, 0, 100, .subscription, none⟩) := by
    simp [desiredEntitlement, subscriptions, entitlementFor, window, iso, toISOString, subscribedUntil,
      someService, syncKind, hour, List.mapM_cons, bind, Except.bind, pure, Except.pure]
  have accepted : ∃ result, (memoryAccess.step (memoryAccess.after InMemoryAccessStore.empty []) call).1 =
      .ok result := ⟨_, rfl⟩
  obtain ⟨result, isResult⟩ := accepted
  obtain ⟨open_iff, services⟩ := billing_row_covers_paid .memory [] call result subscriptions someService
    ⟨true, 0, 100, .subscription, none⟩ 99 (by decide) isDesired rfl rfl (by decide) isResult (by decide)
  have isOpen : (evaluateAccess (after.row someStudent .billing) 99).active = true := by
    apply open_iff.mpr
    exact ⟨subscribedUntil "old" .active 100, by simp [subscriptions],
      ⟨true, 0, 100, .subscription, none⟩, rfl, rfl, by decide⟩
  obtain ⟨_, refused⟩ := services ⟨⟨fun _ => subscriptions, fun _ => none, fun _ _ => 0, after.grantsOf⟩,
    fun _ => 99, false, "cs", "http://localhost", []⟩ rfl rfl rfl
  exact ⟨isOpen, (refused _ List.mem_cons_self).mpr isOpen⟩

end JumptotechLabs.Billing
