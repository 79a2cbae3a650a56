/-
Module: JumptotechLabs.Billing.Ownership
Layer: Billing (apps/api/src/billing/processor.ts, store.ts, postgres-store.ts)
Purpose: Whose subscription it is. Whatever references the events carry, a customer belongs to one account
  and an account to one customer, for good; only an account with a checkout of this platform is ever
  bound; and a stored subscription is the account's its customer is bound to, for good.
Main exports: ownershipEffect, Owned, Grows, Stage, stage_process, BillingBackend, billing_ownership
-/
import JumptotechLabs.Billing.PostgresStore
import Mathlib.Data.List.Induction

namespace JumptotechLabs.Billing

open JumptotechLabs.Access JumptotechLabs.Core

/-! ### What a call does to who owns what -/

/-- Customers, checkouts and subscriptions stay. -/
structure SameOwners (before after : BillingTables) : Prop where
  customers : after.customers = before.customers
  checkouts : after.checkouts = before.checkouts
  subscriptions : after.subscriptions = before.subscriptions

theorem SameOwners.refl (tables : BillingTables) : SameOwners tables tables := ⟨rfl, rfl, rfl⟩

/-- `bindCustomer` leaves the customers alone, and answers that the customer is the account's only if it is;
    or it binds a customer that was nobody's to an account that had none. -/
def BindEffect (customerRef userId : String) (time : Instant) (before : BillingTables)
    (answer : Except BillingFailure Binding) (after : BillingTables) : Prop :=
  (SameOwners before after ∧ ∀ binding, answer = .ok binding → binding ≠ .conflict →
      ∃ row, before.customer customerRef = some row ∧ row.userId = userId) ∨
    before.customer customerRef = none ∧ (∀ row ∈ before.customers, row.userId ≠ userId) ∧
      after = before.putCustomer ⟨customerRef, userId, time⟩

/-- What is known of each call, in both stores. -/
def ownershipEffect : (command : TxCommand) → BillingTables → Except BillingFailure command.Answer →
    BillingTables → Prop
  | .customerUser customerRef, before, answer, after =>
      SameOwners before after ∧
        ∀ userId, answer = .ok userId → userId = (before.customer customerRef).map CustomerRow.userId
  | .bindCustomer customerRef userId time, before, answer, after =>
      BindEffect customerRef userId time before answer after
  | .checkout _, before, answer, after =>
      SameOwners before after ∧
        ∀ row, answer = .ok (some row) → row ∈ before.checkouts
  | .hasCheckoutFor userId, before, answer, after =>
      SameOwners before after ∧
        (answer = .ok true → ∃ row ∈ before.checkouts, row.userId = userId)
  | .completeCheckout checkoutRef time, before, _, after =>
      after = before.completeCheckout checkoutRef time
  | .subscription subscriptionRef, before, answer, after =>
      SameOwners before after ∧
        ∀ row, answer = .ok row → row = before.subscription subscriptionRef
  | .putSubscription row, before, _, after =>
      after = before ∨ after = before.putSubscription row
  | _, before, _, after => SameOwners before after

/-- The same of a world, whatever its access store. -/
def ownershipEffects (Access : Type) : Effects BillingTx BillingFailure (BillingWorld Access) :=
  fun command before answer after => ownershipEffect command before.tables answer after.tables

theorem bindInMemory_effect (tables : BillingTables) (customerRef userId : String) (time : Instant) :
    BindEffect customerRef userId time tables
      (.ok (bindInMemory tables customerRef userId time).1)
      (bindInMemory tables customerRef userId time).2 := by
  unfold bindInMemory
  split
  · rename_i existing found
    refine .inl ⟨.refl tables, ?_⟩
    intro binding answered noConflict
    cases answered
    by_cases same : existing.userId = userId
    · exact ⟨existing, found, same⟩
    · rw [if_neg same] at noConflict
      exact absurd rfl noConflict
  · rename_i absent
    split
    · refine .inl ⟨.refl tables, ?_⟩
      intro binding answered noConflict
      cases answered
      exact absurd rfl noConflict
    · rename_i none
      refine .inr ⟨absent, ?_, rfl⟩
      intro row member isUser
      exact none (List.any_eq_true.mpr ⟨row, member, beq_iff_eq.mpr isUser⟩)

theorem bindInPostgres_effect (accounts : List String) (tables : BillingTables)
    (customerRef userId : String) (time : Instant) :
    BindEffect customerRef userId time tables
      (bindInPostgres accounts tables customerRef userId time).1
      (bindInPostgres accounts tables customerRef userId time).2 := by
  unfold bindInPostgres
  split
  · refine .inl ⟨.refl tables, ?_⟩
    intro binding answered noConflict
    cases answered
    exact absurd rfl noConflict
  split
  · refine .inl ⟨.refl tables, ?_⟩
    intro binding impossible
    cases impossible
  split
  · split
    · rename_i owned
      refine .inl ⟨.refl tables, ?_⟩
      intro binding _ _
      obtain ⟨row, found, same⟩ := (Option.any_eq_true _ _).mp owned
      exact ⟨row, found, beq_iff_eq.mp same⟩
    · refine .inl ⟨.refl tables, ?_⟩
      intro binding answered noConflict
      cases answered
      exact absurd rfl noConflict
  · rename_i free
    rw [Bool.or_eq_true, not_or] at free
    split
    · refine .inl ⟨.refl tables, ?_⟩
      intro binding impossible
      cases impossible
    · refine .inr ⟨?_, ?_, rfl⟩
      · rw [Option.not_isSome_iff_eq_none] at free
        exact free.1
      · intro row member isUser
        exact free.2 (List.any_eq_true.mpr ⟨row, member, beq_iff_eq.mpr isUser⟩)

theorem memoryTx_effects (accounts : List String) (world : BillingWorld InMemoryAccessStore)
    (command : TxCommand) :
    ownershipEffects InMemoryAccessStore command world (memoryTx accounts world command).1
      (memoryTx accounts world command).2 := by
  cases command with
  | claimEvent event time =>
      simp only [memoryTx]
      split
      · exact .refl _
      · exact ⟨rfl, rfl, rfl⟩
  | setEventOutcome eventId outcome => exact ⟨rfl, rfl, rfl⟩
  | customerUser customerRef =>
      refine ⟨.refl _, ?_⟩
      intro userId answered
      cases answered
      rfl
  | bindCustomer customerRef userId time => exact bindInMemory_effect ..
  | checkout checkoutRef =>
      refine ⟨.refl _, ?_⟩
      intro row answered
      exact Keyed.mem_of_lookup (Except.ok.inj answered)
  | hasCheckoutFor userId =>
      refine ⟨.refl _, ?_⟩
      intro answered
      obtain ⟨row, member, same⟩ := List.any_eq_true.mp (Except.ok.inj answered)
      exact ⟨row, member, beq_iff_eq.mp same⟩
  | completeCheckout checkoutRef time => exact rfl
  | subscription subscriptionRef =>
      refine ⟨.refl _, ?_⟩
      intro row answered
      cases answered
      rfl
  | putSubscription row => exact .inr rfl
  | subscriptionsOf userId => exact .refl _
  | lockAccount userId => exact .refl _
  | mutateAccess input now => exact .refl _

theorem withText_ok {α : Type} {text : String} {answer value : α}
    (answered : withText text answer = .ok value) : value = answer := by
  unfold withText at answered
  split at answered
  · cases answered
  · exact (Except.ok.inj answered).symm

theorem upsertSubscription_tables (accounts : List String) (tables : BillingTables)
    (row : StoredSubscription) :
    (upsertSubscription accounts tables row).2 = tables ∨
      (upsertSubscription accounts tables row).2 = tables.putSubscription row := by
  unfold upsertSubscription
  split
  · exact .inl rfl
  split
  · split
    · exact .inr rfl
    · exact .inl rfl
  · split
    · exact .inr rfl
    · exact .inl rfl

theorem postgresTx_effects (accounts : List String) (world : BillingWorld PostgresAccessStore)
    (command : TxCommand) :
    ownershipEffects PostgresAccessStore command world (postgresTx accounts world command).1
      (postgresTx accounts world command).2 := by
  cases command with
  | claimEvent event time =>
      -- The equations of `postgresTx` are slow to derive, so the branch is named here.
      let claimed : Except BillingFailure Bool × BillingWorld PostgresAccessStore :=
        if !eventRowAllowed event time then (.error (.thrown .driver), world)
        else if (world.tables.event event.eventId).isSome then (.ok false, world)
        else (.ok true, { world with tables := world.tables.putEvent event time })
      change SameOwners world.tables claimed.2.tables
      simp only [claimed]
      split
      · exact .refl _
      split
      · exact .refl _
      · exact ⟨rfl, rfl, rfl⟩
  | setEventOutcome eventId outcome => exact ⟨rfl, rfl, rfl⟩
  | customerUser customerRef =>
      refine ⟨.refl _, ?_⟩
      intro userId answered
      exact withText_ok answered
  | bindCustomer customerRef userId time => exact bindInPostgres_effect ..
  | checkout checkoutRef =>
      refine ⟨.refl _, ?_⟩
      intro row answered
      exact Keyed.mem_of_lookup (withText_ok answered).symm
  | hasCheckoutFor userId =>
      refine ⟨.refl _, ?_⟩
      intro answered
      have found := Except.ok.inj answered
      rw [Bool.and_eq_true] at found
      obtain ⟨row, member, same⟩ := List.any_eq_true.mp found.2
      exact ⟨row, member, beq_iff_eq.mp same⟩
  | completeCheckout checkoutRef time => exact rfl
  | subscription subscriptionRef =>
      refine ⟨.refl _, ?_⟩
      intro row answered
      exact withText_ok answered
  | putSubscription row => exact upsertSubscription_tables accounts world.tables row
  | subscriptionsOf userId => exact .refl _
  | lockAccount userId => exact .refl _
  | mutateAccess input now => exact .refl _

/-! ### The invariant -/

/-- No account has two customers, and every subscription is the account's its customer is bound to. -/
structure Owned (tables : BillingTables) : Prop where
  accounts : Keyed.Distinct CustomerRow.userId tables.customers
  bound : ∀ row ∈ tables.subscriptions,
    ∃ owner, tables.customer row.customerRef = some owner ∧ owner.userId = row.userId

/-- What only grows: bindings stay, subscriptions stay their account's, a new binding is of an account with
    a checkout, and no checkout is of an account that had none. -/
structure Grows (before after : BillingTables) : Prop where
  customers : ∀ customerRef row, before.customer customerRef = some row →
    after.customer customerRef = some row
  subscriptions : ∀ subscriptionRef row, before.subscription subscriptionRef = some row →
    ∃ next, after.subscription subscriptionRef = some next ∧ next.userId = row.userId
  backed : ∀ customerRef row, after.customer customerRef = some row →
    before.customer customerRef = some row ∨ ∃ checkout ∈ before.checkouts, checkout.userId = row.userId
  checkouts : ∀ checkout ∈ after.checkouts, ∃ earlier ∈ before.checkouts,
    earlier.userId = checkout.userId

theorem Grows.refl (tables : BillingTables) : Grows tables tables :=
  ⟨fun _ _ found => found, fun _ row found => ⟨row, found, rfl⟩, fun _ _ found => .inl found,
    fun checkout member => ⟨checkout, member, rfl⟩⟩

/-- A transaction on its way: from these tables it has come to those. -/
structure Stage (start current : BillingTables) : Prop where
  owned : Owned current
  grows : Grows start current

section Stage

variable {start current next : BillingTables}

theorem Stage.same (stage : Stage start current) (same : SameOwners current next) :
    Stage start next := by
  have customer : ∀ customerRef, next.customer customerRef = current.customer customerRef := by
    intro customerRef
    rw [BillingTables.customer, same.customers, BillingTables.customer]
  have subscription : ∀ ref, next.subscription ref = current.subscription ref := by
    intro ref
    rw [BillingTables.subscription, same.subscriptions, BillingTables.subscription]
  constructor
  · constructor
    · rw [same.customers]
      exact stage.owned.accounts
    · simp only [same.subscriptions, customer]
      exact stage.owned.bound
  · constructor
    · simp only [customer]
      exact stage.grows.customers
    · simp only [subscription]
      exact stage.grows.subscriptions
    · simp only [customer]
      exact stage.grows.backed
    · simp only [same.checkouts]
      exact stage.grows.checkouts

/-- A customer that was nobody's is bound to an account that had none, but has a checkout. -/
theorem Stage.bind (stage : Stage start current) {row : CustomerRow}
    (absent : current.customer row.customerRef = none)
    (none : ∀ other ∈ current.customers, other.userId ≠ row.userId)
    (backed : ∃ checkout ∈ current.checkouts, checkout.userId = row.userId) :
    Stage start (current.putCustomer row) := by
  have appended : Keyed.put CustomerRow.customerRef row current.customers =
      current.customers ++ [row] := Keyed.put_of_absent absent
  have customer : ∀ ref, (current.putCustomer row).customer ref =
      if row.customerRef = ref then some row else current.customer ref := by
    intro ref
    exact Keyed.lookup_put ref row current.customers
  have kept : ∀ ref owner, current.customer ref = some owner →
      (current.putCustomer row).customer ref = some owner := by
    intro ref owner found
    rw [customer, if_neg, found]
    intro same
    rw [← same, absent] at found
    cases found
  constructor
  · constructor
    · simp only [BillingTables.putCustomer, appended]
      apply stage.owned.accounts.append
      exact Keyed.lookup_eq_none.mpr none
    · intro subscription member
      obtain ⟨owner, found, same⟩ := stage.owned.bound subscription member
      exact ⟨owner, kept _ _ found, same⟩
  · constructor
    · intro ref owner found
      exact kept _ _ (stage.grows.customers ref owner found)
    · exact stage.grows.subscriptions
    · intro ref owner found
      rw [customer] at found
      split at found
      · cases found
        right
        obtain ⟨checkout, member, same⟩ := backed
        obtain ⟨earlier, inStart, sameUser⟩ := stage.grows.checkouts checkout member
        exact ⟨earlier, inStart, sameUser.trans same⟩
      · exact stage.grows.backed ref owner found
    · exact stage.grows.checkouts

/-- A subscription of the account its customer is bound to, and of the account it was. -/
theorem Stage.put (stage : Stage start current) {row : StoredSubscription}
    (bound : ∃ owner, current.customer row.customerRef = some owner ∧ owner.userId = row.userId)
    (same : ∀ existing, current.subscription row.subscriptionRef = some existing →
      existing.userId = row.userId) : Stage start (current.putSubscription row) := by
  constructor
  · refine ⟨stage.owned.accounts, ?_⟩
    intro other member
    rcases Keyed.mem_put member with rfl | old
    · exact bound
    · exact stage.owned.bound other old
  · refine ⟨stage.grows.customers, ?_, stage.grows.backed, stage.grows.checkouts⟩
    intro ref earlier found
    obtain ⟨existing, stored, sameUser⟩ := stage.grows.subscriptions ref earlier found
    have lookup : (current.putSubscription row).subscription ref =
        if row.subscriptionRef = ref then some row else current.subscription ref :=
      Keyed.lookup_put ref row current.subscriptions
    rw [lookup]
    split
    · rename_i isRef
      rw [← isRef] at stored
      exact ⟨row, rfl, (same existing stored).symm.trans sameUser⟩
    · exact ⟨existing, stored, sameUser⟩

theorem Stage.complete (stage : Stage start current) (checkoutRef : String) (time : Instant) :
    Stage start (current.completeCheckout checkoutRef time) := by
  refine ⟨⟨stage.owned.accounts, stage.owned.bound⟩, stage.grows.customers,
    stage.grows.subscriptions, stage.grows.backed, ?_⟩
  intro checkout member
  obtain ⟨row, inCurrent, isRow⟩ := List.mem_map.mp member
  obtain ⟨earlier, inStart, same⟩ := stage.grows.checkouts row inCurrent
  refine ⟨earlier, inStart, same.trans ?_⟩
  rw [← isRow]
  split
  · rfl
  · rfl

end Stage

/-! ### Processing an event -/

section Process

variable {Access : Type} {start : BillingTables} {world : BillingWorld Access}
  {event : BillingEvent}

/-- One call of the interface, of which only this is known, and what follows it. -/
theorem ensures_known {σ α : Type} {effects : Effects BillingTx BillingFailure σ} {state : σ}
    {command : TxCommand} {f : command.Answer → TxProg α} {post : Except BillingFailure α → σ → Prop}
    (failed : ∀ failure next, effects command state (.error failure) next → post (.error failure) next)
    (answered : ∀ answer next, effects command state (.ok answer) next →
      (f answer).Ensures effects next post) : (tx command >>= f).Ensures effects state post := by
  rw [Prog.ensures_bind]
  apply (Prog.ensures_perform (S := BillingTx) command _).mpr
  intro answer next known
  cases answer with
  | error failure => exact failed failure next known
  | ok answer => exact answered answer next known

/-- The tables of a world are on the way from `start`. -/
def Staged (start : BillingTables) (_ : Except BillingFailure ProcessResult)
    (world : BillingWorld Access) : Prop :=
  Stage start world.tables

theorem staged_settle (stage : Stage start world.tables) (outcome : EventOutcome)
    (userId reason : Option String) :
    (settle event outcome userId reason).Ensures (ownershipEffects Access) world
      (Staged start) := by
  apply ensures_known
  · intro failure next same
    exact stage.same same
  · intro _ next same
    exact stage.same same

theorem staged_processFor (deps : BillingDeps) (s : SubscriptionSnapshot) {userId : String}
    (time now : Instant) (stage : Stage start world.tables)
    (bound : ∃ owner, world.tables.customer s.customerRef = some owner ∧ owner.userId = userId) :
    (processFor deps event s userId time now).Ensures (ownershipEffects Access) world
      (Staged start) := by
  apply ensures_known
  · intro failure next same
    exact stage.same same
  intro _ locked same
  have stage := stage.same same
  have bound : ∃ owner, locked.tables.customer s.customerRef = some owner ∧
      owner.userId = userId := by
    rw [BillingTables.customer, same.customers]
    exact bound
  apply ensures_known
  · intro failure next known
    exact stage.same known.1
  intro existing read known
  have isExisting := known.2 existing rfl
  have stage := stage.same known.1
  split
  · exact staged_settle stage _ _ _
  rename_i notMoved
  split
  · exact staged_settle stage _ _ _
  split
  · exact stage
  rename_i offer _
  -- The customer is still the account's, and the subscription was the account's if it was stored.
  have stagePut : ∀ next : BillingWorld Access,
      ownershipEffects Access (.putSubscription (storedFrom event s userId offer.planId time)) read
        (.ok ()) next → Stage start next.tables := by
    intro next put
    rcases put with unchanged | put
    · rw [unchanged]
      exact stage
    · rw [put]
      apply stage.put
      · rw [BillingTables.customer, known.1.customers]
        exact bound
      · intro stored found
        have sameStored : existing = some stored := by
          rw [isExisting, ← found, BillingTables.subscription, BillingTables.subscription,
            known.1.subscriptions]
          rfl
        rw [sameStored, Option.any_some, bne_iff_ne, not_not] at notMoved
        exact notMoved
  apply ensures_known
  · intro failure next put
    exact stagePut next put
  intro _ stored put
  have stage := stagePut stored put
  apply ensures_known
  · intro failure next same
    exact stage.same same
  intro subscriptions listed same
  have stage := stage.same same
  rw [Prog.ensures_bind, Prog.ensures_settle]
  cases desiredEntitlement subscriptions deps.policy with
  | error failure => exact stage
  | ok desired =>
      cases desired with
      | none => exact staged_settle stage _ _ _
      | some desired =>
          apply ensures_known
          · intro failure next same
            exact stage.same same
          · intro _ next same
            exact staged_settle (stage.same same) _ _ _

/-- The account that was bound, in the tables after the binding. -/
theorem bound_of_bindEffect {before after : BillingTables} {customerRef userId : String}
    {time : Instant} {binding : Binding} (stage : Stage start before)
    (backed : ∃ checkout ∈ before.checkouts, checkout.userId = userId)
    (effect : BindEffect customerRef userId time before (.ok binding) after) :
    Stage start after ∧ (binding ≠ .conflict →
      ∃ owner, after.customer customerRef = some owner ∧ owner.userId = userId) := by
  rcases effect with ⟨same, owner⟩ | ⟨absent, none, rfl⟩
  · refine ⟨stage.same same, ?_⟩
    intro noConflict
    rw [BillingTables.customer, same.customers]
    exact owner binding rfl noConflict
  · refine ⟨stage.bind absent none backed, ?_⟩
    intro _
    refine ⟨⟨customerRef, userId, time⟩, ?_, rfl⟩
    exact (Keyed.lookup_put ..).trans (if_pos rfl)

theorem stage_of_bindEffect {before after : BillingTables} {customerRef userId : String}
    {time : Instant} {answer : Except BillingFailure Binding} (stage : Stage start before)
    (backed : ∃ checkout ∈ before.checkouts, checkout.userId = userId)
    (effect : BindEffect customerRef userId time before answer after) : Stage start after := by
  rcases effect with ⟨same, _⟩ | ⟨absent, none, rfl⟩
  · exact stage.same same
  · exact stage.bind absent none backed

theorem staged_processUnbound (deps : BillingDeps) (s : SubscriptionSnapshot) (time now : Instant)
    (stage : Stage start world.tables) :
    (processUnbound deps event s time now).Ensures (ownershipEffects Access) world
      (Staged start) := by
  unfold processUnbound
  split
  · exact stage
  rename_i userId _
  apply ensures_known
  · intro failure next known
    exact stage.same known.1
  intro has asked known
  have stage := stage.same known.1
  split
  · rename_i isTrue
    rw [isTrue] at known
    have backed : ∃ checkout ∈ asked.tables.checkouts, checkout.userId = userId := by
      rw [known.1.checkouts]
      exact known.2 rfl
    apply ensures_known
    · intro failure next effect
      exact stage_of_bindEffect stage backed effect
    intro binding next effect
    obtain ⟨stage, bound⟩ := bound_of_bindEffect stage backed effect
    cases binding with
    | conflict => exact staged_settle stage _ _ _
    | bound => exact staged_processFor deps s time now stage (bound Binding.noConfusion)
    | «exists» => exact staged_processFor deps s time now stage (bound Binding.noConfusion)
  · exact stage

theorem staged_processSubscription (deps : BillingDeps) (s : SubscriptionSnapshot)
    (time now : Instant) (stage : Stage start world.tables) :
    (processSubscription deps event s time now).Ensures (ownershipEffects Access) world
      (Staged start) := by
  apply ensures_known
  · intro failure next known
    exact stage.same known.1
  intro answer asked known
  have isAnswer := known.2 answer rfl
  have stage := stage.same known.1
  split
  · rename_i userId isUser
    apply staged_processFor deps s time now stage
    obtain ⟨found, _⟩ := Option.filter_eq_some_iff.mp isUser
    rw [isAnswer] at found
    obtain ⟨owner, isOwner, same⟩ := Option.map_eq_some_iff.mp found
    refine ⟨owner, ?_, same⟩
    rw [BillingTables.customer, known.1.customers]
    exact isOwner
  · exact staged_processUnbound deps s time now stage

theorem staged_processCheckout (checkoutRef customerRef : String) (clientReference : Option String)
    (time : Instant) (stage : Stage start world.tables) :
    (processCheckout event checkoutRef customerRef clientReference time).Ensures
      (ownershipEffects Access) world (Staged start) := by
  apply ensures_known
  · intro failure next known
    exact stage.same known.1
  intro answer asked known
  have stage := stage.same known.1
  cases answer with
  | none => exact staged_settle stage _ _ _
  | some checkout =>
      simp only
      split
      · exact staged_settle stage _ _ _
      have backed : ∃ other ∈ asked.tables.checkouts, other.userId = checkout.userId := by
        rw [known.1.checkouts]
        exact ⟨checkout, known.2 checkout rfl, rfl⟩
      apply ensures_known
      · intro failure next effect
        exact stage_of_bindEffect stage backed effect
      intro binding next effect
      obtain ⟨stage, _⟩ := bound_of_bindEffect stage backed effect
      have completes : ∀ completed : BillingWorld Access,
          completed.tables = next.tables.completeCheckout checkoutRef time →
            Stage start completed.tables := by
        intro completed isCompleted
        rw [isCompleted]
        exact stage.complete checkoutRef time
      cases binding with
      | conflict => exact staged_settle stage _ _ _
      | bound =>
          apply ensures_known
          · intro failure completed known
            exact completes completed known
          · intro _ completed known
            exact staged_settle (completes completed known) _ _ _
      | «exists» =>
          apply ensures_known
          · intro failure completed known
            exact completes completed known
          · intro _ completed known
            exact staged_settle (completes completed known) _ _ _

theorem staged_process (deps : BillingDeps) (delivery : Delivery)
    (stage : Stage start world.tables) :
    (process deps delivery.event delivery.time delivery.now).Ensures (ownershipEffects Access) world
      (Staged start) := by
  apply ensures_known
  · intro failure next same
    exact stage.same same
  intro claimed next same
  have stage := stage.same same
  split
  · split
    · exact staged_settle stage _ _ _
    · exact staged_processCheckout _ _ _ _ stage
    · exact staged_processSubscription deps _ _ _ stage
  · exact stage

end Process

/-! ### Both stores -/

/-- The two billing stores there are. -/
inductive BillingBackend where
  | memory
  | postgres
deriving DecidableEq, Inhabited

/-- A billing store as an object, and its tables. -/
structure BillingStore where
  object : Object BillingCall BillingReply
  start : object.State
  tables : object.State → BillingTables

/-- The store of a backend, with nothing in it. -/
abbrev BillingBackend.store (deps : BillingDeps) : BillingBackend → BillingStore
  | .memory => ⟨memoryBilling deps, ⟨.empty, .empty⟩, BillingWorld.tables⟩
  | .postgres => ⟨postgresBilling deps, ⟨.empty, .migrated⟩, BillingWorld.tables⟩

section Step

variable {backend : BillingBackend} {deps : BillingDeps}
  {state : (backend.store deps).object.State}

/-- Processing an event is a stage. -/
theorem stage_step (delivery : Delivery) (owned : Owned ((backend.store deps).tables state)) :
    Stage ((backend.store deps).tables state)
      ((backend.store deps).tables
        ((backend.store deps).object.step state (.process delivery)).2) := by
  have here : Stage ((backend.store deps).tables state) ((backend.store deps).tables state) :=
    ⟨owned, .refl _⟩
  cases backend with
  | memory =>
      have staged := (staged_process deps delivery here).run (memoryTx_effects delivery.accounts)
      simp only [processInMemory, transactionInMemory]
      split
      · rename_i after ran
        rw [ran] at staged
        exact staged
      · exact here
  | postgres =>
      have staged := (staged_process deps delivery here).run (postgresTx_effects delivery.accounts)
      simp only [transactionInPostgres]
      split
      · rename_i after ran
        rw [ran] at staged
        exact staged
      · exact here

/-- Starting a checkout adds one to the checkouts, or is refused; the rest stays. -/
theorem recordCheckout_step (state : (backend.store deps).object.State) (checkout : NewCheckout)
    (accounts : List String) :
    let result := (backend.store deps).object.step state (.recordCheckout checkout accounts)
    let before := (backend.store deps).tables state
    let after := (backend.store deps).tables result.2
    after = before ∨ result.1 = .ok none ∧ after = before.putCheckout checkout.row := by
  cases backend with
  | memory => exact .inr ⟨rfl, rfl⟩
  | postgres =>
      simp only
      split
      · exact .inr ⟨rfl, rfl⟩
      · exact .inl rfl

theorem owned_step (call : BillingCall) (owned : Owned ((backend.store deps).tables state)) :
    Owned ((backend.store deps).tables ((backend.store deps).object.step state call).2) := by
  cases call with
  | process delivery => exact (stage_step delivery owned).owned
  | recordCheckout checkout accounts =>
      rcases recordCheckout_step state checkout accounts with same | ⟨_, same⟩
      · rw [same]
        exact owned
      · rw [same]
        exact ⟨owned.accounts, owned.bound⟩

/-- No call moves a binding, or a subscription to another account. -/
theorem kept_step (call : BillingCall) (owned : Owned ((backend.store deps).tables state)) :
    let before := (backend.store deps).tables state
    let after := (backend.store deps).tables ((backend.store deps).object.step state call).2
    (∀ customerRef row, before.customer customerRef = some row →
        after.customer customerRef = some row) ∧
      ∀ subscriptionRef row, before.subscription subscriptionRef = some row →
        ∃ next, after.subscription subscriptionRef = some next ∧ next.userId = row.userId := by
  cases call with
  | process delivery =>
      have grows := (stage_step delivery owned).grows
      exact ⟨grows.customers, grows.subscriptions⟩
  | recordCheckout checkout accounts =>
      intro before after
      rcases recordCheckout_step state checkout accounts with same | ⟨_, same⟩
      · have unchanged : after = before := same
        rw [unchanged]
        exact ⟨fun _ _ found => found, fun _ row found => ⟨row, found, rfl⟩⟩
      · have isAfter : after = before.putCheckout checkout.row := same
        rw [isAfter]
        exact ⟨fun _ _ found => found, fun _ row found => ⟨row, found, rfl⟩⟩

end Step

/-! ### Every run -/

section Runs

variable (backend : BillingBackend) (deps : BillingDeps)

/-- The tables after some calls. -/
def tablesAfter (calls : List BillingCall) : BillingTables :=
  (backend.store deps).tables ((backend.store deps).object.after (backend.store deps).start calls)

/-- A checkout of the account was started by one of the calls. -/
def Started (calls : List BillingCall) (userId : String) : Prop :=
  ∃ checkout accounts, checkout.userId = userId ∧
    (BillingCall.recordCheckout checkout accounts, Except.ok none) ∈
      (backend.store deps).object.transcript (backend.store deps).start calls

theorem tablesAfter_concat (calls : List BillingCall) (call : BillingCall) :
    tablesAfter backend deps (calls ++ [call]) =
      (backend.store deps).tables ((backend.store deps).object.step
        ((backend.store deps).object.after (backend.store deps).start calls) call).2 := by
  rw [tablesAfter, Object.after_append]
  rfl

variable {backend deps}

theorem Started.mono {calls more : List BillingCall} {userId : String}
    (started : Started backend deps calls userId) : Started backend deps (calls ++ more) userId := by
  obtain ⟨checkout, accounts, isUser, member⟩ := started
  refine ⟨checkout, accounts, isUser, ?_⟩
  rw [Object.transcript_append]
  exact List.mem_append_left _ member

theorem owned_after (calls : List BillingCall) : Owned (tablesAfter backend deps calls) := by
  apply Object.after_of_step
    (fun state : (backend.store deps).object.State => Owned ((backend.store deps).tables state))
  · intro state call owned
    exact owned_step call owned
  · cases backend with
    | memory => exact ⟨List.nodup_nil, fun _ member => absurd member List.not_mem_nil⟩
    | postgres => exact ⟨List.nodup_nil, fun _ member => absurd member List.not_mem_nil⟩

/-- Every checkout there is was started by one of the calls. -/
theorem started_of_checkout (calls : List BillingCall) :
    ∀ checkout ∈ (tablesAfter backend deps calls).checkouts,
      Started backend deps calls checkout.userId := by
  induction calls using List.reverseRecOn with
  | nil =>
      intro checkout member
      cases backend with
      | memory => exact absurd member List.not_mem_nil
      | postgres => exact absurd member List.not_mem_nil
  | append_singleton calls call ih =>
      intro checkout member
      rw [tablesAfter_concat] at member
      cases call with
      | process delivery =>
          obtain ⟨earlier, inBefore, same⟩ :=
            (stage_step delivery (owned_after calls)).grows.checkouts checkout member
          rw [← same]
          exact (ih earlier inBefore).mono
      | recordCheckout new accounts =>
          rcases recordCheckout_step _ new accounts with same | ⟨returned, same⟩
          · rw [same] at member
            exact (ih checkout member).mono
          · rw [same] at member
            rcases Keyed.mem_put member with rfl | old
            · refine ⟨new, accounts, rfl, ?_⟩
              rw [Object.transcript_append, Object.transcript, returned]
              exact List.mem_append_right _ List.mem_cons_self
            · exact (ih checkout old).mono

/-- Every binding was made after a checkout of its account was started. -/
theorem backed_after (calls : List BillingCall) :
    ∀ customerRef row, (tablesAfter backend deps calls).customer customerRef = some row →
      ∃ past rest, calls = past ++ rest ∧
        (tablesAfter backend deps past).customer customerRef = none ∧
        Started backend deps past row.userId := by
  induction calls using List.reverseRecOn with
  | nil =>
      intro customerRef row found
      cases backend with
      | memory => cases found
      | postgres => cases found
  | append_singleton calls call ih =>
      intro customerRef row found
      cases earlier : (tablesAfter backend deps calls).customer customerRef with
      | some old =>
          have kept := (kept_step call (owned_after calls)).1 customerRef old earlier
          rw [← tablesAfter_concat, found] at kept
          cases kept
          obtain ⟨past, rest, rfl, absent, started⟩ := ih customerRef row earlier
          exact ⟨past, rest ++ [call], List.append_assoc .., absent, started⟩
      | none =>
          refine ⟨calls, [call], rfl, earlier, ?_⟩
          rw [tablesAfter_concat] at found
          cases call with
          | process delivery =>
              rcases (stage_step delivery (owned_after calls)).grows.backed customerRef row found
                with old | ⟨checkout, member, same⟩
              · have impossible := earlier.symm.trans old
                cases impossible
              · rw [← same]
                exact started_of_checkout calls checkout member
          | recordCheckout new accounts =>
              have same : (tablesAfter backend deps calls).customer customerRef = some row := by
                rcases recordCheckout_step _ new accounts with same | ⟨_, same⟩
                · rw [same] at found
                  exact found
                · rw [same] at found
                  exact found
              rw [earlier] at same
              cases same

theorem kept_after (calls more : List BillingCall) :
    (∀ customerRef row, (tablesAfter backend deps calls).customer customerRef = some row →
        (tablesAfter backend deps (calls ++ more)).customer customerRef = some row) ∧
      ∀ subscriptionRef row,
        (tablesAfter backend deps calls).subscription subscriptionRef = some row →
          ∃ next, (tablesAfter backend deps (calls ++ more)).subscription subscriptionRef =
            some next ∧ next.userId = row.userId := by
  induction more using List.reverseRecOn with
  | nil =>
      rw [List.append_nil]
      exact ⟨fun _ _ found => found, fun _ row found => ⟨row, found, rfl⟩⟩
  | append_singleton more call ih =>
      rw [← List.append_assoc, tablesAfter_concat]
      have owned : Owned (tablesAfter backend deps (calls ++ more)) := owned_after _
      have kept := kept_step call owned
      constructor
      · intro customerRef row found
        exact kept.1 customerRef row (ih.1 customerRef row found)
      · intro subscriptionRef row found
        obtain ⟨middle, stored, same⟩ := ih.2 subscriptionRef row found
        obtain ⟨next, isNext, sameNext⟩ := kept.2 subscriptionRef middle stored
        exact ⟨next, isNext, sameNext.trans same⟩

/-- After any calls of either store: a customer has one account and an account one customer; a binding and
    a subscription's account stay whatever is called next; before a customer was bound, a checkout of
    its account had been started; and every subscription is the account's its customer is bound to. -/
theorem billing_ownership (backend : BillingBackend) (deps : BillingDeps) (calls : List BillingCall) :
    let tables := tablesAfter backend deps calls
    (∀ row ∈ tables.customers, ∀ other ∈ tables.customers,
        row.customerRef = other.customerRef ∨ row.userId = other.userId → row = other) ∧
      (∀ more customerRef row, tables.customer customerRef = some row →
        (tablesAfter backend deps (calls ++ more)).customer customerRef = some row) ∧
      (∀ customerRef row, tables.customer customerRef = some row →
        ∃ past rest, calls = past ++ rest ∧
          (tablesAfter backend deps past).customer customerRef = none ∧
          Started backend deps past row.userId) ∧
      (∀ row ∈ tables.subscriptions,
        ∃ owner, tables.customer row.customerRef = some owner ∧ owner.userId = row.userId) ∧
      ∀ more subscriptionRef row, tables.subscription subscriptionRef = some row →
        ∃ next, (tablesAfter backend deps (calls ++ more)).subscription subscriptionRef = some next ∧
          next.userId = row.userId := by
  intro tables
  have owned : Owned tables := owned_after calls
  refine ⟨?_, ?_, backed_after calls, owned.bound, ?_⟩
  · intro row member other inOther same
    rcases same with sameRef | sameUser
    · exact List.inj_on_of_nodup_map tables.customerKeys member inOther sameRef
    · exact List.inj_on_of_nodup_map owned.accounts member inOther sameUser
  · intro more
    exact (kept_after calls more).1
  · intro more
    exact (kept_after calls more).2

/-- A checkout, and the subscription that came of it, before the checkout was reported completed. -/
def subscribedAccount : List BillingCall :=
  [ .recordCheckout ⟨"cs", someStudent, "offer", 0⟩ [someStudent],
    .process (deliveryAt 1 subscriptionCreated) ]

theorem billing_ownership_subscribedAccount :
    (tablesAfter .postgres someDeps subscribedAccount).subscriptions.length = 1 ∧
      ∀ row ∈ (tablesAfter .postgres someDeps subscribedAccount).subscriptions,
        ∃ owner, (tablesAfter .postgres someDeps subscribedAccount).customer row.customerRef =
          some owner ∧ owner.userId = row.userId := by
  refine ⟨by decide +kernel, ?_⟩
  intro row member
  exact (billing_ownership .postgres someDeps subscribedAccount).2.2.2.1 row member

end Runs

end JumptotechLabs.Billing
