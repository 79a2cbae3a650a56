/-
Module: JumptotechLabs.Billing.Interleaving
Layer: Billing (apps/api/src/billing/store.ts)
Purpose: Transactions of the in-memory billing store that suspend between their steps. They run one after
  the other along `#chain`; checkouts are recorded, and access is changed, between any two steps. A
  transaction that throws puts back the maps as they were when it began, with the checkouts of others.
Main exports: Transaction, Running, BillingSystem, BillingAction, BillingSystem.run, recordedIn, lastRecorded,
  failed_transaction_restores
-/
import Mathlib.Data.List.Induction
import JumptotechLabs.Billing.Store

namespace JumptotechLabs.Billing

open JumptotechLabs.Access JumptotechLabs.Core

/-! ### The system -/

/-- A call of `transaction`: its work, and the accounts the directory lists. -/
structure Transaction (α : Type) where
  accounts : List String
  work : TxProg α

/-- The transaction in flight: the maps it saved, and what is left of its work. -/
structure Running (α : Type) where
  saved : BillingTables
  accounts : List String
  rest : TxProg α

/-- The store, the transactions waiting on `#chain`, the one in flight, and how those before it ended. -/
structure BillingSystem (α : Type) where
  world : BillingWorld InMemoryAccessStore
  chain : List (Transaction α)
  running : Option (Running α)
  ended : List (Except BillingFailure α)

/-- What can happen next. -/
inductive BillingAction (α : Type) where
  | submit (transaction : Transaction α)
  | enter
  | advance
  | leave
  | recordCheckout (checkout : NewCheckout)
  | changeAccess (access : InMemoryAccessStore)

namespace BillingSystem

variable {α : Type}

/-- One step, where it can happen. `leave` is the end of `work`: the `catch` puts the saved maps back. -/
def step (system : BillingSystem α) : BillingAction α → Option (BillingSystem α)
  | .submit transaction => some { system with chain := system.chain ++ [transaction] }
  | .enter =>
      match system.running, system.chain with
      | none, transaction :: chain =>
          some
            { system with
              chain := chain
              running := some ⟨system.world.tables, transaction.accounts, transaction.work⟩ }
      | _, _ => none
  | .advance =>
      match system.running with
      | some ⟨saved, accounts, .call command resume⟩ =>
          let (answer, world) := memoryTx accounts system.world command
          some { system with world := world, running := some ⟨saved, accounts, resume answer⟩ }
      | _ => none
  | .leave =>
      match system.running with
      | some ⟨_, _, .ret result⟩ =>
          some { system with running := none, ended := system.ended ++ [.ok result] }
      | some ⟨saved, _, .fail failure⟩ =>
          some
            { system with
              world := { system.world with tables := saved }
              running := none
              ended := system.ended ++ [.error failure] }
      | _ => none
  | .recordCheckout checkout =>
      some
        { system with
          world := { system.world with tables := system.world.tables.putCheckout checkout.row } }
  | .changeAccess access => some { system with world := { system.world with access := access } }

/-- The steps of an interleaving, one after the other. -/
def run (system : BillingSystem α) (actions : List (BillingAction α)) : Option (BillingSystem α) :=
  actions.foldlM step system

theorem run_snoc (system : BillingSystem α) (actions : List (BillingAction α))
    (action : BillingAction α) :
    system.run (actions ++ [action]) = (system.run actions).bind fun middle => middle.step action := by
  simp [run, List.foldlM_append]

end BillingSystem

variable {α : Type}

/-- Does an action begin or end a transaction? -/
def BillingAction.bounds : BillingAction α → Bool
  | .enter | .leave => true
  | _ => false

/-! ### What others record -/

/-- The maps once the checkouts recorded by some actions are in them, and nothing else of these. -/
def recordedIn : List (BillingAction α) → BillingTables → BillingTables
  | [], tables => tables
  | .recordCheckout checkout :: actions, tables => recordedIn actions (tables.putCheckout checkout.row)
  | _ :: actions, tables => recordedIn actions tables

/-- The row that was recorded last under a reference. -/
def lastRecorded (checkoutRef : String) : List (BillingAction α) → Option StoredCheckout
  | [] => none
  | .recordCheckout checkout :: actions =>
      (lastRecorded checkoutRef actions).or
        (if checkout.checkoutRef = checkoutRef then some checkout.row else none)
  | _ :: actions => lastRecorded checkoutRef actions

theorem checkout_putCheckout (tables : BillingTables) (row : StoredCheckout) (checkoutRef : String) :
    (tables.putCheckout row).checkout checkoutRef =
      if row.checkoutRef = checkoutRef then some row else tables.checkout checkoutRef :=
  Keyed.lookup_put checkoutRef row tables.checkouts

/-- Under each reference there is what was recorded last, or what was there. -/
theorem checkout_recordedIn (actions : List (BillingAction α)) (tables : BillingTables)
    (checkoutRef : String) :
    (recordedIn actions tables).checkout checkoutRef =
      (lastRecorded checkoutRef actions).or (tables.checkout checkoutRef) := by
  induction actions generalizing tables with
  | nil => rfl
  | cons action actions ih =>
      cases action with
      | recordCheckout checkout =>
          rw [recordedIn, ih, lastRecorded, checkout_putCheckout]
          by_cases same : checkout.checkoutRef = checkoutRef
          · simp [same, NewCheckout.row]
          · simp [same, NewCheckout.row]
      | submit | enter | advance | leave | changeAccess => exact ih tables

/-- A checkout that is recorded is recorded last, or another one is after it. -/
theorem lastRecorded_isSome {actions : List (BillingAction α)} {checkout : NewCheckout}
    (member : .recordCheckout checkout ∈ actions) :
    (lastRecorded checkout.checkoutRef actions).isSome = true := by
  induction actions with
  | nil => cases member
  | cons action actions ih =>
      rcases List.mem_cons.mp member with rfl | inActions
      · simp [lastRecorded]
      · have rest := ih inActions
        cases action with
        | recordCheckout other => simp [lastRecorded, rest]
        | submit | enter | advance | leave | changeAccess => exact rest

/-- And nothing is recorded last where nothing is recorded. -/
theorem recorded_of_lastRecorded {actions : List (BillingAction α)} {checkoutRef : String}
    {row : StoredCheckout} (isLast : lastRecorded checkoutRef actions = some row) :
    ∃ checkout, .recordCheckout checkout ∈ actions := by
  induction actions with
  | nil => cases isLast
  | cons action actions ih =>
      cases action with
      | recordCheckout checkout => exact ⟨checkout, List.mem_cons_self⟩
      | submit | enter | advance | leave | changeAccess =>
          obtain ⟨checkout, member⟩ := ih isLast
          exact ⟨checkout, List.mem_cons_of_mem _ member⟩

/-- Recording touches no other map. -/
theorem recordedIn_others (actions : List (BillingAction α)) (tables : BillingTables) :
    (recordedIn actions tables).customers = tables.customers ∧
      (recordedIn actions tables).subscriptions = tables.subscriptions ∧
      (recordedIn actions tables).events = tables.events := by
  induction actions generalizing tables with
  | nil => exact ⟨rfl, rfl, rfl⟩
  | cons action actions ih =>
      cases action with
      | recordCheckout checkout => exact ih (tables.putCheckout checkout.row)
      | submit | enter | advance | leave | changeAccess => exact ih tables

/-- Checkouts that are all there keep their places. -/
theorem keys_recordedIn (actions : List (BillingAction α)) (tables : BillingTables)
    (present : ∀ checkout, .recordCheckout checkout ∈ actions →
      tables.checkout checkout.checkoutRef ≠ none) :
    (recordedIn actions tables).checkouts.map StoredCheckout.checkoutRef =
      tables.checkouts.map StoredCheckout.checkoutRef := by
  induction actions generalizing tables with
  | nil => rfl
  | cons action actions ih =>
      have rest := fun other member => present other (List.mem_cons_of_mem action member)
      cases action with
      | recordCheckout checkout =>
          have here := present checkout List.mem_cons_self
          have stillPresent : ∀ other, .recordCheckout other ∈ actions →
              (tables.putCheckout checkout.row).checkout other.checkoutRef ≠ none := by
            intro other member
            rw [checkout_putCheckout]
            split
            · simp
            · exact rest other member
          have samePlaces : (tables.putCheckout checkout.row).checkouts.map
              StoredCheckout.checkoutRef = tables.checkouts.map StoredCheckout.checkoutRef :=
            Keyed.keys_put_of_present here
          calc
            (recordedIn actions (tables.putCheckout checkout.row)).checkouts.map
                StoredCheckout.checkoutRef
              = (tables.putCheckout checkout.row).checkouts.map StoredCheckout.checkoutRef :=
                ih _ stillPresent
            _ = tables.checkouts.map StoredCheckout.checkoutRef := samePlaces
      | submit | enter | advance | leave | changeAccess => exact ih tables rest

/-- Maps are the same when their rows are. -/
theorem BillingTables.eq_of_rows {tables tables' : BillingTables}
    (customers : tables.customers = tables'.customers) (checkouts : tables.checkouts = tables'.checkouts)
    (subscriptions : tables.subscriptions = tables'.subscriptions)
    (events : tables.events = tables'.events) : tables = tables' := by
  cases tables
  cases tables'
  cases customers
  cases checkouts
  cases subscriptions
  cases events
  rfl

/-- What is recorded changes nothing exactly if the last under each reference was there already. -/
theorem recordedIn_eq_iff (actions : List (BillingAction α)) (tables : BillingTables) :
    tables = recordedIn actions tables ↔
      ∀ checkoutRef row, lastRecorded checkoutRef actions = some row →
        tables.checkout checkoutRef = some row := by
  constructor
  · intro same checkoutRef row isLast
    have found := checkout_recordedIn actions tables checkoutRef
    rw [← same, isLast] at found
    exact found
  · intro there
    have present : ∀ checkout, .recordCheckout checkout ∈ actions →
        tables.checkout checkout.checkoutRef ≠ none := by
      intro checkout member
      obtain ⟨row, isLast⟩ := Option.isSome_iff_exists.mp (lastRecorded_isSome member)
      rw [there checkout.checkoutRef row isLast]
      simp
    have sameRows : ∀ checkoutRef, tables.checkout checkoutRef =
        (recordedIn actions tables).checkout checkoutRef := by
      intro checkoutRef
      rw [checkout_recordedIn]
      cases isLast : lastRecorded checkoutRef actions with
      | none => rfl
      | some row => exact there checkoutRef row isLast
    obtain ⟨customers, subscriptions, events⟩ := recordedIn_others actions tables
    apply BillingTables.eq_of_rows customers.symm _ subscriptions.symm events.symm
    exact Keyed.ext_of_keys tables.checkoutKeys (keys_recordedIn actions tables present).symm sameRows

/-! ### Since when a transaction is in flight -/

/-- The transaction in flight began at some point of the run, and none has begun or ended since. -/
structure InFlightSince (start : BillingSystem α) (actions before during : List (BillingAction α))
    (entered : BillingSystem α) (running : Running α) : Prop where
  actions : actions = before ++ .enter :: during
  reached : start.run before = some entered
  alone : ∀ action ∈ during, action.bounds = false
  saved : running.saved = entered.world.tables

/-- A step that begins and ends nothing leaves the transaction in flight with what it saved. -/
theorem saved_of_step {system next : BillingSystem α} {action : BillingAction α} {running : Running α}
    (stepped : system.step action = some next) (inside : action.bounds = false)
    (isRunning : next.running = some running) :
    ∃ earlier, system.running = some earlier ∧ running.saved = earlier.saved := by
  cases action with
  | enter | leave => cases inside
  | submit | recordCheckout | changeAccess =>
      cases stepped
      exact ⟨running, isRunning, rfl⟩
  | advance =>
      simp only [BillingSystem.step] at stepped
      split at stepped
      · rename_i saved accounts command resume isEarlier
        cases stepped
        cases isRunning
        exact ⟨_, isEarlier, rfl⟩
      · cases stepped

/-- Whatever was interleaved. -/
theorem in_flight_since {start system : BillingSystem α} {actions : List (BillingAction α)}
    {running : Running α} (idle : start.running = none) (reached : start.run actions = some system)
    (isRunning : system.running = some running) :
    ∃ before during entered, InFlightSince start actions before during entered running := by
  induction actions using List.reverseRecOn generalizing system running with
  | nil =>
      cases reached
      rw [idle] at isRunning
      cases isRunning
  | append_singleton actions action ih =>
      rw [BillingSystem.run_snoc] at reached
      obtain ⟨middle, isMiddle, stepped⟩ := Option.bind_eq_some_iff.mp reached
      cases inside : action.bounds with
      | false =>
          obtain ⟨earlier, isEarlier, sameSaved⟩ := saved_of_step stepped inside isRunning
          obtain ⟨before, during, entered, since⟩ := ih isMiddle isEarlier
          refine ⟨before, during ++ [action], entered, ?_, since.reached, ?_, sameSaved.trans since.saved⟩
          · rw [since.actions]
            simp
          · intro other member
            rcases List.mem_append.mp member with inDuring | isLast
            · exact since.alone other inDuring
            · rw [List.mem_singleton.mp isLast]
              exact inside
      | true =>
          cases action with
          | submit | advance | recordCheckout | changeAccess => cases inside
          | enter =>
              simp only [BillingSystem.step] at stepped
              split at stepped
              · cases stepped
                cases isRunning
                exact ⟨actions, [], middle, rfl, isMiddle, by simp, rfl⟩
              · cases stepped
          | leave =>
              simp only [BillingSystem.step] at stepped
              split at stepped
              · cases stepped
                cases isRunning
              · cases stepped
                cases isRunning
              · cases stepped

/-! ### A transaction that throws -/

/-- In every interleaving, a transaction that throws began at one point of it, and leaves the maps as they
    would be without it, the checkouts recorded meanwhile among them, exactly if the last of these under
    each reference was stored so when it began. -/
theorem failed_transaction_restores (start system : BillingSystem α) (actions : List (BillingAction α))
    (saved : BillingTables) (accounts : List String) (failure : BillingFailure)
    (idle : start.running = none) (reached : start.run actions = some system)
    (threw : system.running = some ⟨saved, accounts, .fail failure⟩) :
    ∃ after before during entered, system.step .leave = some after ∧
      actions = before ++ .enter :: during ∧ start.run before = some entered ∧
      (∀ action ∈ during, action.bounds = false) ∧
      (after.world.tables = recordedIn during entered.world.tables ↔
        ∀ checkoutRef row, lastRecorded checkoutRef during = some row →
          entered.world.tables.checkout checkoutRef = some row) := by
  obtain ⟨before, during, entered, since⟩ := in_flight_since idle reached threw
  have left : ∃ after, system.step .leave = some after ∧ after.world.tables = saved := by
    simp only [BillingSystem.step, threw]
    exact ⟨_, rfl, rfl⟩
  obtain ⟨after, isAfter, putBack⟩ := left
  refine ⟨after, before, during, entered, isAfter, since.actions, since.reached, since.alone, ?_⟩
  have isSaved : saved = entered.world.tables := since.saved
  rw [putBack, isSaved]
  exact recordedIn_eq_iff during entered.world.tables

/-- Nothing billed, and one delivery of the event of a customer nobody is bound to. -/
def unboundDelivery : BillingSystem ProcessResult where
  world := nothingBilled
  chain := [⟨[someStudent], process someDeps subscriptionCreated 0 0⟩]
  running := none
  ended := []

/-- A checkout of that account. -/
def someCheckout : NewCheckout := ⟨"cs", someStudent, "monthly", 0⟩

/-- The event is claimed, the customer looked up, and no checkout of the account is found. -/
def refusedSteps : List (BillingAction ProcessResult) := [.enter, .advance, .advance, .advance]

/-- Undisturbed, the transaction that throws leaves the maps as they would be without it. -/
theorem failed_transaction_restores_undisturbed :
    ∃ (system after : BillingSystem ProcessResult) (during : List (BillingAction ProcessResult))
        (entered : BillingSystem ProcessResult), unboundDelivery.run refusedSteps = some system ∧
      system.step .leave = some after ∧
      after.world.tables = recordedIn during entered.world.tables := by
  have reached : ∃ system, unboundDelivery.run refusedSteps = some system ∧
      system.running = some ⟨BillingTables.empty, [someStudent], .fail unmappedSubscription⟩ :=
    ⟨_, rfl, rfl⟩
  obtain ⟨system, isSystem, threw⟩ := reached
  obtain ⟨after, before, during, entered, left, split, _, _, restores⟩ :=
    failed_transaction_restores unboundDelivery system refusedSteps _ _ _ rfl isSystem threw
  refine ⟨system, after, during, entered, isSystem, left, restores.mpr ?_⟩
  intro checkoutRef row isLast
  obtain ⟨checkout, member⟩ := recorded_of_lastRecorded isLast
  have listed : .recordCheckout checkout ∈ refusedSteps := by
    rw [split]
    exact List.mem_append_right before (List.mem_cons_of_mem _ member)
  simp [refusedSteps] at listed

/-- A checkout that is recorded between the lookup and the throw is gone after it. -/
theorem failed_transaction_loses_checkout :
    ∃ system after, unboundDelivery.run (refusedSteps ++ [.recordCheckout someCheckout]) = some system ∧
      system.world.tables.checkout "cs" = some someCheckout.row ∧
      system.step .leave = some after ∧ after.ended = [.error unmappedSubscription] ∧
      after.world.tables.checkout "cs" = none := by
  exact ⟨_, _, rfl, rfl, rfl, rfl, rfl⟩

end JumptotechLabs.Billing
