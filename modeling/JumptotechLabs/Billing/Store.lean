/-
Module: JumptotechLabs.Billing.Store
Layer: Billing (apps/api/src/billing/store.ts)
Purpose: The in-memory billing store: its four maps, what each call of the transaction's interface does to
  them, and `transaction`, which puts them back when the work throws. The access store is another object;
  the transaction does not put that one back.
Main exports: CustomerRow, BillingTables, BillingWorld, Delivery, memoryTx, transaction, recordCheckout,
  BillingCall, memoryBilling
-/
import JumptotechLabs.Access.Refinement
import JumptotechLabs.Billing.Processor
import JumptotechLabs.Core.Handler

namespace JumptotechLabs.Billing

open JumptotechLabs.Access JumptotechLabs.Core

/-! ### The maps -/

/-- Which account a provider's customer is. -/
structure CustomerRow where
  customerRef : String
  userId : String
  createdAt : Instant
deriving DecidableEq, Inhabited

/-- `#customers`, `#checkouts`, `#subscriptions` and `#events`, of the one provider: each key is a
    reference. -/
structure BillingTables where
  customers : List CustomerRow
  checkouts : List StoredCheckout
  subscriptions : List StoredSubscription
  events : List StoredEvent
  customerKeys : Keyed.Distinct CustomerRow.customerRef customers
  checkoutKeys : Keyed.Distinct StoredCheckout.checkoutRef checkouts
  subscriptionKeys : Keyed.Distinct StoredSubscription.subscriptionRef subscriptions
  eventKeys : Keyed.Distinct StoredEvent.eventId events

namespace BillingTables

def empty : BillingTables := ⟨[], [], [], [], .nil, .nil, .nil, .nil⟩

variable (tables : BillingTables)

def customer (customerRef : String) : Option CustomerRow :=
  Keyed.lookup CustomerRow.customerRef customerRef tables.customers

def checkout (checkoutRef : String) : Option StoredCheckout :=
  Keyed.lookup StoredCheckout.checkoutRef checkoutRef tables.checkouts

def subscription (subscriptionRef : String) : Option StoredSubscription :=
  Keyed.lookup StoredSubscription.subscriptionRef subscriptionRef tables.subscriptions

def event (eventId : String) : Option StoredEvent :=
  Keyed.lookup StoredEvent.eventId eventId tables.events

/-- The row a claim records. -/
def putEvent (event : BillingEvent) (time : Instant) : BillingTables :=
  { tables with
    events := Keyed.put StoredEvent.eventId
      { eventId := event.eventId
        eventType := event.eventType
        outcome := .applied
        subscriptionRef := event.kind.subscriptionRef
        occurredAt := event.occurredAt
        processedAt := time } tables.events
    eventKeys := tables.eventKeys.put }

def setEventOutcome (eventId : String) (outcome : EventOutcome) : BillingTables :=
  { tables with
    events := Keyed.modify StoredEvent.eventId eventId ({ · with outcome := outcome }) tables.events
    eventKeys := tables.eventKeys.modify fun _ => rfl }

def putCustomer (row : CustomerRow) : BillingTables :=
  { tables with
    customers := Keyed.put CustomerRow.customerRef row tables.customers
    customerKeys := tables.customerKeys.put }

def putCheckout (row : StoredCheckout) : BillingTables :=
  { tables with
    checkouts := Keyed.put StoredCheckout.checkoutRef row tables.checkouts
    checkoutKeys := tables.checkoutKeys.put }

/-- The first completion of a checkout stays. -/
def completeCheckout (checkoutRef : String) (time : Instant) : BillingTables :=
  { tables with
    checkouts := Keyed.modify StoredCheckout.checkoutRef checkoutRef
      (fun row => { row with completedAt := row.completedAt.or (some time) }) tables.checkouts
    checkoutKeys := tables.checkoutKeys.modify fun _ => rfl }

def putSubscription (row : StoredSubscription) : BillingTables :=
  { tables with
    subscriptions := Keyed.put StoredSubscription.subscriptionRef row tables.subscriptions
    subscriptionKeys := tables.subscriptionKeys.put }

end BillingTables

/-! ### The transaction -/

/-- The billing tables, and the access store beside them. -/
structure BillingWorld (Access : Type) where
  tables : BillingTables
  access : Access

/-- What `mutateAccess` hands on: the store's reply, its error thrown again. -/
def thrownFrom : AccessReply → Except BillingFailure MutationResult
  | .ok result => .ok result
  | .error failure => .error (.thrown failure)

/-- `bindCustomer`: one account for each customer, one customer for each account. -/
def bindInMemory (tables : BillingTables) (customerRef userId : String) (time : Instant) :
    Binding × BillingTables :=
  match tables.customer customerRef with
  | some existing => (if existing.userId = userId then .exists else .conflict, tables)
  | none =>
      if tables.customers.any (·.userId == userId) then (.conflict, tables)
      else (.bound, tables.putCustomer ⟨customerRef, userId, time⟩)

/-- `#tx`: what each call does. `accounts` are those the directory lists. -/
def memoryTx (accounts : List String) :
    Handler BillingTx BillingFailure (BillingWorld InMemoryAccessStore) :=
  fun world command =>
    match command with
    | .claimEvent event time =>
        if (world.tables.event event.eventId).isSome then (.ok false, world)
        else (.ok true, { world with tables := world.tables.putEvent event time })
    | .setEventOutcome eventId outcome =>
        (.ok (), { world with tables := world.tables.setEventOutcome eventId outcome })
    | .customerUser customerRef =>
        (.ok ((world.tables.customer customerRef).map CustomerRow.userId), world)
    | .bindCustomer customerRef userId time =>
        let (answer, tables) := bindInMemory world.tables customerRef userId time
        (.ok answer, { world with tables := tables })
    | .checkout checkoutRef => (.ok (world.tables.checkout checkoutRef), world)
    | .hasCheckoutFor userId => (.ok (world.tables.checkouts.any (·.userId == userId)), world)
    | .completeCheckout checkoutRef time =>
        (.ok (), { world with tables := world.tables.completeCheckout checkoutRef time })
    | .subscription subscriptionRef => (.ok (world.tables.subscription subscriptionRef), world)
    | .putSubscription row => (.ok (), { world with tables := world.tables.putSubscription row })
    | .subscriptionsOf userId =>
        (.ok (world.tables.subscriptions.filter (·.userId == userId)), world)
    | .lockAccount _ => (.ok (), world)
    | .mutateAccess input now =>
        let (reply, access) := world.access.mutate ⟨input, now, accounts⟩
        (thrownFrom reply, { world with access := access })

/-- One call of the interface, and what follows it. -/
theorem ensures_tx {σ α : Type} {handler : Handler BillingTx BillingFailure σ} {state : σ}
    {command : TxCommand} {f : command.Answer → TxProg α} {post : Except BillingFailure α → σ → Prop} :
    (tx command >>= f).Ensures handler.effects state post ↔
      Prog.thenEnsures handler.effects f post (handler state command).1 (handler state command).2 := by
  rw [Prog.ensures_bind]
  exact Prog.ensures_perform_effects (S := BillingTx) handler command _

/-- Snapshot, and put back on failure. -/
def transactionInMemory {α : Type} (accounts : List String) (work : TxProg α)
    (world : BillingWorld InMemoryAccessStore) :
    Except BillingFailure α × BillingWorld InMemoryAccessStore :=
  match work.run (memoryTx accounts) world with
  | (.ok result, after) => (.ok result, after)
  | (.error failure, after) => (.error failure, { after with tables := world.tables })

/-! ### The store -/

/-- One delivery of an event: what the clock reads before the transaction and at the access mutation, and
    the accounts there are. -/
structure Delivery where
  event : BillingEvent
  time : Instant
  now : Instant
  accounts : List String
deriving DecidableEq, Inhabited

/-- `recordCheckout`'s argument. -/
structure NewCheckout where
  checkoutRef : String
  userId : String
  offerId : String
  createdAt : Instant
deriving DecidableEq, Inhabited

def NewCheckout.row (checkout : NewCheckout) : StoredCheckout where
  checkoutRef := checkout.checkoutRef
  userId := checkout.userId
  offerId := checkout.offerId
  createdAt := checkout.createdAt
  completedAt := none

/-- What is asked of a billing store: start a checkout, or process an event. -/
inductive BillingCall where
  | recordCheckout (checkout : NewCheckout) (accounts : List String)
  | process (delivery : Delivery)
deriving DecidableEq, Inhabited

/-- A started checkout returns nothing; a processed event returns its outcome. -/
abbrev BillingReply := Except BillingFailure (Option ProcessResult)

def processInMemory (deps : BillingDeps) (delivery : Delivery)
    (world : BillingWorld InMemoryAccessStore) :
    Except BillingFailure ProcessResult × BillingWorld InMemoryAccessStore :=
  transactionInMemory delivery.accounts
    (process deps delivery.event delivery.time delivery.now) world

/-- The in-memory store as an object. A checkout under a reference that is there replaces it. -/
abbrev memoryBilling (deps : BillingDeps) : Object BillingCall BillingReply where
  State := BillingWorld InMemoryAccessStore
  step := fun world call =>
    match call with
    | .recordCheckout checkout _ =>
        (.ok none, { world with tables := world.tables.putCheckout checkout.row })
    | .process delivery =>
        let (reply, after) := processInMemory deps delivery world
        (reply.map some, after)

/-! ### A concrete account -/

/-- One offer, with no plan. -/
def someDeps : BillingDeps := ⟨"test", [⟨"price", none⟩], [], ⟨0, 0⟩⟩

/-- Nothing stored. -/
def nothingBilled : BillingWorld InMemoryAccessStore := ⟨.empty, .empty⟩

/-- A delivery of an event, at an instant. -/
def deliveryAt (now : Instant) (event : BillingEvent) : Delivery := ⟨event, now, now, [someStudent]⟩

/-- A paid subscription of a customer nobody is bound to yet. -/
def subscriptionCreated : BillingEvent :=
  { eventId := "evt-1"
    eventType := "subscription.created"
    occurredAt := 0
    kind := .subscription
      { subscriptionRef := "sub"
        customerRef := "cus"
        priceRef := "price"
        status := .active
        currentPeriodStart := 0
        currentPeriodEnd := 100
        cancelAtPeriodEnd := true
        endedAt := none
        clientReference := some someStudent } }

end JumptotechLabs.Billing
