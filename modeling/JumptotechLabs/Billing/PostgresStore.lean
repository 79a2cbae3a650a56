/-
Module: JumptotechLabs.Billing.PostgresStore
Layer: Billing (apps/api/src/billing/postgres-store.ts, services/progress/migrations/010_billing.sql)
Purpose: The durable billing store: the tables of migration 010 with their constraints, what each statement
  of the transaction's interface does to them, and the transaction, which rolls back both billing and
  access when the work throws.
Main exports: bindInPostgres, upsertSubscription, postgresTx, transactionInPostgres, postgresBilling
-/
import JumptotechLabs.Access.PostgresStore
import JumptotechLabs.Billing.Store

namespace JumptotechLabs.Billing

open JumptotechLabs.Access JumptotechLabs.Core

/-! ### Constraints -/

/-- A text column of bounded length. No text parameter may hold a NUL. -/
def textAllowed (limit : Nat) (text : String) : Bool :=
  decide (1 ≤ text.length ∧ text.length ≤ limit) && !hasNul text

/-- A provider's reference. -/
def refAllowed (ref : String) : Bool := textAllowed 255 ref

/-- `offer_id ~ '^[a-z0-9][a-z0-9-]{0,47}$'`. -/
def offerIdAllowed (offerId : String) : Bool :=
  match offerId.toList with
  | first :: rest =>
      isPlanIdChar first && rest.length ≤ 47 && rest.all fun c => isPlanIdChar c || c == '-'
  | [] => false

/-- The CHECK constraints of `billing_events`. -/
def eventRowAllowed (event : BillingEvent) (time : Instant) : Bool :=
  refAllowed event.eventId && textAllowed 100 event.eventType &&
    event.kind.subscriptionRef.all refAllowed && stampAllowed event.occurredAt && stampAllowed time

/-- The CHECK constraints of `billing_subscriptions`, and the type of its account. -/
def subscriptionRowAllowed (row : StoredSubscription) : Bool :=
  refAllowed row.subscriptionRef && isUuid row.userId && refAllowed row.customerRef &&
    refAllowed row.priceRef && planIdAllowed row.planId && stampAllowed row.currentPeriodStart &&
    stampAllowed row.currentPeriodEnd && row.endedAt.all stampAllowed &&
    stampAllowed row.providerStateAt && stampAllowed row.updatedAt &&
    decide (row.currentPeriodStart < row.currentPeriodEnd)

/-- The CHECK constraints of `billing_checkouts`, and the type of its account. -/
def checkoutRowAllowed (row : StoredCheckout) : Bool :=
  refAllowed row.checkoutRef && isUuid row.userId && offerIdAllowed row.offerId &&
    stampAllowed row.createdAt

/-! ### Statements -/

/-- A statement whose text parameter the driver cannot send, or one that runs. -/
def withText {α : Type} (text : String) (answer : α) : Except BillingFailure α :=
  if hasNul text then .error (.thrown .driver) else .ok answer

/-- `INSERT … ON CONFLICT DO NOTHING`, against both the primary key and the one customer an account may
    have; when nothing was inserted, whose customer it is. -/
def bindInPostgres (accounts : List String) (tables : BillingTables) (customerRef userId : String)
    (time : Instant) : Except BillingFailure Binding × BillingTables :=
  if !isUuid userId then (.ok .conflict, tables)
  else if !refAllowed customerRef || !stampAllowed time then (.error (.thrown .driver), tables)
  else if (tables.customer customerRef).isSome || tables.customers.any (·.userId == userId) then
    if (tables.customer customerRef).any (·.userId == userId) then (.ok .exists, tables)
    else (.ok .conflict, tables)
  else if !accounts.contains userId then (.error (.thrown .driver), tables)
  else (.ok .bound, tables.putCustomer ⟨customerRef, userId, time⟩)

/-- `INSERT … ON CONFLICT DO UPDATE … WHERE`: never over another account's row or a newer state. -/
def upsertSubscription (accounts : List String) (tables : BillingTables) (row : StoredSubscription) :
    Except BillingFailure Unit × BillingTables :=
  if !subscriptionRowAllowed row then (.error (.thrown .driver), tables)
  else
    match tables.subscription row.subscriptionRef with
    | some existing =>
        if existing.userId = row.userId ∧ existing.providerStateAt ≤ row.providerStateAt then
          (.ok (), tables.putSubscription row)
        else (.ok (), tables)
    | none =>
        if accounts.contains row.userId then (.ok (), tables.putSubscription row)
        else (.error (.thrown .driver), tables)

/-- `#tx`: what each statement does. `accounts` are the rows of `users`. -/
def postgresTx (accounts : List String) :
    Handler BillingTx BillingFailure (BillingWorld PostgresAccessStore) :=
  fun world command =>
    match command with
    | .claimEvent event time =>
        if !eventRowAllowed event time then (.error (.thrown .driver), world)
        else if (world.tables.event event.eventId).isSome then (.ok false, world)
        else (.ok true, { world with tables := world.tables.putEvent event time })
    | .setEventOutcome eventId outcome =>
        (withText eventId (), { world with tables := world.tables.setEventOutcome eventId outcome })
    | .customerUser customerRef =>
        (withText customerRef ((world.tables.customer customerRef).map CustomerRow.userId), world)
    | .bindCustomer customerRef userId time =>
        let (answer, tables) := bindInPostgres accounts world.tables customerRef userId time
        (answer, { world with tables := tables })
    | .checkout checkoutRef => (withText checkoutRef (world.tables.checkout checkoutRef), world)
    | .hasCheckoutFor userId =>
        (.ok (isUuid userId && world.tables.checkouts.any (·.userId == userId)), world)
    | .completeCheckout checkoutRef time =>
        (withText checkoutRef (),
          { world with tables := world.tables.completeCheckout checkoutRef time })
    | .subscription subscriptionRef =>
        (withText subscriptionRef (world.tables.subscription subscriptionRef), world)
    | .putSubscription row =>
        let (answer, tables) := upsertSubscription accounts world.tables row
        (answer, { world with tables := tables })
    | .subscriptionsOf userId =>
        (.ok
          (if isUuid userId then
            (world.tables.subscriptions.filter (·.userId == userId)).mergeSort
              fun a b => decide (b.updatedAt ≤ a.updatedAt)
          else []),
          world)
    | .lockAccount userId =>
        (if isUuid userId then .ok () else .error (.thrown .driver), world)
    | .mutateAccess input now =>
        let (reply, access) := world.access.mutate ⟨input, now, accounts⟩
        (thrownFrom reply, { world with access := access })

/-- BEGIN, and COMMIT or ROLLBACK. -/
def transactionInPostgres {α : Type} (accounts : List String) (work : TxProg α)
    (world : BillingWorld PostgresAccessStore) :
    Except BillingFailure α × BillingWorld PostgresAccessStore :=
  match work.run (postgresTx accounts) world with
  | (.ok result, after) => (.ok result, after)
  | (.error failure, after) =>
      (.error failure, ⟨world.tables, world.access.rollback after.access⟩)

/-- The durable store as an object. A checkout under a reference that is there is refused. -/
abbrev postgresBilling (deps : BillingDeps) : Object BillingCall BillingReply where
  State := BillingWorld PostgresAccessStore
  step := fun world call =>
    match call with
    | .recordCheckout checkout accounts =>
        if checkoutRowAllowed checkout.row && (world.tables.checkout checkout.checkoutRef).isNone &&
            accounts.contains checkout.userId then
          (.ok none, { world with tables := world.tables.putCheckout checkout.row })
        else (.error (.thrown .driver), world)
    | .process delivery =>
        let (reply, after) := transactionInPostgres delivery.accounts
          (process deps delivery.event delivery.time delivery.now) world
        (reply.map some, after)

end JumptotechLabs.Billing
