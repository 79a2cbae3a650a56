/-
Module: JumptotechLabs.Billing.Processor
Layer: Billing (apps/api/src/billing/processor.ts, store.ts)
Purpose: Webhook processing. What a webhook's processing may read and write inside one transaction is a
  signature of commands, and `process` is a program over it: claim the event's id, find whose account it
  is, refuse what is older than what is stored, store the subscription and synchronise billing's row.
Main exports: BillingEvent, StoredEvent, StoredCheckout, TxCommand, BillingTx, ProcessResult, process
-/
import JumptotechLabs.Access.Store
import JumptotechLabs.Billing.Lifecycle
import JumptotechLabs.Core.Program

namespace JumptotechLabs.Billing

open JumptotechLabs.Access JumptotechLabs.Core

/-! ### Events -/

/-- What a verified provider event says happened. -/
inductive EventKind where
  | checkoutCompleted (checkoutRef customerRef : String) (clientReference : Option String)
  | subscription (subscription : SubscriptionSnapshot)
  | ignored
deriving DecidableEq, Inhabited

/-- The subscription an event is about. -/
def EventKind.subscriptionRef : EventKind → Option String
  | .subscription s => some s.subscriptionRef
  | _ => none

/-- A verified provider event. -/
structure BillingEvent where
  eventId : String
  eventType : String
  occurredAt : Instant
  kind : EventKind
deriving DecidableEq, Inhabited

/-- A purchasable offer, as far as an event is concerned. -/
structure Offer where
  priceRef : String
  /-- None: no plan, which is every track. -/
  planId : Option String
deriving DecidableEq, Inhabited

inductive EventOutcome where
  | applied
  | stale
  | ignored
deriving DecidableEq, Inhabited

structure StoredEvent where
  eventId : String
  eventType : String
  outcome : EventOutcome
  subscriptionRef : Option String
  occurredAt : Instant
  processedAt : Instant
deriving DecidableEq, Inhabited

structure StoredCheckout where
  checkoutRef : String
  userId : String
  offerId : String
  createdAt : Instant
  completedAt : Option Instant
deriving DecidableEq, Inhabited

/-- What `bindCustomer` answers. -/
inductive Binding where
  | bound
  | exists
  | conflict
deriving DecidableEq, Inhabited

/-! ### The transaction's interface -/

/-- `BillingTx`, of one provider. -/
inductive TxCommand where
  | claimEvent (event : BillingEvent) (time : Instant)
  | setEventOutcome (eventId : String) (outcome : EventOutcome)
  | customerUser (customerRef : String)
  | bindCustomer (customerRef userId : String) (time : Instant)
  | checkout (checkoutRef : String)
  | hasCheckoutFor (userId : String)
  | completeCheckout (checkoutRef : String) (time : Instant)
  | subscription (subscriptionRef : String)
  | putSubscription (subscription : StoredSubscription)
  | subscriptionsOf (userId : String)
  | lockAccount (userId : String)
  | mutateAccess (input : MutationInput) (now : Instant)
deriving DecidableEq, Inhabited

abbrev TxCommand.Answer : TxCommand → Type
  | .claimEvent .. => Bool
  | .setEventOutcome .. => Unit
  | .customerUser .. => Option String
  | .bindCustomer .. => Binding
  | .checkout .. => Option StoredCheckout
  | .hasCheckoutFor .. => Bool
  | .completeCheckout .. => Unit
  | .subscription .. => Option StoredSubscription
  | .putSubscription .. => Unit
  | .subscriptionsOf .. => List StoredSubscription
  | .lockAccount .. => Unit
  | .mutateAccess .. => MutationResult

abbrev BillingTx : Signature := ⟨TxCommand, TxCommand.Answer⟩

abbrev TxProg (α : Type) : Type := Prog BillingTx BillingFailure α

/-- One call of the transaction's interface. -/
def tx (command : TxCommand) : TxProg command.Answer := Prog.perform (S := BillingTx) command

/-! ### Processing -/

/-- `BillingProcessorDeps`: the provider's id, the configured offers, the plans there are, the policy. -/
structure BillingDeps where
  provider : String
  offers : List Offer
  plans : List String
  policy : BillingPolicy
deriving DecidableEq, Inhabited

/-- `ProcessOutcome`. -/
inductive ProcessOutcome where
  | applied
  | duplicate
  | stale
  | ignored
deriving DecidableEq, Inhabited

structure ProcessResult where
  outcome : ProcessOutcome
  userId : Option String := none
  reason : Option String := none
deriving DecidableEq, Inhabited

def EventOutcome.toOutcome : EventOutcome → ProcessOutcome
  | .applied => .applied
  | .stale => .stale
  | .ignored => .ignored

/-- One line for the access history: the event, never its payload. -/
def reasonFor (event : BillingEvent) : String :=
  String.ofList (("billing event " ++ event.eventType ++ " " ++ event.eventId).toList.take 500)

/-- Record how the event ended, and return it. -/
def settle (event : BillingEvent) (outcome : EventOutcome) (userId reason : Option String := none) :
    TxProg ProcessResult := do
  tx (.setEventOutcome event.eventId outcome)
  return { outcome := outcome.toOutcome, userId := userId, reason := reason }

/-- `process`, of a completed checkout: bind its customer, if it is a checkout started here for that
    account. -/
def processCheckout (event : BillingEvent) (checkoutRef customerRef : String)
    (clientReference : Option String) (time : Instant) : TxProg ProcessResult := do
  match ← tx (.checkout checkoutRef) with
  | none => settle event .ignored none "checkout_not_ours"
  | some checkout =>
      if clientReference.any (· != checkout.userId) then
        settle event .ignored none "checkout_not_ours"
      else
        match ← tx (.bindCustomer customerRef checkout.userId time) with
        | .conflict => settle event .ignored checkout.userId "ownership_conflict"
        | .bound | .exists =>
            tx (.completeCheckout checkoutRef time)
            settle event .applied checkout.userId

/-- Does an offer name the price, with a plan that exists? -/
def BillingDeps.offerFor (deps : BillingDeps) (priceRef : String) : Option Offer :=
  (deps.offers.find? (·.priceRef == priceRef)).filter fun offer =>
    offer.planId.all deps.plans.contains

/-- The state an event carries, as it is stored. -/
def storedFrom (event : BillingEvent) (s : SubscriptionSnapshot) (userId : String)
    (planId : Option String) (time : Instant) : StoredSubscription where
  subscriptionRef := s.subscriptionRef
  userId := userId
  customerRef := s.customerRef
  priceRef := s.priceRef
  planId := planId
  status := s.status
  currentPeriodStart := s.currentPeriodStart
  currentPeriodEnd := s.currentPeriodEnd
  cancelAtPeriodEnd := s.cancelAtPeriodEnd
  endedAt := s.endedAt
  providerStateAt := event.occurredAt
  updatedAt := time

/-- `process`, of a subscription whose account is known. -/
def processFor (deps : BillingDeps) (event : BillingEvent) (s : SubscriptionSnapshot)
    (userId : String) (time now : Instant) : TxProg ProcessResult := do
  tx (.lockAccount userId)
  let existing ← tx (.subscription s.subscriptionRef)
  if existing.any (·.userId != userId) then
    settle event .ignored none "ownership_conflict"
  else if existing.any fun stored => decide (event.occurredAt < stored.providerStateAt) then
    settle event .stale userId "older_than_stored"
  else
    match deps.offerFor s.priceRef with
    | none =>
        throw (.billingError .unmappedPrice
          "The subscription is for a price no configured offer names.")
    | some offer =>
        tx (.putSubscription (storedFrom event s userId offer.planId time))
        let subscriptions ← tx (.subscriptionsOf userId)
        match ← Prog.settle (desiredEntitlement subscriptions deps.policy) with
        | none => settle event .applied userId
        | some desired =>
            let _ ← tx (.mutateAccess
              { userId := userId
                source := some .billing
                action := .sync
                actor := "billing." ++ deps.provider
                reason := reasonFor event
                sync := some desired } now)
            settle event .applied userId

/-- The error of a subscription that belongs to nobody. -/
def unmappedSubscription : BillingFailure :=
  .billingError .unmappedSubscription
    "This subscription belongs to no account this platform knows yet."

/-- `process`, of a subscription whose customer is not bound: of the account it names, if a checkout was
    started here for that one. -/
def processUnbound (deps : BillingDeps) (event : BillingEvent) (s : SubscriptionSnapshot)
    (time now : Instant) : TxProg ProcessResult := do
  match s.clientReference.filter (· ≠ "") with
  | none => throw unmappedSubscription
  | some userId =>
      if ← tx (.hasCheckoutFor userId) then
        match ← tx (.bindCustomer s.customerRef userId time) with
        | .conflict => settle event .ignored none "ownership_conflict"
        | .bound | .exists => processFor deps event s userId time now
      else throw unmappedSubscription

/-- `process`, of a subscription. An empty text is no account. -/
def processSubscription (deps : BillingDeps) (event : BillingEvent) (s : SubscriptionSnapshot)
    (time now : Instant) : TxProg ProcessResult := do
  match (← tx (.customerUser s.customerRef)).filter (· ≠ "") with
  | some userId => processFor deps event s userId time now
  | none => processUnbound deps event s time now

/-- Process one verified event. The clock is read once before the transaction, and again by the access
    mutation. -/
def process (deps : BillingDeps) (event : BillingEvent) (time now : Instant) :
    TxProg ProcessResult := do
  if ← tx (.claimEvent event time) then
    match event.kind with
    | .ignored => settle event .ignored none "event_type_not_used"
    | .checkoutCompleted checkoutRef customerRef clientReference =>
        processCheckout event checkoutRef customerRef clientReference time
    | .subscription s => processSubscription deps event s time now
  else return { outcome := .duplicate }

end JumptotechLabs.Billing
