/-
Module: JumptotechLabs.Billing.Lifecycle
Layer: Billing (apps/api/src/billing/types.ts, lifecycle.ts, config.ts)
Purpose: The provider's subscriptions as they are reported and stored, and what they entitle an account to:
  the window of each, and from all of them what billing's access row should be.
Main exports: SubscriptionStatus, SubscriptionSnapshot, StoredSubscription, BillingPolicy, BillingFailure,
  entitlementFor, desiredEntitlement, CommercialStatus, commercialStatus, primarySubscription
-/
import JumptotechLabs.Access.Entitlements

namespace JumptotechLabs.Billing

open JumptotechLabs.Access

/-! ### Subscriptions -/

/-- `SUBSCRIPTION_STATUSES`. -/
inductive SubscriptionStatus where
  | incomplete
  | incompleteExpired
  | trialing
  | active
  | pastDue
  | unpaid
  | canceled
  | paused
deriving DecidableEq, Inhabited

/-- A subscription as the provider reports it. -/
structure SubscriptionSnapshot where
  subscriptionRef : String
  customerRef : String
  priceRef : String
  status : SubscriptionStatus
  currentPeriodStart : Instant
  currentPeriodEnd : Instant
  cancelAtPeriodEnd : Bool
  endedAt : Option Instant
  clientReference : Option String
deriving DecidableEq, Inhabited

/-- A subscription as stored. Its provider is the one there is. -/
structure StoredSubscription where
  subscriptionRef : String
  userId : String
  customerRef : String
  priceRef : String
  planId : Option String
  status : SubscriptionStatus
  currentPeriodStart : Instant
  currentPeriodEnd : Instant
  cancelAtPeriodEnd : Bool
  endedAt : Option Instant
  /-- When the provider produced this state. -/
  providerStateAt : Instant
  updatedAt : Instant
deriving DecidableEq, Inhabited

/-- The two numbers that are business decisions. -/
structure BillingPolicy where
  renewalLeewayHours : Nat
  pastDueGraceHours : Nat
deriving DecidableEq, Inhabited

/-! ### Failures -/

/-- The codes of `BillingError` that processing an event throws. -/
inductive BillingErrorCode where
  | unmappedPrice
  | unmappedSubscription
deriving DecidableEq, Inhabited

/-- What processing an event throws: a `BillingError`, or what the access mutation, a date or the database
    threw. -/
inductive BillingFailure where
  | billingError (code : BillingErrorCode) (message : String)
  | thrown (failure : AccessFailure)
deriving DecidableEq, Inhabited

/-! ### Entitlements -/

def hour : Int := 3600000

/-- `new Date(ms).toISOString()`. -/
def iso (time : Int) : Except BillingFailure Instant :=
  match toISOString time with
  | .ok instant => .ok instant
  | .error failure => .error (.thrown failure)

/-- TRIAL during the provider's trial period. -/
def syncKind (status : SubscriptionStatus) : SyncKind :=
  if status = .trialing then .trial else .subscription

/-- A window from `start`, when both its ends are dates. -/
def window (subscription : StoredSubscription) (active : Bool) (ends : Int) :
    Except BillingFailure SyncRequest :=
  match iso subscription.currentPeriodStart, iso ends with
  | .ok startsAt, .ok expiresAt =>
      .ok
        { active := active
          startsAt := startsAt
          expiresAt := expiresAt
          kind := syncKind subscription.status
          planId := subscription.planId }
  | .error failure, _ => .error failure
  | _, .error failure => .error failure

/-- The window one subscription entitles, and whether it entitles at all. One that is set to end gets no
    leeway, and a failed payment's grace counts from the start of the unpaid period. -/
def entitlementFor (subscription : StoredSubscription) (policy : BillingPolicy) :
    Except BillingFailure SyncRequest :=
  match subscription.status with
  | .trialing | .active =>
      let leeway := if subscription.cancelAtPeriodEnd then 0 else policy.renewalLeewayHours * hour
      window subscription true (subscription.currentPeriodEnd + leeway)
  | .pastDue =>
      if 0 < policy.pastDueGraceHours then
        window subscription true (subscription.currentPeriodStart + policy.pastDueGraceHours * hour)
      else window subscription false subscription.currentPeriodEnd
  | .unpaid | .incomplete | .incompleteExpired | .paused | .canceled =>
      window subscription false subscription.currentPeriodEnd

/-- The order of `sort` by end, descending. -/
def byEnd (a b : SyncRequest) : Bool := decide (b.expiresAt ≤ a.expiresAt)

/-- Billing's row for an account with these subscriptions: the entitling one that runs longest, or, when
    none entitles, the one that ended last. -/
def desiredEntitlement (subscriptions : List StoredSubscription) (policy : BillingPolicy) :
    Except BillingFailure (Option SyncRequest) :=
  if subscriptions.isEmpty then .ok none
  else
    match subscriptions.mapM (entitlementFor · policy) with
    | .error failure => .error failure
    | .ok all =>
        match ((all.filter SyncRequest.active).mergeSort byEnd).head? with
        | some longest => .ok (some longest)
        | none => .ok (all.mergeSort byEnd).head?

/-! ### What a student is told -/

/-- `COMMERCIAL_STATUSES`. -/
inductive CommercialStatus where
  | none
  | trial
  | active
  | canceling
  | paymentProblem
  | paused
  | ended
deriving DecidableEq, Inhabited

def commercialStatus : Option StoredSubscription → CommercialStatus
  | Option.none => .none
  | some subscription =>
      match subscription.status with
      | .trialing => if subscription.cancelAtPeriodEnd then .canceling else .trial
      | .active => if subscription.cancelAtPeriodEnd then .canceling else .active
      | .pastDue | .unpaid | .incomplete => .paymentProblem
      | .paused => .paused
      | .canceled | .incompleteExpired => .ended

/-- The order of `primarySubscription`'s sort: entitling ones first, then by end and by update, both
    descending. -/
def ranksFirst (a b : StoredSubscription × SyncRequest) : Bool :=
  if a.2.active != b.2.active then a.2.active
  else if a.2.expiresAt != b.2.expiresAt then decide (b.2.expiresAt ≤ a.2.expiresAt)
  else decide (b.1.updatedAt ≤ a.1.updatedAt)

/-- The subscription a student is told about: the one that entitles longest, else the latest. -/
def primarySubscription (subscriptions : List StoredSubscription) (policy : BillingPolicy) :
    Except BillingFailure (Option StoredSubscription) :=
  if subscriptions.isEmpty then .ok none
  else
    match subscriptions.mapM (entitlementFor · policy) with
    | .error failure => .error failure
    | .ok requests =>
        .ok ((((subscriptions.zip requests).mergeSort ranksFirst).head?).map Prod.fst)

end JumptotechLabs.Billing
