/-
Module: JumptotechLabs.Billing.Service
Layer: Billing (apps/api/src/billing/service.ts, test-provider.ts)
Purpose: What a signed-in student can do about billing. `view` and `startCheckout` are programs over what
  they read of the stores and the clock and what they ask of the provider; `serviceHandler` answers them
  from fixed stores, a clock and the test provider.
Main exports: ConfiguredOffer, ServiceFailure, ServiceCommand, ServiceDeps, AccountBillingView, view,
  startCheckout, BillingReads, ServiceWorld, serviceHandler
-/
import JumptotechLabs.Billing.Store

namespace JumptotechLabs.Billing

open JumptotechLabs.Access JumptotechLabs.Core

/-! ### Offers and plans -/

inductive Interval where
  | month
  | year
deriving DecidableEq, Inhabited

/-- `Offer`, with what is shown of it. -/
structure ConfiguredOffer extends Offer where
  id : String
  name : String
  description : Option String
  priceLabel : Option String
  interval : Option Interval
  features : List String
deriving DecidableEq, Inhabited

/-- The tracks of a plan. -/
inductive Tracks where
  | all
  | only (ids : List String)
deriving DecidableEq, Inhabited

/-- `Plan`, without its text and its limit, which billing does not read. -/
structure Plan where
  id : String
  name : String
  tracks : Tracks
deriving DecidableEq, Inhabited

structure OfferView where
  id : String
  name : String
  description : Option String
  priceLabel : Option String
  interval : Option Interval
  features : List String
  plan : Option Plan
deriving DecidableEq, Inhabited

/-! ### Views and failures -/

structure SubscriptionView where
  status : CommercialStatus
  planId : Option String
  planName : Option String
  currentPeriodEnd : Instant
  cancelAtPeriodEnd : Bool
  /-- Until when the subscription entitles lab use, if it does. -/
  accessUntil : Option Instant
deriving DecidableEq, Inhabited

/-- `AccountBillingView`. Billing is enabled and the provider's mode is `test`: there is no other. -/
structure AccountBillingView where
  offers : List OfferView
  subscription : Option SubscriptionView
  canManageBilling : Bool
  canSubscribe : Bool
deriving DecidableEq, Inhabited

/-- The codes of `BillingError` that a checkout throws. -/
inductive ServiceErrorCode where
  | offerNotFound
  | accountSuspended
  | alreadySubscribed
  | tooManyCheckouts
  | providerUnavailable
deriving DecidableEq, Inhabited

/-- A `BillingError`, or what a date threw. -/
inductive ServiceFailure where
  | billingError (code : ServiceErrorCode) (message : String)
  | thrown (failure : BillingFailure)
deriving DecidableEq, Inhabited

/-! ### What the service asks for -/

structure CheckoutRequest where
  userId : String
  offer : ConfiguredOffer
  customerRef : Option String
  successUrl : String
  cancelUrl : String
deriving DecidableEq, Inhabited

structure CreatedCheckout where
  checkoutRef : String
  url : String
deriving DecidableEq, Inhabited

/-- The clock, the two stores and the provider. -/
inductive ServiceCommand where
  | now
  | subscriptionsOf (userId : String)
  | customerOf (userId : String)
  | grants (userId : String)
  | countCheckoutsSince (userId : String) (since : Instant)
  | createCheckout (request : CheckoutRequest)
  | recordCheckout (checkout : NewCheckout)
deriving DecidableEq, Inhabited

abbrev ServiceCommand.Answer : ServiceCommand → Type
  | .now => Instant
  | .subscriptionsOf _ => List StoredSubscription
  | .customerOf _ => Option String
  | .grants _ => List Entitlement
  | .countCheckoutsSince .. => Nat
  | .createCheckout _ => CreatedCheckout
  | .recordCheckout _ => Unit

abbrev ServiceCalls : Signature := ⟨ServiceCommand, ServiceCommand.Answer⟩

abbrev ServiceProg (α : Type) : Type := Prog ServiceCalls ServiceFailure α

def ask (command : ServiceCommand) : ServiceProg command.Answer :=
  Prog.perform (S := ServiceCalls) command

/-- A pure step of the lifecycle, its error thrown. -/
def computed {α : Type} (outcome : Except BillingFailure α) : ServiceProg α :=
  Prog.settle (outcome.mapError ServiceFailure.thrown)

/-! ### The service -/

/-- `BillingServiceDeps`. -/
structure ServiceDeps where
  offers : List ConfiguredOffer
  plans : List Plan
  policy : BillingPolicy
  appUrl : String
deriving DecidableEq, Inhabited

namespace ServiceDeps

variable (deps : ServiceDeps)

/-- `plans.get`: of plans with one id the last is kept. -/
def plan (id : String) : Option Plan :=
  deps.plans.reverse.find? (·.id == id)

def offerViews : List OfferView :=
  deps.offers.map fun offer =>
    { id := offer.id
      name := offer.name
      description := offer.description
      priceLabel := offer.priceLabel
      interval := offer.interval
      features := offer.features
      plan := offer.planId.bind deps.plan }

/-- What `view` says of the primary subscription: it covers the clock's instant, or not. -/
def subscriptionView (primary : StoredSubscription) (request : SyncRequest) (now : Instant) :
    SubscriptionView where
  status := commercialStatus (some primary)
  planId := primary.planId
  planName := (primary.planId.bind deps.plan).map Plan.name
  currentPeriodEnd := primary.currentPeriodEnd
  cancelAtPeriodEnd := primary.cancelAtPeriodEnd
  accessUntil := if request.active && decide (now < request.expiresAt) then some request.expiresAt else none

def view (userId : String) : ServiceProg AccountBillingView := do
  let subscriptions ← ask (.subscriptionsOf userId)
  let primary ← computed (primarySubscription subscriptions deps.policy)
  let now ← ask .now
  let subscription ← match primary with
    | none => pure none
    | some primary => do
        let request ← computed (entitlementFor primary deps.policy)
        pure (some (deps.subscriptionView primary request now))
  let grants ← ask (.grants userId)
  let suspended := (evaluateAccount grants now).state == .suspended
  let customer ← ask (.customerOf userId)
  return {
    offers := deps.offerViews
    subscription := subscription
    canManageBilling := customer.isSome
    canSubscribe := !deps.offers.isEmpty && !(subscription.any (·.accessUntil.isSome)) && !suspended }

/-- `MAX_CHECKOUTS_PER_HOUR`. -/
def maxCheckoutsPerHour : Nat := 5

/-- `#call`: what a provider throws that is no `BillingError` of its own is an outage. -/
def callProvider {α : Type} (work : ServiceProg α) : ServiceProg α :=
  MonadExcept.tryCatch work fun failure =>
    match failure with
    | .billingError .providerUnavailable _ | .thrown _ =>
        throw (.billingError .providerUnavailable
          "The billing provider could not be reached. Try again shortly.")
    | .billingError _ _ => throw failure

/-- `startCheckout`, once the account may start one. -/
def openCheckout (userId : String) (offer : ConfiguredOffer) : ServiceProg String := do
  let customerRef ← ask (.customerOf userId)
  let created ← callProvider (ask (.createCheckout
    { userId := userId
      offer := offer
      customerRef := customerRef
      successUrl := deps.appUrl ++ "/#/account?checkout=returned"
      cancelUrl := deps.appUrl ++ "/#/account?checkout=canceled" }))
  let createdAt ← computed (iso (← ask .now))
  ask (.recordCheckout
    { checkoutRef := created.checkoutRef
      userId := userId
      offerId := offer.id
      createdAt := createdAt })
  return created.url

/-- The provider's page for an offer, if the account may start a checkout. An `offerId` that is no text is
    `none`. -/
def startCheckout (userId : String) (offerId : Option String) : ServiceProg String := do
  match offerId.bind fun id => deps.offers.find? (·.id == id) with
  | none => throw (.billingError .offerNotFound "That offer does not exist.")
  | some offer =>
      let view ← deps.view userId
      let grants ← ask (.grants userId)
      if (evaluateAccount grants (← ask .now)).state = .suspended then
        throw (.billingError .accountSuspended
          "This account’s lab access is paused, so a subscription cannot be started.")
      if (view.subscription.bind SubscriptionView.accessUntil).isSome then
        throw (.billingError .alreadySubscribed
          "This account already has an active subscription. Change or cancel it through “Manage billing”.")
      let since ← computed (iso ((← ask .now) - 3600000))
      if maxCheckoutsPerHour ≤ (← ask (.countCheckoutsSince userId since)) then
        throw (.billingError .tooManyCheckouts
          "Too many checkouts were started for this account in the last hour. Try again later.")
      deps.openCheckout userId offer

end ServiceDeps

/-! ### What it runs against -/

/-- What the stores answer while nothing is delivered and nobody changes access. -/
structure BillingReads where
  subscriptionsOf : String → List StoredSubscription
  customerOf : String → Option String
  countCheckoutsSince : String → Instant → Nat
  grants : String → List Entitlement

/-- The answers of the in-memory stores. -/
def BillingWorld.reads (world : BillingWorld InMemoryAccessStore) : BillingReads where
  subscriptionsOf := fun userId => world.tables.subscriptions.filter (·.userId == userId)
  customerOf := fun userId =>
    (world.tables.customers.find? (·.userId == userId)).map CustomerRow.customerRef
  countCheckoutsSince := fun userId since =>
    (world.tables.checkouts.filter fun checkout =>
      checkout.userId == userId && decide (since ≤ checkout.createdAt)).length
  grants := world.access.grantsOf

/-- The stores, what the clock will read, and the test provider: is its API down, which reference it hands
    out next, and where its pages are. -/
structure ServiceWorld where
  reads : BillingReads
  clock : Nat → Instant
  unavailable : Bool
  nextRef : String
  appUrl : String
  recorded : List NewCheckout

def serviceHandler : Handler ServiceCalls ServiceFailure ServiceWorld :=
  fun world command =>
    match command with
    | .now => (.ok (world.clock 0), { world with clock := fun reading => world.clock (reading + 1) })
    | .subscriptionsOf userId => (.ok (world.reads.subscriptionsOf userId), world)
    | .customerOf userId => (.ok (world.reads.customerOf userId), world)
    | .grants userId => (.ok (world.reads.grants userId), world)
    | .countCheckoutsSince userId since => (.ok (world.reads.countCheckoutsSince userId since), world)
    | .createCheckout _ =>
        if world.unavailable then
          ( .error (.billingError .providerUnavailable "The billing provider did not answer."), world)
        else
          ( .ok ⟨world.nextRef, world.appUrl ++ "/#/account/test-checkout/" ++ world.nextRef⟩, world)
    | .recordCheckout checkout => (.ok (), { world with recorded := world.recorded ++ [checkout] })

/-- One command of the service. -/
theorem ensures_ask {world : ServiceWorld} {command : ServiceCommand}
    {post : Except ServiceFailure command.Answer → ServiceWorld → Prop} :
    (ask command).Ensures serviceHandler.effects world post ↔
      post (serviceHandler world command).1 (serviceHandler world command).2 :=
  Prog.ensures_perform_effects (S := ServiceCalls) serviceHandler command post

end JumptotechLabs.Billing
