import MeteringBilling.Changes

/-! What a tenant has of a subscription, its status and its plan, and how an event turns
it. The tables are proved to follow. -/

namespace MeteringBilling

structure Standing where
  status : SubscriptionStatus
  planId : PlanTier
deriving DecidableEq

def Subscription.standing (row : Subscription) : Standing := ⟨row.status, row.planId⟩

def Database.standing? (database : Database) (id : String) : Option Standing :=
  (database.subscription? id).map Subscription.standing

/-- The subscription whose row an event writes, if it is there. A checkout that names a tenant
the tables do not have is ignored. -/
def EventData.target? (data : EventData) (database : Database) : Option String :=
  match data with
  | .checkoutCompleted session => if session.named? database = some none then none else session.subscription
  | .paymentSucceeded invoice | .paymentFailed invoice => invoice.subscription.join.filter (· ≠ "")
  | .subscriptionCreated subscription | .subscriptionUpdated subscription | .subscriptionDeleted subscription =>
    some subscription.id
  | .subscriptionTrialWillEnd _ | .invoiceUpcoming _ | .unhandled _ => none

/-- The price the created handler reads for a new row. -/
def StripeSubscription.price? (subscription : StripeSubscription) : Option String :=
  (firstItemPrice subscription).toOption.join

/-- The plan after an update: a price is compared with the name of the current tier. -/
def StripeSubscription.updatedPlan (subscription : StripeSubscription) (settings : Settings) (planId : PlanTier) :
    PlanTier :=
  match subscription.price? with
  | none => planId
  | some priceId => if priceId ≠ planId.value then planTier settings priceId else planId

/-- How an event about a subscription turns its standing. -/
def EventData.turn (data : EventData) (settings : Settings) (before : Option Standing) : Option Standing :=
  match data with
  | .checkoutCompleted session => some ⟨.active, checkoutTier settings session⟩
  | .paymentSucceeded _ => before.map fun standing => { standing with status := .active }
  | .paymentFailed _ => before.map fun standing => { standing with status := .pastDue }
  | .subscriptionCreated subscription => do
    let status ← SubscriptionStatus.ofValue? subscription.status
    pure (match before with
      | some standing => { standing with status }
      | none => ⟨status, planTier settings subscription.price?⟩)
  | .subscriptionUpdated subscription => do
    let standing ← before
    let status ← SubscriptionStatus.ofValue? subscription.status
    pure ⟨status, subscription.updatedPlan settings standing.planId⟩
  | .subscriptionDeleted _ => before.map fun standing => { standing with status := .canceled }
  | .subscriptionTrialWillEnd _ | .invoiceUpcoming _ | .unhandled _ => before

end MeteringBilling
