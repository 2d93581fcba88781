/-! What the webhook handlers read from Stripe's objects. An `Attr` is an attribute
that an object may lack: reading it then raises `AttributeError`. -/

namespace MeteringBilling

abbrev Attr (α : Type) := Option α

/-- The metadata of an object. Some releases of Stripe's library build it as a dictionary; in
the others it has no `get`. -/
structure Metadata where
  tenantId : Option String
  hasGet : Bool
deriving DecidableEq

/-- `item.plan.price.id`. -/
structure DisplayItem where
  priceId : Attr String
deriving DecidableEq

/-- Falsy metadata, null or empty, is none. -/
structure CheckoutSession where
  metadata : Option Metadata
  customer : Option String
  subscription : Option String
  displayItems : Attr (List DisplayItem)
deriving DecidableEq

structure Invoice where
  id : Attr String
  subscription : Attr (Option String)
  amountDue : Attr Int
deriving DecidableEq

/-- `item.price.id`. -/
structure SubscriptionItem where
  priceId : Attr String
deriving DecidableEq

/-- Timestamps are in seconds. A missing or null one makes `fromtimestamp` raise. -/
structure StripeSubscription where
  id : String
  status : String
  metadata : Attr Metadata
  items : Attr (List SubscriptionItem)
  currentPeriodStart : Attr Int
  currentPeriodEnd : Attr Int
  cancelAtPeriodEnd : Attr Bool
  canceledAt : Option Int
deriving DecidableEq

structure Customer where
  id : String
  email : Option String
deriving DecidableEq

/-- `event.type` with `event.data.object`. -/
inductive EventData where
  | checkoutCompleted (session : CheckoutSession)
  | paymentSucceeded (invoice : Invoice)
  | paymentFailed (invoice : Invoice)
  | subscriptionCreated (subscription : StripeSubscription)
  | subscriptionUpdated (subscription : StripeSubscription)
  | subscriptionDeleted (subscription : StripeSubscription)
  | subscriptionTrialWillEnd (subscription : StripeSubscription)
  | invoiceUpcoming (invoice : Invoice)
  | unhandled (type : String)
deriving DecidableEq

def EventData.type : EventData → String
  | .checkoutCompleted _ => "checkout.session.completed"
  | .paymentSucceeded _ => "invoice.payment_succeeded"
  | .paymentFailed _ => "invoice.payment_failed"
  | .subscriptionCreated _ => "customer.subscription.created"
  | .subscriptionUpdated _ => "customer.subscription.updated"
  | .subscriptionDeleted _ => "customer.subscription.deleted"
  | .subscriptionTrialWillEnd _ => "customer.subscription.trial_will_end"
  | .invoiceUpcoming _ => "invoice.upcoming"
  | .unhandled type => type

/-- `payload` is what `json.dumps` makes of the object; none when it raises, as for a `Decimal`. -/
structure StripeEvent where
  id : String
  data : EventData
  payload : Option String
deriving DecidableEq

end MeteringBilling
