import MeteringBilling.Cache
import MeteringBilling.Repositories

/-! `POST /webhooks/stripe`: one handler for each event type, and the endpoint that runs a
handler once for each event. Logging is left out, except where it evaluates an attribute
that may be missing. -/

namespace MeteringBilling

def readAttr {α : Type} (name : String) (value : Attr α) : Except PyError α :=
  match value with
  | some value => .ok value
  | none => .error (.attributeError name)

/-- `metadata.get("tenant_id")`. An empty text is falsy. -/
def Metadata.getTenantId (metadata : Metadata) : Except PyError (Option String) :=
  if metadata.hasGet then .ok (metadata.tenantId.filter (· ≠ "")) else .error (.attributeError "get")

def subscriptionStatus (value : String) : Except PyError SubscriptionStatus :=
  match SubscriptionStatus.ofValue? value with
  | some status => .ok status
  | none => .error (.valueError (value ++ " is not a valid SubscriptionStatus"))

/-- `datetime.fromtimestamp(seconds, tz=timezone.utc)`. -/
def fromTimestamp (seconds : Attr Int) : Except PyError Int :=
  match seconds.bind fromTimestamp? with
  | some time => .ok time
  | none => .error (.valueError "year is out of range")

/-- A null or zero `canceled_at` is falsy. -/
def canceledAtSeconds (subscription : StripeSubscription) : Option Int := subscription.canceledAt.filter (· ≠ 0)

def planTier (settings : Settings) (priceId : Option String) : PlanTier :=
  if priceId = some settings.stripePriceIdPro then .pro else .free

/-- `items.data[0].price.id`, or none when there is no item. -/
def firstItemPrice (subscription : StripeSubscription) : Except PyError (Option String) :=
  match subscription.items with
  | none => .error (.attributeError "items")
  | some [] => .ok none
  | some (item :: _) => (readAttr "price" item.priceId).map some

/-- The tier of `_create_or_update_subscription`, where an `AttributeError` means free. -/
def checkoutTier (settings : Settings) (session : CheckoutSession) : PlanTier :=
  match session.displayItems with
  | some (item :: _) => planTier settings item.priceId
  | _ => .free

def microsecondsPerDay : Int := 86400000000

def subscriptionCacheKey (tenantId : UUID) : String := "sub:" ++ tenantId.str

def invalidateSubscriptionCache (tenantId : UUID) : Request Unit := cacheDelete (subscriptionCacheKey tenantId)

def createOrUpdateSubscription (tenantId : UUID) (subscriptionId : Option String) (session : CheckoutSession) :
    Request Unit := do
  let _existingSub ← SubscriptionRepository.getByStripeId subscriptionId
  let settings ← Effect.ask Env.settings
  let periodStart := (← now .periodStart).timestamp
  let periodEnd := (← now .periodEnd).timestamp + 30 * microsecondsPerDay
  SubscriptionRepository.upsertFromStripe tenantId subscriptionId .active periodStart periodEnd
    (checkoutTier settings session) false

/-- The part of an email address before the first `@`. -/
def localPart (email : String) : String := String.ofList (email.toList.takeWhile (· ≠ '@'))

def createNewTenantFromCheckout : Request Tenant := do
  match ← Effect.ask Env.customer with
  | .error message => Effect.raise (.stripe message)
  | .ok customer => do
    let (_plainKey, hashedKey) ← Effect.ask Env.apiKey
    match customer.email with
    | some email =>
      TenantRepository.create (if email = "" then "New Tenant" else localPart email) email hashedKey (some customer.id)
    | none => statement .insertTenant fun _ => .error (.integrity "null value in column \"email\"")

/-- The text that names the tenant of a checkout: `(session.metadata or {}).get("tenant_id")`. -/
def checkoutTenantId (session : CheckoutSession) : Except PyError (Option String) :=
  match session.metadata with
  | none => .ok none
  | some metadata => metadata.getTenantId

/-- The tenant a checkout is for, created when the metadata names none. An unknown tenant or
an identifier that does not parse gives none, and the event is ignored. -/
def checkoutTenant (session : CheckoutSession) : Request (Option UUID) := do
  match ← Effect.ofExcept (checkoutTenantId session) with
  | some tenantIdStr =>
    match UUID.parse? tenantIdStr with
    | none => pure none
    | some tenantId => do
      let tenant ← TenantRepository.get tenantId
      pure (tenant.map fun _ => tenantId)
  | none => do
    let tenant ← createNewTenantFromCheckout
    pure (some tenant.id)

def handleCheckoutCompleted (session : CheckoutSession) : Request Unit := do
  match ← checkoutTenant session with
  | none => pure ()
  | some tenantId => do
    createOrUpdateSubscription tenantId session.subscription session
    invalidateSubscriptionCache tenantId

/-- The subscription an invoice is for. An empty identifier is falsy. -/
def invoiceSubscription (invoice : Invoice) : Except PyError (Option String) :=
  (readAttr "subscription" invoice.subscription).map (·.filter (· ≠ ""))

def handlePaymentSucceeded (invoice : Invoice) : Request Unit := do
  match ← Effect.ofExcept (invoiceSubscription invoice) with
  | none => pure ()
  | some subscriptionId => do
    match ← SubscriptionRepository.getByStripeId (some subscriptionId) with
    | none => pure ()
    | some subscription => do
      SubscriptionRepository.update subscription { subscription with status := .active }
      invalidateSubscriptionCache subscription.tenantId
      let _tenant ← TenantRepository.get subscription.tenantId

def handlePaymentFailed (invoice : Invoice) : Request Unit := do
  match ← Effect.ofExcept (invoiceSubscription invoice) with
  | none => pure ()
  | some subscriptionId => do
    match ← SubscriptionRepository.getByStripeId (some subscriptionId) with
    | none => pure ()
    | some subscription => do
      SubscriptionRepository.update subscription { subscription with status := .pastDue }
      invalidateSubscriptionCache subscription.tenantId

def metadataTenant (subscription : StripeSubscription) : Except PyError (Option UUID) := do
  let metadata ← readAttr "metadata" subscription.metadata
  match ← metadata.getTenantId with
  | none => pure none
  | some tenantIdStr =>
    match UUID.parse? tenantIdStr with
    | some tenantId => pure (some tenantId)
    | none => throw (.valueError "badly formed hexadecimal UUID string")

/-- The row `_handle_subscription_created` builds. `tenant_id` may still be null. -/
def newSubscription (settings : Settings) (id : UUID) (time : Int) (subscription : StripeSubscription) :
    Except PyError (Option Subscription) := do
  let priceId ← firstItemPrice subscription
  let tenantId ← metadataTenant subscription
  let status ← subscriptionStatus subscription.status
  let currentPeriodStart ← fromTimestamp subscription.currentPeriodStart
  let currentPeriodEnd ← fromTimestamp subscription.currentPeriodEnd
  let cancelAtPeriodEnd ← readAttr "cancel_at_period_end" subscription.cancelAtPeriodEnd
  let canceledAt ← match canceledAtSeconds subscription with
    | none => pure none
    | some seconds => (fromTimestamp (some seconds)).map some
  pure (tenantId.map fun tenantId =>
    { id, tenantId, planId := planTier settings priceId, stripeSubscriptionId := some subscription.id, status,
      currentPeriodStart := some currentPeriodStart, currentPeriodEnd := some currentPeriodEnd, cancelAtPeriodEnd,
      canceledAt, updatedAt := time })

def handleSubscriptionCreated (subscription : StripeSubscription) : Request Unit := do
  match ← SubscriptionRepository.getByStripeId (some subscription.id) with
  | some dbSub => do
    let status ← Effect.ofExcept (subscriptionStatus subscription.status)
    SubscriptionRepository.update dbSub { dbSub with status }
    invalidateSubscriptionCache dbSub.tenantId
  | none => do
    let settings ← Effect.ask Env.settings
    let id ← uuid4 .subscription
    let time ← Effect.ask Env.transactionStart
    match ← Effect.ofExcept (newSubscription settings id time subscription) with
    | none => execute .insertSubscription fun _ => .error (.integrity "null value in column \"tenant_id\"")
    | some newSub => do
      SubscriptionRepository.create newSub
      invalidateSubscriptionCache newSub.tenantId

/-- The row as `_handle_subscription_updated` assigns it. A price is compared with the name
of the current tier. -/
def assignUpdate (settings : Settings) (subscription : StripeSubscription) (dbSub : Subscription) :
    Except PyError Subscription := do
  let status ← subscriptionStatus subscription.status
  let currentPeriodStart ← fromTimestamp subscription.currentPeriodStart
  let currentPeriodEnd ← fromTimestamp subscription.currentPeriodEnd
  let cancelAtPeriodEnd ← readAttr "cancel_at_period_end" subscription.cancelAtPeriodEnd
  let newPriceId ← firstItemPrice subscription
  let planId := match newPriceId with
    | none => dbSub.planId
    | some priceId => if priceId ≠ dbSub.planId.value then planTier settings priceId else dbSub.planId
  pure { dbSub with
    status, currentPeriodStart := some currentPeriodStart, currentPeriodEnd := some currentPeriodEnd,
    cancelAtPeriodEnd, planId }

def handleSubscriptionUpdated (subscription : StripeSubscription) : Request Unit := do
  match ← SubscriptionRepository.getByStripeId (some subscription.id) with
  | none => pure ()
  | some dbSub => do
    let settings ← Effect.ask Env.settings
    let assigned ← Effect.ofExcept (assignUpdate settings subscription dbSub)
    SubscriptionRepository.update dbSub assigned
    invalidateSubscriptionCache dbSub.tenantId

/-- When a deleted subscription counts as cancelled: Stripe's instant, or now. -/
def cancellationTime (subscription : StripeSubscription) : Request Int := do
  match canceledAtSeconds subscription with
  | some seconds => Effect.ofExcept (fromTimestamp (some seconds))
  | none => do
    let time ← now .canceledAt
    pure time.timestamp

def handleSubscriptionDeleted (subscription : StripeSubscription) : Request Unit := do
  match ← SubscriptionRepository.getByStripeId (some subscription.id) with
  | none => pure ()
  | some dbSub => do
    let canceledAt ← cancellationTime subscription
    SubscriptionRepository.update dbSub { dbSub with status := .canceled, canceledAt := some canceledAt }
    invalidateSubscriptionCache dbSub.tenantId

def handleSubscriptionTrialWillEnd (subscription : StripeSubscription) : Request Unit := do
  let metadata ← Effect.ofExcept (readAttr "metadata" subscription.metadata)
  let _tenantId ← Effect.ofExcept metadata.getTenantId

def handleInvoiceUpcoming (invoice : Invoice) : Request Unit := do
  let _id ← Effect.ofExcept (readAttr "id" invoice.id)
  let _amountDue ← Effect.ofExcept (readAttr "amount_due" invoice.amountDue)

def processStripeEvent : EventData → Request Unit
  | .checkoutCompleted session => handleCheckoutCompleted session
  | .paymentSucceeded invoice => handlePaymentSucceeded invoice
  | .paymentFailed invoice => handlePaymentFailed invoice
  | .subscriptionCreated subscription => handleSubscriptionCreated subscription
  | .subscriptionUpdated subscription => handleSubscriptionUpdated subscription
  | .subscriptionDeleted subscription => handleSubscriptionDeleted subscription
  | .subscriptionTrialWillEnd subscription => handleSubscriptionTrialWillEnd subscription
  | .invoiceUpcoming invoice => handleInvoiceUpcoming invoice
  | .unhandled _ => pure ()

inductive WebhookStatus where
  | success | alreadyProcessed
deriving DecidableEq

def WebhookStatus.value : WebhookStatus → String
  | .success => "success"
  | .alreadyProcessed => "already_processed"

def webhookFailed : PyError := .http 500 (.str "Webhook processing failed") []

/-- The endpoint behind the signature check. The lookup stands outside the `try`. -/
def handleStripeEvent (event : StripeEvent) : Request WebhookStatus := do
  if ← StripeEventRepository.isProcessed event.id then pure .alreadyProcessed
  else
    Effect.handle (do
      processStripeEvent event.data
      StripeEventRepository.markProcessed event.id event.data.type event.payload none
      pure .success) fun _ => Effect.raise webhookFailed

/-- `verify` is `verify_webhook_signature` with the configured secret. -/
def stripeWebhook (verify : List UInt8 → String → Except PyError StripeEvent) (payload : List UInt8)
    (sigHeader : Option String) : Request WebhookStatus :=
  match sigHeader.filter (· ≠ "") with
  | none => Effect.raise (.http 400 (.str "Missing Stripe-Signature header") [])
  | some sigHeader =>
    match verify payload sigHeader with
    | .ok event => handleStripeEvent event
    | .error (.stripe _) => Effect.raise (.http 400 (.str "Invalid signature") [])
    | .error exc => Effect.raise exc

end MeteringBilling
