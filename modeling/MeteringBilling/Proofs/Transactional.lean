import MeteringBilling.Proofs.Statements
import MeteringBilling.Webhook

/-! The handlers execute statements in the transaction of their request and leave the commit
to the code around them. -/

namespace MeteringBilling

open Effect

/-- Programs that execute statements and never commit. -/
inductive Transactional : {α : Type} → Request α → Prop
  | pure {α : Type} (value : α) : Transactional (pure value)
  | raise {α : Type} (exc : PyError) : Transactional (Effect.raise exc : Request α)
  | ofExcept {α : Type} (result : Except PyError α) : Transactional (Effect.ofExcept result)
  | ask {α : Type} {read : Env → α} (steady : ∀ env : Env, read env.calm = read env) : Transactional (Effect.ask read)
  | statement {α : Type} (place : Statement) (run : Database → Except PyError (α × Database)) :
      Transactional (statement place run)
  | cacheDelete (key : String) : Transactional (cacheDelete key)
  | bind {α β : Type} {program : Request α} {next : α → Request β} (first : Transactional program)
      (rest : ∀ value, Transactional (next value)) : Transactional (program >>= next)

namespace Transactional

variable {α : Type} {program : Request α}

theorem keeps (transactional : Transactional program) : Keeps Session.committed program := by
  induction transactional with
  | pure value => exact .pure value
  | raise exc => exact .raise exc
  | ofExcept result => exact .ofExcept result
  | ask _ => exact .ask _
  | statement place run => exact statement_keeps (fun _ _ _ => rfl) place run
  | cacheDelete key => exact cacheDelete_keeps (fun _ _ => rfl) key
  | bind _ _ first rest => exact .bind first rest

theorem agrees (transactional : Transactional program) : Agrees Env.calm program := by
  induction transactional with
  | pure value => exact .pure value
  | raise exc => exact .raise exc
  | ofExcept result => exact .ofExcept result
  | ask steady => exact .ask steady
  | statement place run => exact MeteringBilling.Agrees.statement place run
  | cacheDelete key => exact MeteringBilling.Agrees.cacheDelete key
  | bind _ _ first rest => exact .bind first rest

theorem scalarOneOrNone (rows : List α) : Transactional (scalarOneOrNone rows) := by
  match rows with
  | [] | [_] => exact .pure _
  | _ :: _ :: _ => exact .raise _

theorem getByStripeId (id : Option String) : Transactional (SubscriptionRepository.getByStripeId id) :=
  .bind (.statement _ _) fun rows => .scalarOneOrNone rows

theorem getTenant (tenantId : UUID) : Transactional (TenantRepository.get tenantId) :=
  .bind (.statement _ _) fun rows => .scalarOneOrNone rows

theorem update (loaded assigned : Subscription) : Transactional (SubscriptionRepository.update loaded assigned) :=
  .bind (.ask fun _ => rfl) fun _ => .bind (.statement _ _) fun _ => .statement _ _

theorem paymentSucceeded (invoice : Invoice) : Transactional (handlePaymentSucceeded invoice) := by
  apply Transactional.bind (.ofExcept _)
  intro subscription
  cases subscription with
  | none => exact .pure ()
  | some id =>
    apply Transactional.bind (.getByStripeId _)
    intro row
    cases row with
    | none => exact .pure ()
    | some row =>
      exact .bind (.update _ _) fun _ => .bind (.cacheDelete _) fun _ => .bind (.getTenant _) fun _ => .pure ()

theorem paymentFailed (invoice : Invoice) : Transactional (handlePaymentFailed invoice) := by
  apply Transactional.bind (.ofExcept _)
  intro subscription
  cases subscription with
  | none => exact .pure ()
  | some id =>
    apply Transactional.bind (.getByStripeId _)
    intro row
    cases row with
    | none => exact .pure ()
    | some row => exact .bind (.update _ _) fun _ => .cacheDelete _

theorem subscriptionCreated (subscription : StripeSubscription) :
    Transactional (handleSubscriptionCreated subscription) := by
  apply Transactional.bind (.getByStripeId _)
  intro row
  cases row with
  | some row => exact .bind (.ofExcept _) fun _ => .bind (.update _ _) fun _ => .cacheDelete _
  | none =>
    refine .bind (.ask fun _ => rfl) fun _ => .bind (.ask fun _ => rfl) fun _ => .bind (.ask fun _ => rfl) fun _ => ?_
    apply Transactional.bind (.ofExcept _)
    intro row
    cases row with
    | none => exact .statement _ _
    | some row => exact .bind (.bind (.statement _ _) fun _ => .statement _ _) fun _ => .cacheDelete _

theorem subscriptionUpdated (subscription : StripeSubscription) :
    Transactional (handleSubscriptionUpdated subscription) := by
  apply Transactional.bind (.getByStripeId _)
  intro row
  cases row with
  | none => exact .pure ()
  | some row =>
    exact .bind (.ask fun _ => rfl) fun _ => .bind (.ofExcept _) fun _ => .bind (.update _ _) fun _ => .cacheDelete _

theorem subscriptionDeleted (subscription : StripeSubscription) :
    Transactional (handleSubscriptionDeleted subscription) := by
  apply Transactional.bind (.getByStripeId _)
  intro row
  cases row with
  | none => exact .pure ()
  | some row =>
    refine .bind ?_ fun _ => .bind (.update _ _) fun _ => .cacheDelete _
    unfold cancellationTime
    cases canceledAtSeconds subscription with
    | some seconds => exact .ofExcept _
    | none => exact .bind (.ask fun _ => rfl) fun _ => .pure _

theorem createOrUpdateSubscription (tenantId : UUID) (id : Option String) (checkout : CheckoutSession) :
    Transactional (createOrUpdateSubscription tenantId id checkout) := by
  refine .bind (.getByStripeId _) fun _ => .bind (.ask fun _ => rfl) fun _ => ?_
  refine .bind (.ask fun _ => rfl) fun _ => .bind (.ask fun _ => rfl) fun _ => ?_
  exact .bind (.ask fun _ => rfl) fun _ => .bind (.ask fun _ => rfl) fun _ => .statement _ _

theorem createNewTenantFromCheckout : Transactional createNewTenantFromCheckout := by
  apply Transactional.bind (.ask fun _ => rfl)
  intro customer
  cases customer with
  | error message => exact .raise _
  | ok customer =>
    apply Transactional.bind (.ask fun _ => rfl)
    intro _
    cases customer.email with
    | none => exact .statement _ _
    | some email =>
      refine .bind (.ask fun _ => rfl) fun _ => .bind (.ask fun _ => rfl) fun _ => ?_
      exact .bind (.statement _ _) fun _ => .bind (.statement _ _) fun _ => .pure _

theorem checkoutCompleted (checkout : CheckoutSession) : Transactional (handleCheckoutCompleted checkout) := by
  refine .bind ?_ fun tenantId => ?_
  · refine .bind (.ofExcept _) fun named => ?_
    cases named with
    | none => exact .bind .createNewTenantFromCheckout fun _ => .pure _
    | some text =>
      dsimp only
      cases UUID.parse? text with
      | none => exact .pure _
      | some tenantId => exact .bind (.getTenant _) fun _ => .pure _
  · cases tenantId with
    | none => exact .pure ()
    | some tenantId => exact .bind (.createOrUpdateSubscription _ _ _) fun _ => .cacheDelete _

theorem processStripeEvent (data : EventData) : Transactional (processStripeEvent data) := by
  cases data with
  | checkoutCompleted checkout => exact .checkoutCompleted checkout
  | paymentSucceeded invoice => exact .paymentSucceeded invoice
  | paymentFailed invoice => exact .paymentFailed invoice
  | subscriptionCreated subscription => exact .subscriptionCreated subscription
  | subscriptionUpdated subscription => exact .subscriptionUpdated subscription
  | subscriptionDeleted subscription => exact .subscriptionDeleted subscription
  | subscriptionTrialWillEnd subscription => exact .bind (.ofExcept _) fun _ => .bind (.ofExcept _) fun _ => .pure ()
  | invoiceUpcoming invoice => exact .bind (.ofExcept _) fun _ => .bind (.ofExcept _) fun _ => .pure ()
  | unhandled type => exact .pure ()

theorem isProcessed (eventId : String) : Transactional (StripeEventRepository.isProcessed eventId) :=
  .bind (.statement _ _) fun _ => .bind (.scalarOneOrNone _) fun _ => .pure _

end Transactional

end MeteringBilling
