import MeteringBilling.Changes
import MeteringBilling.Proofs.Retrying

/-! Each handler performs the change its event asks for. -/

namespace MeteringBilling

open Effect

variable {env : Env} {session : Session}

def Session.wrote (session : Session) (working : Database) : Unit × Session := ((), { session with working })

def Session.changed (session : Session) (env : Env) (change : Change) (working : Database) : Unit × Session :=
  ((), { session with working, redis := change.invalidated env session.redis })

/-- The program makes a change and returns, or raises when there is none to make or a
constraint rejects it. -/
def Performs (program : Request Unit) (env : Env) (session : Session) (change : Option Change) : Prop :=
  Yields program env session (change.bind fun change =>
    (change.applied? session.working).map (session.changed env change))

theorem execute_yields (quiet : env.Quiet) (live : session.aborted = false) (place : Statement)
    (write : Database → Except PyError Database) :
    Yields (execute place write) env session ((write session.working).toOption.map session.wrote) := by
  cases written : write session.working with
  | error error => exact ⟨_, _, execute_error quiet live place written⟩
  | ok after => exact execute_ok quiet live place written

theorem refreshed_yields (quiet : env.Quiet) (live : session.aborted = false) (place refresh : Statement)
    (write : Database → Except PyError Database) :
    Yields (do execute place write; query refresh fun _ => () : Request Unit) env session
      ((write session.working).toOption.map session.wrote) := by
  apply Yields.map (execute_yields quiet live place write)
  intro working
  exact query_quiet (by exact quiet) (by exact live) refresh fun _ => ()

theorem create_yields (quiet : env.Quiet) (live : session.aborted = false) (row : Subscription) :
    Yields (SubscriptionRepository.create row) env session
      (((Change.create row).applied? session.working).map session.wrote) :=
  refreshed_yields quiet live _ _ _

theorem update_yields (quiet : env.Quiet) (live : session.aborted = false) (loaded assigned : Subscription) :
    Yields (SubscriptionRepository.update loaded assigned) env session
      (((Change.assign env.transactionStart loaded assigned).applied? session.working).map session.wrote) :=
  refreshed_yields quiet live _ _ _

theorem Performs.write {write : Request Unit} {change : Change} {tenantId : UUID} (owner : change.tenantId? = some tenantId)
    (written : Yields write env session ((change.applied? session.working).map session.wrote)) :
    Performs (write >>= fun _ => invalidateSubscriptionCache tenantId) env session (some change) := by
  apply Yields.map written
  intro working
  simp only [invalidateSubscriptionCache, cacheDelete, Session.changed, Change.invalidated, owner, Session.wrote]
  split <;> rfl

theorem Performs.finish {program : Request Unit} {next : Unit → Request Unit} {change : Change}
    (performs : Performs program env session (some change))
    (reads : ∀ working redis, next () env { session with working, redis } = (.ok (), { session with working, redis })) :
    Performs (program >>= next) env session (some change) :=
  Yields.map performs fun _ => reads _ _

theorem Performs.raise (exc : PyError) : Performs (Effect.raise exc) env session none := Yields.raise exc

theorem Performs.nothing : Performs (pure ()) env session (some .nothing) := Yields.pure ()

theorem Performs.after {α : Type} {first : Request α} {next : α → Request Unit} {value : α} {change : Option Change}
    (read : first env session = (.ok value, session)) (performs : Performs (next value) env session change) :
    Performs (first >>= next) env session change :=
  Yields.after read performs

theorem Performs.read {α : Type} {result : Except PyError α} {next : α → Request Unit} {change : α → Option Change}
    (performs : ∀ value, result = .ok value → Performs (next value) env session (change value)) :
    Performs (Effect.ofExcept result >>= next) env session (result.toOption.bind change) := by
  cases result with
  | error exc => exact ⟨exc, session, rfl⟩
  | ok value => exact performs value rfl

theorem subscriptionsOf_eq (database : Database) (id : String) :
    database.subscriptionsOf (some id) = (database.subscription? id).toList := by
  apply Table.select_eq
  intro first second left right
  have same := (eq_of_beq left).trans (eq_of_beq right).symm
  refine Or.inr (Or.inr ⟨?_, same⟩)
  rw [eq_of_beq left]
  exact Option.some_ne_none id

theorem getByStripeId_quiet (quiet : env.Quiet) (live : session.aborted = false) (id : String) :
    SubscriptionRepository.getByStripeId (some id) env session = (.ok (session.working.subscription? id), session) := by
  rw [SubscriptionRepository.getByStripeId, bind_ok (query_quiet quiet live _ _), subscriptionsOf_eq,
    scalarOneOrNone_toList]

theorem selectTenants_eq (database : Database) (tenantId : UUID) :
    database.tenants.select (·.id == tenantId) = (database.tenant? tenantId).toList := by
  apply Table.select_eq
  intro first second left right
  exact Or.inl ((eq_of_beq left).trans (eq_of_beq right).symm)

theorem getTenant_quiet (quiet : env.Quiet) (live : session.aborted = false) (tenantId : UUID) :
    TenantRepository.get tenantId env session = (.ok (session.working.tenant? tenantId), session) := by
  rw [TenantRepository.get, bind_ok (query_quiet quiet live _ _), selectTenants_eq, scalarOneOrNone_toList]

theorem paymentFailed_performs (quiet : env.Quiet) (live : session.aborted = false) (invoice : Invoice) :
    Performs (handlePaymentFailed invoice) env session (invoice.change? .pastDue env session.working) := by
  apply Performs.read
  intro subscription _
  cases subscription with
  | none => exact Performs.nothing
  | some id =>
    apply Performs.after (getByStripeId_quiet quiet live id)
    simp only [Option.bind_some]
    cases session.working.subscription? id with
    | none => exact Performs.nothing
    | some row => exact Performs.write rfl (update_yields quiet live _ _)

theorem paymentSucceeded_performs (quiet : env.Quiet) (live : session.aborted = false) (invoice : Invoice) :
    Performs (handlePaymentSucceeded invoice) env session (invoice.change? .active env session.working) := by
  apply Performs.read
  intro subscription _
  cases subscription with
  | none => exact Performs.nothing
  | some id =>
    apply Performs.after (getByStripeId_quiet quiet live id)
    simp only [Option.bind_some]
    cases session.working.subscription? id with
    | none => exact Performs.nothing
    | some row =>
      dsimp only
      rw [← bind_assoc]
      apply (Performs.write rfl (update_yields quiet live _ _)).finish
      intro working redis
      rw [bind_ok (getTenant_quiet (by exact quiet) (by exact live) _)]
      rfl

theorem subscriptionCreated_performs (quiet : env.Quiet) (live : session.aborted = false)
    (subscription : StripeSubscription) :
    Performs (handleSubscriptionCreated subscription) env session (subscription.created? env session.working) := by
  apply Performs.after (getByStripeId_quiet quiet live subscription.id)
  rw [StripeSubscription.created?]
  cases session.working.subscription? subscription.id with
  | some row => exact Performs.read fun status _ => Performs.write rfl (update_yields quiet live _ _)
  | none =>
    refine Performs.after (ask_apply _ _ _) (Performs.after (uuid4_apply _) (Performs.after (ask_apply _ _ _) ?_))
    apply Performs.read
    intro row _
    cases row with
    | none => exact ⟨_, _, execute_error quiet live _ rfl⟩
    | some row => exact Performs.write rfl (create_yields quiet live row)

theorem subscriptionUpdated_performs (quiet : env.Quiet) (live : session.aborted = false)
    (subscription : StripeSubscription) :
    Performs (handleSubscriptionUpdated subscription) env session (subscription.updated? env session.working) := by
  apply Performs.after (getByStripeId_quiet quiet live subscription.id)
  rw [StripeSubscription.updated?]
  cases session.working.subscription? subscription.id with
  | none => exact Performs.nothing
  | some row =>
    apply Performs.after (ask_apply _ _ _)
    exact Performs.read fun assigned _ => Performs.write rfl (update_yields quiet live _ _)

theorem cancellationTime_yields (env : Env) (session : Session) (subscription : StripeSubscription) :
    Yields (cancellationTime subscription) env session
      ((subscription.cancellationTime? env).map fun time => (time, session)) := by
  rw [cancellationTime, StripeSubscription.cancellationTime?]
  cases canceledAtSeconds subscription with
  | some seconds => exact .ofExcept _
  | none => exact .after (now_apply _) (.pure _)

theorem subscriptionDeleted_performs (quiet : env.Quiet) (live : session.aborted = false)
    (subscription : StripeSubscription) :
    Performs (handleSubscriptionDeleted subscription) env session (subscription.deleted? env session.working) := by
  apply Performs.after (getByStripeId_quiet quiet live subscription.id)
  rw [StripeSubscription.deleted?]
  cases session.working.subscription? subscription.id with
  | none => exact Performs.nothing
  | some row =>
    have computed := cancellationTime_yields env session subscription
    cases time : subscription.cancellationTime? env with
    | none =>
      rw [time] at computed
      obtain ⟨exc, after, raised⟩ := computed
      exact ⟨exc, after, bind_error raised⟩
    | some canceledAt =>
      rw [time] at computed
      exact Performs.after computed (Performs.write rfl (update_yields quiet live _ _))

theorem createOrUpdateSubscription_yields (quiet : env.Quiet) (live : session.aborted = false) (tenantId : UUID)
    (checkout : CheckoutSession) :
    Yields (createOrUpdateSubscription tenantId checkout.subscription checkout) env session
      (if checkout.Ambiguous session.working then none
        else ((Change.upsert (checkout.row env tenantId)).applied? session.working).map session.wrote) := by
  rw [createOrUpdateSubscription, SubscriptionRepository.getByStripeId]
  have queried := query_quiet quiet live .selectSubscription (·.subscriptionsOf checkout.subscription)
  by_cases ambiguous : checkout.Ambiguous session.working
  · rw [if_pos ambiguous]
    exact ⟨_, _, bind_error ((bind_ok queried).trans (scalarOneOrNone_many ambiguous))⟩
  · rw [if_neg ambiguous]
    refine .after ((bind_ok queried).trans (scalarOneOrNone_one (Nat.not_lt.mp ambiguous))) ?_
    exact execute_yields quiet live _ _

theorem upsert_performs (quiet : env.Quiet) (live : session.aborted = false) (tenantId : UUID)
    (checkout : CheckoutSession) :
    Performs (do
      createOrUpdateSubscription tenantId checkout.subscription checkout
      invalidateSubscriptionCache tenantId) env session
      (if checkout.Ambiguous session.working then none else some (.upsert (checkout.row env tenantId))) := by
  have written := createOrUpdateSubscription_yields quiet live tenantId checkout
  by_cases ambiguous : checkout.Ambiguous session.working
  · rw [if_pos ambiguous] at written ⊢
    obtain ⟨exc, after, raised⟩ := written
    exact ⟨exc, after, bind_error raised⟩
  · rw [if_neg ambiguous] at written ⊢
    exact Performs.write rfl written

theorem createTenant_yields (quiet : env.Quiet) (live : session.aborted = false) (customer : Customer) (email : String) :
    Yields (TenantRepository.create (if email = "" then "New Tenant" else localPart email) email env.apiKey.2
      (some customer.id)) env session
      ((session.working.insertTenant (customer.tenant env email)).toOption.map fun working =>
        (customer.tenant env email, { session with working })) := by
  refine .after (uuid4_apply _) (.after (ask_apply _ _ _) ?_)
  apply Yields.map (execute_yields quiet live _ _)
  intro working
  exact bind_ok (query_quiet (by exact quiet) (by exact live) _ _)

theorem insertTenant_subscriptions {database after : Database} {tenant : Tenant}
    (inserted : database.insertTenant tenant = .ok after) : after.subscriptions = database.subscriptions := by
  unfold Database.insertTenant at inserted
  split at inserted
  · cases inserted
  · split at inserted
    · rw [← Except.ok.inj inserted]
    · cases inserted

theorem enroll_performs (quiet : env.Quiet) (live : session.aborted = false) (customer : Customer) (email : String)
    (checkout : CheckoutSession) :
    Performs (do
      let tenant ← TenantRepository.create (if email = "" then "New Tenant" else localPart email) email env.apiKey.2
        (some customer.id)
      createOrUpdateSubscription tenant.id checkout.subscription checkout
      invalidateSubscriptionCache tenant.id) env session
      (if checkout.Ambiguous session.working then none
        else some (.enroll (customer.tenant env email) (checkout.row env (customer.tenant env email).id))) := by
  have created := createTenant_yields quiet live customer email
  cases inserted : session.working.insertTenant (customer.tenant env email) with
  | error exc =>
    rw [inserted] at created
    obtain ⟨exc, after, raised⟩ := created
    have nothing : (Change.enroll (customer.tenant env email)
        (checkout.row env (customer.tenant env email).id)).applied? session.working = none := by
      simp [Change.applied?, inserted, Except.toOption]
    by_cases ambiguous : checkout.Ambiguous session.working
    · rw [if_pos ambiguous]
      exact ⟨exc, after, bind_error raised⟩
    · rw [if_neg ambiguous, Performs, Option.bind_some, nothing]
      exact ⟨exc, after, bind_error raised⟩
  | ok enrolled =>
    rw [inserted] at created
    have same : checkout.Ambiguous enrolled ↔ checkout.Ambiguous session.working := by
      rw [CheckoutSession.Ambiguous, CheckoutSession.Ambiguous, Database.subscriptionsOf, Database.subscriptionsOf,
        insertTenant_subscriptions inserted]
    have finished : Performs _ env { session with working := enrolled } _ :=
      upsert_performs (by exact quiet) (by exact live) (customer.tenant env email).id checkout
    have changed : (Change.enroll (customer.tenant env email)
        (checkout.row env (customer.tenant env email).id)).applied? session.working =
        (Change.upsert (checkout.row env (customer.tenant env email).id)).applied? enrolled := by
      simp [Change.applied?, inserted, Except.toOption]
    unfold Performs at finished ⊢
    by_cases ambiguous : checkout.Ambiguous session.working
    · rw [if_pos (same.mpr ambiguous)] at finished
      rw [if_pos ambiguous]
      exact .after created finished
    · rw [if_neg fun more => ambiguous (same.mp more)] at finished
      rw [if_neg ambiguous, Option.bind_some, changed]
      exact .after created finished

theorem checkoutTenantId_eq (checkout : CheckoutSession) : checkoutTenantId checkout =
    if checkout.HasGet then .ok ((checkout.metadata.bind Metadata.tenantId).filter (· ≠ ""))
    else .error (.attributeError "get") := by
  cases metadata : checkout.metadata with
  | none => simp [checkoutTenantId, CheckoutSession.HasGet, metadata]
  | some metadata => simp [checkoutTenantId, CheckoutSession.HasGet, metadata, Metadata.getTenantId]

theorem checkoutCompleted_performs (quiet : env.Quiet) (live : session.aborted = false) (checkout : CheckoutSession) :
    Performs (handleCheckoutCompleted checkout) env session (checkout.change? env session.working) := by
  unfold handleCheckoutCompleted checkoutTenant CheckoutSession.change? CheckoutSession.named?
  rw [checkoutTenantId_eq, bind_assoc]
  by_cases readable : checkout.HasGet
  case neg =>
    rw [if_neg readable, if_pos readable]
    exact ⟨_, _, rfl⟩
  rw [if_pos readable, if_neg (not_not_intro readable)]
  apply Performs.after rfl
  cases (checkout.metadata.bind Metadata.tenantId).filter (· ≠ "") with
  | some text =>
    simp only [Option.map_some]
    cases UUID.parse? text with
    | none => exact Performs.nothing
    | some tenantId =>
      simp only [bind_assoc]
      apply Performs.after (getTenant_quiet quiet live tenantId)
      cases tenant : session.working.tenant? tenantId with
      | none =>
        simp only [Option.filter, tenant]
        exact Performs.nothing
      | some row =>
        simp only [Option.filter, tenant]
        exact upsert_performs quiet live tenantId checkout
  | none =>
    simp only [Option.map_none, bind_assoc, createNewTenantFromCheckout]
    apply Performs.after (ask_apply _ _ _)
    cases env.customer with
    | error message => exact ⟨_, _, rfl⟩
    | ok customer =>
      simp only [bind_assoc, pure_bind, Except.toOption, Option.bind_eq_bind, Option.bind_some]
      apply Performs.after (ask_apply _ _ _)
      cases customer.email with
      | none => exact ⟨_, _, bind_error (statement_quiet quiet live _ _)⟩
      | some email => exact enroll_performs quiet live customer email checkout

theorem processStripeEvent_performs (quiet : env.Quiet) (live : session.aborted = false) (data : EventData) :
    Performs (processStripeEvent data) env session (data.change? env session.working) := by
  cases data with
  | checkoutCompleted checkout => exact checkoutCompleted_performs quiet live checkout
  | paymentSucceeded invoice => exact paymentSucceeded_performs quiet live invoice
  | paymentFailed invoice => exact paymentFailed_performs quiet live invoice
  | subscriptionCreated subscription => exact subscriptionCreated_performs quiet live subscription
  | subscriptionUpdated subscription => exact subscriptionUpdated_performs quiet live subscription
  | subscriptionDeleted subscription => exact subscriptionDeleted_performs quiet live subscription
  | subscriptionTrialWillEnd subscription =>
    simp only [processStripeEvent, handleSubscriptionTrialWillEnd, EventData.change?]
    cases subscription.metadata with
    | none => exact ⟨_, _, rfl⟩
    | some metadata =>
      apply Performs.after rfl
      simp only [Option.bind_eq_bind, Option.bind_some, Metadata.getTenantId]
      cases metadata.hasGet with
      | false => exact ⟨_, _, rfl⟩
      | true => exact Performs.nothing
  | invoiceUpcoming invoice =>
    simp only [processStripeEvent, handleInvoiceUpcoming, EventData.change?]
    cases invoice.id with
    | none => exact ⟨_, _, rfl⟩
    | some id =>
      cases invoice.amountDue with
      | none => exact ⟨_, _, rfl⟩
      | some amountDue => exact Performs.nothing
  | unhandled type => exact Performs.nothing

end MeteringBilling
