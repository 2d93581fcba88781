import MeteringBilling.Proofs.WrittenRows
import MeteringBilling.Seed

/-! What a delivery leaves alone: usage, plans, stored tenants, and the rows of every other
subscription. -/

namespace MeteringBilling.WebhookFrame

/-- At most one row is written: a new one of the subscription, or a stored one, which keeps its
owner and its name. -/
inductive OneRow (id : String) (before after : List Subscription) : Prop
  | kept (same : after = before)
  | created (row : Subscription) (named : row.stripeSubscriptionId = some id) (longer : after = before ++ [row])
  | modified (first : List Subscription) (stored written : Subscription) (rest : List Subscription)
      (named : stored.stripeSubscriptionId = some id) (identifier : written.id = stored.id)
      (owner : written.tenantId = stored.tenantId) (name : written.stripeSubscriptionId = stored.stripeSubscriptionId)
      (held : before = first ++ stored :: rest) (replaced : after = first ++ written :: rest)

/-- The event is a checkout whose metadata has no tenant, or an empty one. -/
def Enrolls : EventData → Prop
  | .checkoutCompleted session => ∀ tenantId, session.metadata.bind Metadata.tenantId = some tenantId → tenantId = ""
  | _ => False

/-- The event is a checkout without a tenant in its metadata. -/
def Unnamed : EventData → Prop
  | .checkoutCompleted session => session.metadata.bind Metadata.tenantId = none
  | _ => False

/-- As Stripe delivers metadata: setting a value to the empty text removes it. -/
def NonemptyMetadata : EventData → Prop
  | .checkoutCompleted session => session.metadata.bind Metadata.tenantId ≠ some ""
  | _ => True

/-- What an event about a subscription leaves alone. Only an event that enrolls adds a tenant. -/
structure Framed (id : String) (enrolls : Prop) (before after : Database) : Prop where
  usageEvents : after.usageEvents = before.usageEvents
  plans : after.plans = before.plans
  subscription : OneRow id before.subscriptions.rows after.subscriptions.rows
  others : (after.subscriptions.select fun row => row.stripeSubscriptionId != some id) =
    before.subscriptions.select fun row => row.stripeSubscriptionId != some id
  tenants : after.tenants = before.tenants ∨
    enrolls ∧ ∃ tenant : Tenant, after.tenants.rows = before.tenants.rows ++ [tenant]

variable {database after : Database} {data : EventData} {change : Change} {env : Env} {id : String}

theorem OneRow.others {before after : List Subscription} (written : OneRow id before after) :
    (after.filter fun row => row.stripeSubscriptionId != some id) =
      before.filter fun row => row.stripeSubscriptionId != some id := by
  cases written with
  | kept same => rw [same]
  | created row named longer => simp [longer, named]
  | modified first stored written rest named _ _ name held replaced => simp [held, replaced, name, named]

theorem rewritten_keeps {stored : Subscription} {database : Database} (of : change.Of (some id) database)
    (named : stored.stripeSubscriptionId = some id) (member : stored ∈ database.subscriptions) :
    (change.rewritten stored).id = stored.id ∧ (change.rewritten stored).tenantId = stored.tenantId ∧
      (change.rewritten stored).stripeSubscriptionId = stored.stripeSubscriptionId := by
  cases change with
  | nothing | create _ | upsert _ | enroll _ _ => exact ⟨rfl, rfl, rfl⟩
  | assign time loaded assigned =>
    obtain ⟨own, same, found⟩ := of
    obtain rfl := Option.some.inj same
    have loadedName := subscription?_id found
    obtain rfl := Table.eq_of_clash (Table.find?_mem found).1 member
      (Or.inr (Or.inr ⟨by rw [loadedName]; exact Option.some_ne_none _, loadedName.trans named.symm⟩))
    exact flushed_identity time loaded assigned loaded

theorem oneRow_applied (of : change.Of (some id) database) (applied : change.applied? database = some after) :
    OneRow id database.subscriptions.rows after.subscriptions.rows := by
  cases applied?_written of applied with
  | kept _ same => exact .kept same
  | added row _ named longer => exact .created row named longer
  | rewritten first stored rest _ named held replaced =>
    have member : stored ∈ database.subscriptions := by
      rw [Table.mem_rows, held]
      exact List.mem_append_right _ (List.mem_cons_self ..)
    obtain ⟨identifier, owner, name⟩ := rewritten_keeps of named member
    exact .modified first stored _ rest named identifier owner name held replaced

theorem upsert_tenants {row : Subscription} (written : database.upsertSubscription row = .ok after) :
    after.tenants = database.tenants := by
  rw [Database.upsertSubscription] at written
  split at written
  · split at written
    · cases written
    · rw [← Except.ok.inj written]
  · obtain ⟨_, _, _, rfl⟩ := insertSubscription_ok.mp written
    rfl

theorem enrolls_of_unnamed {session : CheckoutSession} (unnamed : session.named? database = none) :
    Enrolls (.checkoutCompleted session) := by
  intro tenantId present
  by_contra nonempty
  rw [CheckoutSession.named?, Option.map_eq_none_iff, present] at unnamed
  simp [nonempty] at unnamed

theorem enrolls_of_asked {tenant : Tenant} {row : Subscription}
    (asked : data.change? env database = some (.enroll tenant row)) : Enrolls data := by
  cases data with
  | checkoutCompleted session =>
    rcases checkout_asks asked with ⟨same, _⟩ | ⟨_, same, _⟩ | ⟨_, _, unnamed⟩
    · cases same
    · cases same
    · exact enrolls_of_unnamed unnamed
  | paymentSucceeded invoice | paymentFailed invoice =>
    obtain ⟨_, _, ⟨_, same⟩ | ⟨_, _, same⟩⟩ := invoice_asks asked
    · cases same
    · cases same
  | subscriptionCreated subscription =>
    rcases created_asks asked with ⟨_, _, _, _, same⟩ | ⟨_, _, same, _⟩
    · cases same
    · cases same
  | subscriptionUpdated subscription =>
    rcases updated_asks asked with ⟨_, same⟩ | ⟨_, _, _, _, same⟩
    · cases same
    · cases same
  | subscriptionDeleted subscription =>
    rcases deleted_asks asked with ⟨_, same⟩ | ⟨_, _, _, same⟩
    · cases same
    · cases same
  | subscriptionTrialWillEnd subscription =>
    cases trialWillEnd_asks asked
  | invoiceUpcoming invoice =>
    cases upcoming_asks asked
  | unhandled type => cases Option.some.inj asked

theorem tenants_applied (asked : data.change? env database = some change)
    (applied : change.applied? database = some after) : after.tenants = database.tenants ∨
      Enrolls data ∧ ∃ tenant : Tenant, after.tenants.rows = database.tenants.rows ++ [tenant] := by
  cases change with
  | nothing => exact Or.inl (congrArg _ (Option.some.inj applied)).symm
  | upsert row => exact Or.inl (upsert_tenants (toOption_eq_some.mp applied))
  | enroll tenant row =>
    obtain ⟨enrolled, inserted, written⟩ := Option.bind_eq_some_iff.mp applied
    obtain ⟨_, _, rfl⟩ := insertTenant_ok.mp (toOption_eq_some.mp inserted)
    exact Or.inr ⟨enrolls_of_asked asked, tenant, by rw [upsert_tenants (toOption_eq_some.mp written), Table.add_rows]⟩
  | create row =>
    obtain ⟨_, _, _, rfl⟩ := insertSubscription_ok.mp (toOption_eq_some.mp applied)
    exact Or.inl rfl
  | assign time loaded assigned =>
    obtain ⟨_, rfl⟩ := updateSubscription_ok.mp (toOption_eq_some.mp applied)
    exact Or.inl rfl

theorem framed_processed (about : data.subscriptionId? = some id)
    (processed : data.process? env database = some after) : Framed id (Enrolls data) database after := by
  obtain ⟨⟨plans, _⟩, usageEvents, _⟩ := EventData.process?_extends processed
  obtain ⟨change, asked, applied⟩ := process?_eq_some.mp processed
  have row := oneRow_applied (about ▸ change?_of asked) applied
  exact ⟨usageEvents, plans, row, row.others, tenants_applied asked applied⟩

/-- Whatever fails, a delivery about a subscription touches only its row. -/
theorem delivery_framed {delivery : Delivery} {store : Store} (about : delivery.event.data.subscriptionId? = some id) :
    Framed id (Enrolls delivery.event.data) store.database (delivery.after store).database := by
  rcases commits_cases delivery store with ⟨_, applied⟩ | ⟨_, same⟩
  · obtain ⟨written, processed, _, _, final⟩ := applied?_eq_some.mp applied
    obtain ⟨usageEvents, plans, row, others, tenants⟩ := framed_processed about processed
    rw [final]
    exact ⟨usageEvents, plans, row, others, tenants⟩
  · rw [same]
    exact ⟨rfl, rfl, .kept rfl, rfl, Or.inl rfl⟩

theorem unnamed_of_enrolls (nonempty : NonemptyMetadata data) (enrolls : Enrolls data) : Unnamed data := by
  cases data with
  | checkoutCompleted session =>
    apply Option.eq_none_iff_forall_ne_some.mpr
    intro tenantId named
    obtain rfl := enrolls tenantId named
    exact nonempty named
  | _ => exact enrolls.elim

/-- A tenant is added only by a checkout that names none. -/
theorem webhook_framed {delivery : Delivery} {store : Store} (about : delivery.event.data.subscriptionId? = some id)
    (nonempty : NonemptyMetadata delivery.event.data) :
    Framed id (Unnamed delivery.event.data) store.database (delivery.after store).database := by
  obtain ⟨usageEvents, plans, row, others, tenants⟩ := @delivery_framed id delivery store about
  exact ⟨usageEvents, plans, row, others, tenants.imp_right (And.imp_left (unnamed_of_enrolls nonempty))⟩

def enrollment : Delivery where
  env := Seed.env 20
  event := ⟨"evt_1", .checkoutCompleted ⟨none, some "cus_1", some "sub_1", none⟩, Seed.payload⟩

theorem enrollment_framed :
    Framed "sub_1" (Unnamed enrollment.event.data) Seed.store.database (enrollment.after Seed.store).database :=
  webhook_framed rfl nofun

end MeteringBilling.WebhookFrame
