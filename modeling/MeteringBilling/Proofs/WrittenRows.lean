import MeteringBilling.Proofs.Acceptance
import MeteringBilling.Proofs.AskedChanges

/-! Which rows an event writes: at most one, in place or at the end, and that of its own
subscription. -/

namespace MeteringBilling

/-- The Stripe subscription an event concerns, if it names one. -/
def EventData.subscriptionId? : EventData → Option String
  | .checkoutCompleted session => session.subscription
  | .paymentSucceeded invoice | .paymentFailed invoice | .invoiceUpcoming invoice => invoice.subscription.join
  | .subscriptionCreated subscription | .subscriptionUpdated subscription | .subscriptionDeleted subscription
  | .subscriptionTrialWillEnd subscription => some subscription.id
  | .unhandled _ => none

namespace Change

/-- The change writes a row of the subscription: an active one for a checkout, and otherwise a
new one or the stored one. -/
def Of (own : Option String) (database : Database) : Change → Prop
  | .nothing => True
  | .upsert row | .enroll _ row => row.stripeSubscriptionId = own ∧ row.status = .active
  | .create row => row.stripeSubscriptionId = own
  | .assign _ loaded _ => ∃ id, own = some id ∧ database.subscription? id = some loaded

def inserted? : Change → Option Subscription
  | .upsert row | .enroll _ row | .create row => some row
  | .nothing | .assign _ _ _ => none

def rewritten : Change → Subscription → Subscription
  | .upsert row, stored | .enroll _ row, stored => Database.refreshed row stored
  | .assign time loaded assigned, _ => Database.flushed time loaded assigned loaded
  | .nothing, stored | .create _, stored => stored

end Change

/-- The rows before and after a change. -/
inductive Written (own : Option String) (change : Change) (before after : List Subscription) : Prop
  | kept (nothing : change = .nothing) (same : after = before)
  | added (row : Subscription) (inserted : change.inserted? = some row) (named : row.stripeSubscriptionId = own)
      (longer : after = before ++ [row])
  | rewritten (first : List Subscription) (stored : Subscription) (rest : List Subscription)
      (creates : ∀ row, change ≠ .create row) (named : stored.stripeSubscriptionId = own)
      (held : before = first ++ stored :: rest) (replaced : after = first ++ change.rewritten stored :: rest)

variable {env : Env} {database after : Database} {data : EventData} {change : Change} {own : Option String}

theorem change?_of (asked : data.change? env database = some change) : change.Of data.subscriptionId? database := by
  cases data with
  | checkoutCompleted session =>
    rcases checkout_asks asked with ⟨rfl, _⟩ | ⟨tenantId, rfl, _⟩ | ⟨tenant, rfl, _⟩
    · trivial
    · exact ⟨rfl, rfl⟩
    · exact ⟨rfl, rfl⟩
  | paymentSucceeded invoice | paymentFailed invoice =>
    obtain ⟨own, read, ⟨_, rfl⟩ | ⟨row, found, rfl⟩⟩ := invoice_asks asked
    · trivial
    · obtain ⟨id, rfl, found⟩ := Option.bind_eq_some_iff.mp found
      exact ⟨id, (Option.filter_eq_some_iff.mp (invoice_subscription read)).1, found⟩
  | subscriptionCreated subscription =>
    rcases created_asks asked with ⟨row, status, found, _, rfl⟩ | ⟨_, row, rfl, built⟩
    · exact ⟨_, rfl, found⟩
    · exact (newSubscription_ok built).1
  | subscriptionUpdated subscription =>
    rcases updated_asks asked with ⟨_, rfl⟩ | ⟨row, assigned, found, _, rfl⟩
    · trivial
    · exact ⟨_, rfl, found⟩
  | subscriptionDeleted subscription =>
    rcases deleted_asks asked with ⟨_, rfl⟩ | ⟨row, canceledAt, found, rfl⟩
    · trivial
    · exact ⟨_, rfl, found⟩
  | subscriptionTrialWillEnd subscription =>
    obtain rfl := trialWillEnd_asks asked
    trivial
  | invoiceUpcoming invoice =>
    obtain rfl := upcoming_asks asked
    trivial
  | unhandled type =>
    obtain rfl := Option.some.inj asked
    trivial

theorem upsert_written {row : Subscription} (written : database.upsertSubscription row = .ok after)
    (inserts : change.inserted? = some row) (creates : ∀ row, change ≠ .create row)
    (rewrites : ∀ stored, change.rewritten stored = Database.refreshed row stored) :
    Written row.stripeSubscriptionId change database.subscriptions.rows after.subscriptions.rows := by
  by_cases stored : ∃ own stored, row.stripeSubscriptionId = some own ∧ database.subscription? own = some stored
  · obtain ⟨own, stored, identified, found⟩ := stored
    obtain ⟨_, rfl⟩ := (upsertSubscription_stored identified found).mp written
    obtain ⟨member, _⟩ := Table.find?_mem found
    have named := (subscription?_id found).trans identified.symm
    obtain ⟨first, rest, held, replaced⟩ := Table.update_split (Database.refreshed row) (Database.refreshed_keeps row)
      (fun one other left right => Or.inr (Or.inr ⟨by rw [eq_of_beq left, identified]; exact Option.some_ne_none own,
        (eq_of_beq left).trans (eq_of_beq right).symm⟩)) member (beq_iff_eq.mpr named)
    exact .rewritten first stored rest creates named held (by rw [rewrites]; exact replaced)
  · have fresh : ∀ own, row.stripeSubscriptionId = some own → database.subscription? own = none := by
      intro own identified
      exact Option.eq_none_iff_forall_ne_some.mpr fun found equal => stored ⟨own, found, identified, equal⟩
    rw [upsertSubscription_new fresh] at written
    obtain ⟨_, _, _, rfl⟩ := insertSubscription_ok.mp written
    exact .added row inserts rfl rfl

/-- A change writes one row, the one it is of. -/
theorem applied?_written (of : change.Of own database) (applied : change.applied? database = some after) :
    Written own change database.subscriptions.rows after.subscriptions.rows := by
  cases change with
  | nothing =>
    obtain rfl := Option.some.inj applied
    exact .kept rfl rfl
  | upsert row =>
    obtain ⟨rfl, _⟩ := of
    exact upsert_written (toOption_eq_some.mp applied) rfl (fun _ => by simp) fun _ => rfl
  | enroll tenant row =>
    obtain ⟨rfl, _⟩ := of
    obtain ⟨enrolled, inserted, written⟩ := Option.bind_eq_some_iff.mp applied
    rw [← insertTenant_subscriptions (toOption_eq_some.mp inserted)]
    exact upsert_written (toOption_eq_some.mp written) rfl (fun _ => by simp) fun _ => rfl
  | create row =>
    obtain ⟨_, _, _, rfl⟩ := insertSubscription_ok.mp (toOption_eq_some.mp applied)
    exact .added row rfl of rfl
  | assign time loaded assigned =>
    obtain ⟨id, rfl, found⟩ := of
    obtain ⟨_, rfl⟩ := updateSubscription_ok.mp (toOption_eq_some.mp applied)
    obtain ⟨first, rest, held, replaced⟩ := Table.update_split (Database.flushed time loaded assigned)
      (Database.flushed_keeps time loaded assigned)
      (fun _ _ left right => Or.inl ((eq_of_beq left).trans (eq_of_beq right).symm)) (Table.find?_mem found).1
      (beq_self_eq_true loaded.id)
    exact .rewritten first loaded rest (fun _ => by simp) (subscription?_id found) held replaced

end MeteringBilling
