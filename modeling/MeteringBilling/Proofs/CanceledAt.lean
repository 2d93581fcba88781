import MeteringBilling.Proofs.WrittenRows
import MeteringBilling.Seed

/-! Rows with the status canceled and their `canceled_at`: which deliveries write the one
without the other. -/

namespace MeteringBilling.CanceledAt

/-- A cancelled row says when. -/
def Dated (row : Subscription) : Prop := row.status = .canceled → row.canceledAt ≠ none

def AllDated (database : Database) : Prop := ∀ row ∈ database.subscriptions.rows, Dated row

instance (row : Subscription) : Decidable (Dated row) := inferInstanceAs (Decidable (_ → _))

instance (database : Database) : Decidable (AllDated database) :=
  inferInstanceAs (Decidable (∀ row ∈ database.subscriptions.rows, Dated row))

/-- A created or updated event with the status canceled, to be written to a row without the
instant: the stored one, or a new one where the event carries no instant. -/
def Undated (database : Database) : EventData → Prop
  | .subscriptionCreated subscription => subscription.status = "canceled" ∧
    (match database.subscription? subscription.id with
      | some row => row.canceledAt
      | none => canceledAtSeconds subscription) = none
  | .subscriptionUpdated subscription => subscription.status = "canceled" ∧
    ∃ row, database.subscription? subscription.id = some row ∧ row.canceledAt = none
  | _ => False

/-- The delivery is the first of such an event, and the event can be written and marked. -/
def Undates (delivery : Delivery) (store : Store) : Prop :=
  store.database.processedRows delivery.event.id = [] ∧ delivery.event.payload ≠ none ∧
    (∃ written, delivery.event.data.process? delivery.env store.database = some written) ∧
    Undated store.database delivery.event.data

variable {env : Env} {database written : Database} {data : EventData} {change : Change} {own : Option String}
  {delivery : Delivery} {store : Store}

def UndatedChange : Change → Prop
  | .create row | .assign _ _ row => ¬ Dated row
  | _ => False

theorem status_canceled {value : String} {status : SubscriptionStatus}
    (known : SubscriptionStatus.ofValue? value = some status) : status = .canceled ↔ value = "canceled" := by
  have text := List.find?_some known
  rw [beq_iff_eq] at text
  subst text
  cases status <;> decide

theorem dated_flushed (time : Int) (loaded assigned : Subscription) :
    Dated (Database.flushed time loaded assigned loaded) ↔ Dated assigned := by
  unfold Database.flushed
  split
  · next same => rw [same]
  · unfold Dated
    dsimp only
    split <;> split <;> simp_all

theorem dated_assigned {assigned row : Subscription} (same : assigned.canceledAt = row.canceledAt) {value : String}
    (known : SubscriptionStatus.ofValue? value = some assigned.status) :
    ¬ Dated assigned ↔ value = "canceled" ∧ row.canceledAt = none := by
  rw [Dated, status_canceled known, same, Classical.not_imp, not_not]

theorem newSubscription_dated {settings : Settings} {uuid : UUID} {time : Int} {subscription : StripeSubscription}
    {row : Subscription} (built : newSubscription settings uuid time subscription = .ok (some row)) :
    row.canceledAt = none ↔ canceledAtSeconds subscription = none := by
  obtain ⟨_, _, _, _, _, _, _, _, _, _, canceled, made⟩ := newSubscription_parts built
  obtain ⟨_, _, rfl⟩ := Option.map_eq_some_iff.mp made.symm
  exact canceled

theorem assignUpdate_canceledAt {settings : Settings} {subscription : StripeSubscription} {row assigned : Subscription}
    (built : assignUpdate settings subscription row = .ok assigned) : assigned.canceledAt = row.canceledAt := by
  obtain ⟨_, _, built⟩ := except_bind_ok.mp built
  obtain ⟨_, _, built⟩ := except_bind_ok.mp built
  obtain ⟨_, _, built⟩ := except_bind_ok.mp built
  obtain ⟨_, _, built⟩ := except_bind_ok.mp built
  obtain ⟨_, _, built⟩ := except_bind_ok.mp built
  obtain rfl := Except.ok.inj built
  rfl

theorem undatedChange_iff (asked : data.change? env database = some change) :
    UndatedChange change ↔ Undated database data := by
  cases data with
  | checkoutCompleted session =>
    rcases checkout_asks asked with ⟨rfl, _⟩ | ⟨tenantId, rfl, _⟩ | ⟨tenant, rfl, _⟩
    all_goals exact Iff.rfl
  | paymentSucceeded invoice | paymentFailed invoice =>
    obtain ⟨own, _, ⟨_, rfl⟩ | ⟨row, _, rfl⟩⟩ := invoice_asks asked
    · exact Iff.rfl
    · exact iff_of_false (fun undated => undated nofun) id
  | subscriptionCreated subscription =>
    rcases created_asks asked with ⟨row, status, found, known, rfl⟩ | ⟨absent, row, rfl, built⟩
    · rw [Undated, found]
      exact dated_assigned rfl (subscriptionStatus_ok.mp known)
    · rw [Undated, absent]
      exact (dated_assigned rfl (newSubscription_ok built).2.1).trans (and_congr_right fun _ => newSubscription_dated built)
  | subscriptionUpdated subscription =>
    rcases updated_asks asked with ⟨absent, rfl⟩ | ⟨row, assigned, found, built, rfl⟩
    · simp [UndatedChange, Undated, absent]
    · simp only [Undated, found, Option.some.injEq, exists_eq_left']
      exact dated_assigned (assignUpdate_canceledAt built) (assignUpdate_ok built).1
  | subscriptionDeleted subscription =>
    rcases deleted_asks asked with ⟨_, rfl⟩ | ⟨row, canceledAt, _, rfl⟩
    · exact Iff.rfl
    · exact iff_of_false (fun undated => undated fun _ => Option.some_ne_none canceledAt) id
  | subscriptionTrialWillEnd subscription =>
    obtain rfl := trialWillEnd_asks asked
    exact Iff.rfl
  | invoiceUpcoming invoice =>
    obtain rfl := upcoming_asks asked
    exact Iff.rfl
  | unhandled type =>
    obtain rfl := Option.some.inj asked
    exact Iff.rfl

theorem allDated_applied (of : change.Of own database) (applied : change.applied? database = some written)
    (dated : AllDated database) : AllDated written ↔ ¬ UndatedChange change := by
  unfold AllDated at dated ⊢
  cases applied?_written of applied with
  | kept nothing same =>
    subst nothing
    rw [same]
    exact iff_of_true dated id
  | added row inserted _ longer =>
    rw [longer]
    have others : (∀ stored ∈ database.subscriptions.rows ++ [row], Dated stored) ↔ Dated row := by
      simp only [List.forall_mem_append, List.forall_mem_singleton]
      exact and_iff_right dated
    rw [others]
    cases change with
    | upsert _ | enroll _ _ =>
      obtain rfl := Option.some.inj inserted
      exact iff_of_true (fun canceled => by cases of.2.symm.trans canceled) id
    | create _ =>
      obtain rfl := Option.some.inj inserted
      exact not_not.symm
    | nothing | assign _ _ _ => cases inserted
  | rewritten first stored rest creates _ held replaced =>
    rw [held, List.forall_mem_append, List.forall_mem_cons] at dated
    rw [replaced, List.forall_mem_append, List.forall_mem_cons, and_iff_right dated.1, and_iff_left dated.2.2]
    cases change with
    | nothing => exact iff_of_true dated.2.1 id
    | upsert _ | enroll _ _ => exact iff_of_true (fun canceled => by cases of.2.symm.trans canceled) id
    | create row => exact (creates row rfl).elim
    | assign time loaded assigned => exact (dated_flushed time loaded assigned).trans not_not.symm

theorem allDated_processed (processed : data.process? env database = some written) (dated : AllDated database) :
    AllDated written ↔ ¬ Undated database data := by
  obtain ⟨change, asked, applied⟩ := process?_eq_some.mp processed
  exact (allDated_applied (change?_of asked) applied dated).trans (not_congr (undatedChange_iff asked))

theorem allDated_after (dated : AllDated store.database) (dates : ¬ Undates delivery store) :
    AllDated (delivery.after store).database := by
  rcases commits_cases delivery store with ⟨commits, applied⟩ | ⟨_, same⟩
  · obtain ⟨written, processed, serialized, _, final⟩ := applied?_eq_some.mp applied
    rw [final]
    exact (allDated_processed processed dated).mpr fun undated =>
      dates ⟨commits.1, serialized, ⟨written, processed⟩, undated⟩
  · rw [same]
    exact dated

theorem undated_after (quiet : delivery.env.Quiet) (dated : AllDated store.database) (undates : Undates delivery store) :
    ¬ AllDated (delivery.after store).database := by
  obtain ⟨unprocessed, serialized, ⟨written, processed⟩, undated⟩ := undates
  obtain ⟨fits, applied⟩ := applied?_unprocessed unprocessed serialized processed
  rw [(delivered_first quiet unprocessed applied).2]
  exact fun all => (allDated_processed processed dated).mp all undated

/-- From tables in which every cancelled row says when, as an empty one, each does as long as no
delivery cancels without an instant, and where no statement fails no longer than that. -/
theorem canceled_dated_iff (dated : AllDated store.database) (schedule : List Delivery) :
    (deliveries.Each (fun delivery store => ¬ Undates delivery store) schedule store →
      deliveries.Always (fun store => AllDated store.database) schedule store) ∧
    ((∀ delivery ∈ schedule, delivery.env.Quiet) →
      deliveries.Always (fun store => AllDated store.database) schedule store →
      deliveries.Each (fun delivery store => ¬ Undates delivery store) schedule store) := by
  constructor
  · refine Machine.always_of_each ?_ (fun _ _ => trivial : ∀ delivery ∈ schedule, (fun _ => True) delivery) dated
    intro delivery store next _ taken dated dates
    cases taken
    exact allDated_after dated dates
  · intro quiet
    have unguarded : deliveries.Invariant (fun delivery => delivery.env.Quiet) fun _ => True :=
      fun _ _ _ _ _ _ => trivial
    refine (Machine.always_iff_each unguarded ?_ quiet trivial dated).mp
    intro delivery store next calm _ dated taken
    cases taken
    exact ⟨fun all undates => undated_after calm dated undates all, allDated_after dated⟩

def unsubscribed : Store := ⟨{ Seed.database with subscriptions := .empty }, fun _ => none⟩

def checkout : Delivery where
  env := Seed.env 20
  event := ⟨"evt_1", .checkoutCompleted ⟨some ⟨some Seed.tenant.id.str, true⟩, some "cus_1", some "sub_1", none⟩,
    Seed.payload⟩

/-- The created event comes late and finds the row. -/
def created : Delivery where
  env := Seed.env 21
  event := ⟨"evt_2", .subscriptionCreated { Seed.stripeSubscription "canceled" [] with
    items := none, canceledAt := some 1750000000 }, Seed.payload⟩

/-- Stripe says when, but an update does not write it. -/
def cancellation : Delivery where
  env := Seed.env 22
  event := ⟨"evt_3", .subscriptionUpdated { Seed.stripeSubscription "canceled" [] with canceledAt := some 1750000000 },
    Seed.payload⟩

/-- From an empty table by a created event, and from a stored row by an update. -/
theorem cancels_undated : unsubscribed.database.subscriptions.rows = [] ∧
    checkout.reply unsubscribed = .ok .success ∧ created.reply (checkout.after unsubscribed) = .ok .success ∧
    ¬ deliveries.Always (fun store => AllDated store.database) [checkout, created] unsubscribed ∧
    AllDated Seed.paid.database ∧ cancellation.reply Seed.paid = .ok .success ∧
    ¬ deliveries.Always (fun store => AllDated store.database) [cancellation] Seed.paid := by
  refine ⟨rfl, by decide, by decide, fun always => ?_, by decide, by decide, fun always => ?_⟩
  · have last : AllDated (created.after (checkout.after unsubscribed)).database := (always.2 _ rfl).2 _ rfl
    exact absurd last (by decide)
  · have last : AllDated (cancellation.after Seed.paid).database := always.2 _ rfl
    exact absurd last (by decide)

theorem canceled_dated_update :
    (deliveries.Each (fun delivery store => ¬ Undates delivery store) [cancellation] Seed.paid →
      deliveries.Always (fun store => AllDated store.database) [cancellation] Seed.paid) ∧
    ((∀ delivery ∈ [cancellation], delivery.env.Quiet) →
      deliveries.Always (fun store => AllDated store.database) [cancellation] Seed.paid →
      deliveries.Each (fun delivery store => ¬ Undates delivery store) [cancellation] Seed.paid) :=
  canceled_dated_iff (by decide) [cancellation]

end MeteringBilling.CanceledAt
