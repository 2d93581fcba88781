import MeteringBilling.Proofs.Standings
import MeteringBilling.Seed

/-! After a deletion: which later deliveries bring a subscription back. -/

namespace MeteringBilling.Cancellation

/-- A row of the subscription lets its tenant meter. -/
def Metering (id : String) (database : Database) : Prop :=
  ∃ row ∈ database.subscriptions, row.stripeSubscriptionId = some id ∧ row.status.meters = true

def Present (id : String) (database : Database) : Prop :=
  ∃ row ∈ database.subscriptions, row.stripeSubscriptionId = some id

/-- The status text of an event is one of those that let a tenant meter. -/
def Restoring (status : String) : Prop := status = "active" ∨ status = "incomplete" ∨ status = "trialing"

/-- The delivery commits an event that writes such a status: a checkout that is heeded, a
payment for a stored row, or a created or updated event that carries one. -/
def Revives (id : String) (delivery : Delivery) (store : Store) : Prop :=
  delivery.Commits store ∧ delivery.event.data.target? store.database = some id ∧
    match delivery.event.data with
    | .checkoutCompleted _ => True
    | .paymentSucceeded _ => Present id store.database
    | .subscriptionCreated subscription => Restoring subscription.status
    | .subscriptionUpdated subscription => Restoring subscription.status ∧ Present id store.database
    | _ => False

theorem restoring_iff {value : String} :
    Restoring value ↔ ∃ status, SubscriptionStatus.ofValue? value = some status ∧ status.meters = true := by
  constructor
  · intro restoring
    rcases restoring with rfl | rfl | rfl
    · exact ⟨.active, by decide, rfl⟩
    · exact ⟨.incomplete, by decide, rfl⟩
    · exact ⟨.trialing, by decide, rfl⟩
  · intro restoring
    obtain ⟨status, known, meters⟩ := restoring
    have text := List.find?_some known
    rw [beq_iff_eq] at text
    subst text
    cases status <;> simp_all [Restoring, SubscriptionStatus.meters, SubscriptionStatus.value]

theorem metering_iff {id : String} {database : Database} :
    Metering id database ↔ ∃ standing, database.standing? id = some standing ∧ standing.status.meters = true := by
  constructor
  · intro metering
    obtain ⟨row, member, named, meters⟩ := metering
    exact ⟨row.standing, standing?_eq_some.mpr ⟨row, member, named, rfl⟩, meters⟩
  · intro standing
    obtain ⟨_, stands, meters⟩ := standing
    obtain ⟨row, member, named, rfl⟩ := standing?_eq_some.mp stands
    exact ⟨row, member, named, meters⟩

theorem present_iff {id : String} {database : Database} : Present id database ↔ (database.standing? id).isSome := by
  rw [Option.isSome_iff_exists]
  constructor
  · intro present
    obtain ⟨row, member, named⟩ := present
    exact ⟨row.standing, standing?_eq_some.mpr ⟨row, member, named, rfl⟩⟩
  · intro standing
    obtain ⟨_, stands⟩ := standing
    obtain ⟨row, member, named, _⟩ := standing?_eq_some.mp stands
    exact ⟨row, member, named⟩

theorem metering_after_iff {id : String} {delivery : Delivery} {store : Store} (stopped : ¬ Metering id store.database) :
    Metering id (delivery.after store).database ↔ Revives id delivery store := by
  rw [metering_iff] at stopped ⊢
  rw [delivered_standing?, Revives]
  by_cases turned : delivery.Commits store ∧ delivery.event.data.target? store.database = some id
  · rw [if_pos turned]
    simp only [turned.1, turned.2, true_and, restoring_iff, present_iff]
    cases event : delivery.event.data with
    | checkoutCompleted session => simp [EventData.turn, SubscriptionStatus.meters]
    | paymentSucceeded invoice | paymentFailed invoice | subscriptionDeleted subscription =>
      cases store.database.standing? id <;> simp [EventData.turn, SubscriptionStatus.meters]
    | subscriptionCreated subscription | subscriptionUpdated subscription =>
      simp only [EventData.turn]
      cases SubscriptionStatus.ofValue? subscription.status <;> cases store.database.standing? id <;> simp
    | subscriptionTrialWillEnd subscription | invoiceUpcoming invoice | unhandled type =>
      rw [event] at turned
      cases turned.2
  · rw [if_neg turned]
    exact iff_of_false stopped fun revives => turned ⟨revives.1, revives.2.1⟩

theorem deletion_stops {deletion : Delivery} {store : Store} {subscription : StripeSubscription}
    (deleted : deletion.event.data = .subscriptionDeleted subscription) (answered : deletion.reply store = .ok .success) :
    ¬ Metering subscription.id (deletion.after store).database := by
  rw [metering_iff, delivered_standing?, if_pos ⟨commits_of_success answered, by rw [deleted]; rfl⟩, deleted]
  cases store.database.standing? subscription.id <;> simp [EventData.turn, SubscriptionStatus.meters]

/-- A cancelled subscription stays cancelled exactly as long as no event revives it. -/
theorem cancellation_final_iff {deletion : Delivery} {store : Store} {subscription : StripeSubscription}
    (deleted : deletion.event.data = .subscriptionDeleted subscription) (answered : deletion.reply store = .ok .success)
    (schedule : List Delivery) :
    deliveries.Always (fun store => ¬ Metering subscription.id store.database) schedule (deletion.after store) ↔
      deliveries.Each (fun delivery store => ¬ Revives subscription.id delivery store) schedule
        (deletion.after store) := by
  have unguarded : deliveries.Invariant (fun _ => True) fun _ => True := fun _ _ _ _ _ _ => trivial
  refine Machine.always_iff_each unguarded ?_ (fun _ _ => trivial) trivial (deletion_stops deleted answered)
  intro delivery store _ _ _ stopped taken
  cases taken
  exact not_congr (metering_after_iff stopped)

def deleted : StripeSubscription where
  id := "sub_1"
  status := "canceled"
  metadata := none
  items := none
  currentPeriodStart := none
  currentPeriodEnd := none
  cancelAtPeriodEnd := none
  canceledAt := none

def deletion : Delivery where
  env := Seed.env 21
  event := ⟨"evt_1", .subscriptionDeleted deleted, Seed.payload⟩

def payment : Delivery where
  env := Seed.env 22
  event := ⟨"evt_2", .paymentSucceeded ⟨some "in_1", some (some "sub_1"), some 2900⟩, Seed.payload⟩

theorem cancellation_undone : deletion.reply Seed.paid = .ok .success ∧
    Metering "sub_1" (payment.after (deletion.after Seed.paid)).database :=
  ⟨by decide, metering_iff.mpr ⟨⟨.active, .free⟩, by decide, rfl⟩⟩

theorem cancellation_final_payment :
    deliveries.Always (fun store => ¬ Metering "sub_1" store.database) [payment]
        (deletion.after Seed.paid) ↔
      deliveries.Each (fun delivery store => ¬ Revives "sub_1" delivery store) [payment]
        (deletion.after Seed.paid) :=
  @cancellation_final_iff deletion _ deleted rfl (by decide) [payment]

end MeteringBilling.Cancellation
