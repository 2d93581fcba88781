import MeteringBilling.Proofs.Acceptance
import MeteringBilling.Seed

/-! When a checkout that names a tenant takes effect: not where the tenant has a row without
the subscription's identifier, nor where the event's objects lack what the handler uses. -/

namespace MeteringBilling.Checkout

/-- A delivered checkout for a stored tenant and a subscription that no other tenant owns.
The identifier of a new row is new. -/
structure Paid (delivery : Delivery) (store : Store) (session : CheckoutSession) (tenantId : UUID) (id : String) :
    Prop where
  quiet : delivery.env.Quiet
  event : delivery.event.data = .checkoutCompleted session
  named : session.named? store.database = some (some tenantId)
  subscription : session.subscription = some id
  owned : ∀ row ∈ store.database.subscriptions, row.stripeSubscriptionId = some id → row.tenantId = tenantId
  fresh : store.database.subscription? id = none → ∀ row ∈ store.database.subscriptions,
    row.id ≠ delivery.env.uuid4 delivery.env.attempt .subscription

/-- The delivery succeeds and leaves the tenant one row, active under the subscription's
identifier. -/
def TakesEffect (delivery : Delivery) (store : Store) (tenantId : UUID) (id : String) : Prop :=
  delivery.reply store = .ok .success ∧
    ∃ row, (delivery.after store).database.subscriptions.select (·.tenantId == tenantId) = [row] ∧
      row.stripeSubscriptionId = some id ∧ row.status = .active

/-- The event is new and can be read and stored, the plan is stored, and any row the tenant
has carries the identifier. -/
structure Unobstructed (delivery : Delivery) (store : Store) (session : CheckoutSession) (tenantId : UUID) (id : String) :
    Prop where
  new : store.database.processedRows delivery.event.id = []
  has : session.HasGet
  serialized : delivery.event.payload ≠ none
  plan : store.database.hasPlan (checkoutTier delivery.env.settings session) = true
  carries : ∀ row ∈ store.database.subscriptions, row.tenantId = tenantId → row.stripeSubscriptionId = some id

variable {delivery : Delivery} {store : Store} {session : CheckoutSession} {tenantId : UUID} {id : String}

theorem select_tenant {database : Database} {row : Subscription} (member : row ∈ database.subscriptions)
    (owner : row.tenantId = tenantId) : database.subscriptions.select (·.tenantId == tenantId) = [row] := by
  have unique := Table.select_eq database.subscriptions (·.tenantId == tenantId) fun _ _ left right =>
    Or.inr (Or.inl ((eq_of_beq left).trans (eq_of_beq right).symm))
  rw [unique]
  cases found : database.subscriptions.find? (·.tenantId == tenantId) with
  | none => exact absurd (beq_iff_eq.mpr owner) (List.find?_eq_none.mp found row member)
  | some other =>
    obtain ⟨inside, same⟩ := Table.find?_mem found
    rw [Table.eq_of_clash inside member (Or.inr (Or.inl ((eq_of_beq same).trans owner.symm)))]
    rfl

theorem paid_process? (paid : Paid delivery store session tenantId id) (has : session.HasGet) :
    delivery.event.data.process? delivery.env store.database =
      (store.database.upsertSubscription (session.row delivery.env tenantId)).toOption := by
  rw [paid.event]
  exact named_process? paid.named has paid.subscription

theorem paid_has (paid : Paid delivery store session tenantId id) {written : Database}
    (processed : delivery.event.data.process? delivery.env store.database = some written) : session.HasGet := by
  by_contra lacks
  rw [paid.event, lacking_process? lacks] at processed
  cases processed

theorem paid_inserts (paid : Paid delivery store session tenantId id)
    (absent : store.database.subscription? id = none) :
    store.database.upsertSubscription (session.row delivery.env tenantId) =
      store.database.insertSubscription (session.row delivery.env tenantId) := by
  apply upsertSubscription_new
  intro own same
  obtain rfl := Option.some.inj (paid.subscription.symm.trans same)
  exact absent

theorem upserted_iff (paid : Paid delivery store session tenantId id) :
    (∃ after, store.database.upsertSubscription (session.row delivery.env tenantId) = .ok after) ↔
      store.database.hasPlan (checkoutTier delivery.env.settings session) = true ∧
        ∀ row ∈ store.database.subscriptions, row.tenantId = tenantId → row.stripeSubscriptionId = some id := by
  have identified : (session.row delivery.env tenantId).stripeSubscriptionId = some id := paid.subscription
  cases found : store.database.subscription? id with
  | some stored =>
    simp only [upsertSubscription_stored identified found, exists_and_left, exists_eq, and_true]
    refine (and_iff_left fun row member owner => ?_).symm
    have same := paid.owned stored (Table.find?_mem found).1 (subscription?_id found)
    rw [Table.eq_of_clash member (Table.find?_mem found).1 (Or.inr (Or.inl (owner.trans same.symm)))]
    exact subscription?_id found
  | none =>
    have absent : ∀ row ∈ store.database.subscriptions, row.stripeSubscriptionId ≠ some id := fun row member same =>
      List.find?_eq_none.mp found row member (beq_iff_eq.mpr same)
    simp only [paid_inserts paid found, insertSubscription_ok]
    constructor
    · intro inserted
      obtain ⟨_, _, plan, fits, _⟩ := inserted
      exact ⟨plan, fun row member owner => (fits row member (Or.inr (Or.inl owner))).elim⟩
    · intro allowed
      obtain ⟨plan, carries⟩ := allowed
      refine ⟨_, named_hasTenant paid.named, plan, ?_, rfl⟩
      intro row member clash
      rcases clash with same | same | ⟨_, same⟩
      · exact paid.fresh found row member same
      · exact absent row member (carries row member same)
      · exact absent row member (same.trans identified)

theorem upserted_row (paid : Paid delivery store session tenantId id) {after : Database}
    (written : store.database.upsertSubscription (session.row delivery.env tenantId) = .ok after) :
    ∃ row ∈ after.subscriptions, row.tenantId = tenantId ∧ row.stripeSubscriptionId = some id ∧ row.status = .active := by
  have identified : (session.row delivery.env tenantId).stripeSubscriptionId = some id := paid.subscription
  cases found : store.database.subscription? id with
  | some stored =>
    obtain ⟨_, rfl⟩ := (upsertSubscription_stored identified found).mp written
    have own := subscription?_id found
    have member := (Table.find?_mem found).1
    have selected : (stored.stripeSubscriptionId == (session.row delivery.env tenantId).stripeSubscriptionId) = true :=
      beq_iff_eq.mpr (own.trans identified.symm)
    refine ⟨Database.refreshed (session.row delivery.env tenantId) stored, ?_, paid.owned stored member own, own, rfl⟩
    exact List.mem_map.mpr ⟨stored, member, if_pos selected⟩
  | none =>
    rw [paid_inserts paid found] at written
    obtain ⟨_, _, fits, rfl⟩ := insertSubscription_ok.mp written
    exact ⟨_, List.mem_append_right _ (List.mem_singleton_self _), rfl, identified, rfl⟩

theorem takesEffect_iff (paid : Paid delivery store session tenantId id) :
    TakesEffect delivery store tenantId id ↔ Unobstructed delivery store session tenantId id := by
  constructor
  · intro effect
    obtain ⟨answered, _⟩ := effect
    rcases commits_cases delivery store with ⟨⟨unprocessed, _⟩, applied⟩ | ⟨fails, _⟩
    · obtain ⟨written, processed, serialized, _⟩ := applied?_eq_some.mp applied
      have has := paid_has paid processed
      rw [paid_process? paid has, toOption_eq_some] at processed
      obtain ⟨plan, carries⟩ := (upserted_iff paid).mp ⟨written, processed⟩
      exact ⟨unprocessed, has, serialized, plan, carries⟩
    · exact (fails (commits_of_success answered)).elim
  · intro unobstructed
    obtain ⟨written, upserted⟩ := (upserted_iff paid).mpr ⟨unobstructed.plan, unobstructed.carries⟩
    obtain ⟨_, applied⟩ := applied?_unprocessed unobstructed.new unobstructed.serialized
      ((paid_process? paid unobstructed.has).trans (toOption_eq_some.mpr upserted))
    obtain ⟨answered, final⟩ := delivered_first paid.quiet unobstructed.new applied
    obtain ⟨row, member, owner, own, active⟩ := upserted_row paid upserted
    refine ⟨answered, row, ?_, own, active⟩
    rw [final]
    exact select_tenant member owner

def upgrade : CheckoutSession where
  metadata := some ⟨some Seed.tenant.id.str, true⟩
  customer := some "cus_1"
  subscription := some "sub_1"
  displayItems := some [⟨some "price_..."⟩]

def delivered : Delivery := ⟨Seed.env 30, ⟨"evt_1", .checkoutCompleted upgrade, Seed.payload⟩⟩

theorem upgrade_paid : Paid delivered Seed.store upgrade Seed.tenant.id "sub_1" where
  quiet := Seed.env_quiet 30
  event := rfl
  named := by decide
  subscription := rfl
  owned := by decide
  fresh _ := by decide

/-- It is answered with an error and keeps the free row. -/
theorem upgrade_fails : Paid delivered Seed.store upgrade Seed.tenant.id "sub_1" ∧
    ¬ TakesEffect delivered Seed.store Seed.tenant.id "sub_1" := by
  refine ⟨upgrade_paid, ?_⟩
  intro effect
  obtain ⟨answered, _⟩ := effect
  revert answered
  decide

theorem upgrade_takesEffect_iff : TakesEffect delivered Seed.store Seed.tenant.id "sub_1" ↔
    Unobstructed delivered Seed.store upgrade Seed.tenant.id "sub_1" :=
  takesEffect_iff upgrade_paid

end MeteringBilling.Checkout
