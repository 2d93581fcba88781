import MeteringBilling.Proofs.AskedChanges
import MeteringBilling.Proofs.Deliveries
import MeteringBilling.Standing

/-! The rows follow the standing: an event turns the row it is about, and leaves the rows of
other subscriptions alone. -/

namespace MeteringBilling

variable {env : Env} {database after : Database} {id other : String}

theorem subscription?_id {row : Subscription} (found : database.subscription? id = some row) :
    row.stripeSubscriptionId = some id :=
  eq_of_beq (Table.find?_mem found).2

theorem inserted_subscription? {row : Subscription} (inserted : database.insertSubscription row = .ok after) (id : String) :
    after.subscription? id = (database.subscription? id).or
      (if row.stripeSubscriptionId == some id then some row else none) := by
  obtain ⟨_, _, fits, rfl⟩ := insertSubscription_ok.mp inserted
  exact Table.find?_add _ _ fits _

theorem upserted_standing? {row : Subscription} (written : database.upsertSubscription row = .ok after) (id : String) :
    after.standing? id =
      if row.stripeSubscriptionId = some id then some row.standing else database.standing? id := by
  by_cases stored : ∃ own stored, row.stripeSubscriptionId = some own ∧ database.subscription? own = some stored
  · obtain ⟨own, stored, identified, found⟩ := stored
    obtain ⟨_, rfl⟩ := (upsertSubscription_stored identified found).mp written
    rw [Database.standing?, Database.subscription?, Table.find?_update]
    swap
    · exact fun _ => rfl
    change ((database.subscription? id).map _).map _ = _
    by_cases same : row.stripeSubscriptionId = some id
    · obtain rfl := Option.some.inj (identified.symm.trans same)
      have selected : (stored.stripeSubscriptionId == row.stripeSubscriptionId) = true :=
        beq_iff_eq.mpr ((subscription?_id found).trans identified.symm)
      simp only [found, Option.map_some, selected, if_true, if_pos same]
      rfl
    · rw [if_neg same, Database.standing?]
      cases kept : database.subscription? id with
      | none => rfl
      | some stored =>
        have apart : ¬ (stored.stripeSubscriptionId == row.stripeSubscriptionId) = true := fun equal =>
          same ((eq_of_beq equal).symm.trans (subscription?_id kept))
        simp only [Option.map_some, if_neg apart]
  · have fresh : ∀ own, row.stripeSubscriptionId = some own → database.subscription? own = none := by
      intro own identified
      exact Option.eq_none_iff_forall_ne_some.mpr fun found equal => stored ⟨own, found, identified, equal⟩
    rw [upsertSubscription_new fresh] at written
    rw [Database.standing?, inserted_subscription? written, Database.standing?]
    by_cases same : row.stripeSubscriptionId = some id
    · simp [fresh id same, same]
    · simp [same]

@[simp] theorem flushed_standing (time : Int) (loaded assigned : Subscription) :
    (Database.flushed time loaded assigned loaded).standing = assigned.standing := by
  unfold Database.flushed Subscription.standing
  split
  · next same => rw [same]
  · dsimp only
    split <;> split <;> simp_all

theorem assigned_standing? {time : Int} {loaded assigned : Subscription} {own : String}
    (found : database.subscription? own = some loaded)
    (written : database.updateSubscription time loaded assigned = .ok after) (id : String) :
    after.standing? id = if own = id then some assigned.standing else database.standing? id := by
  obtain ⟨_, rfl⟩ := updateSubscription_ok.mp written
  rw [Database.standing?, Database.subscription?, Table.find?_update]
  swap
  · intro row
    unfold Database.flushed
    split <;> rfl
  · change ((database.subscription? id).map _).map _ = _
    by_cases same : own = id
    · subst same
      simp only [found, Option.map_some, beq_self_eq_true, if_true, flushed_standing]
    · rw [if_neg same, Database.standing?]
      cases kept : database.subscription? id with
      | none => rfl
      | some stored =>
        have apart : ¬ (stored.id == loaded.id) = true := by
          intro equal
          have row := Table.eq_of_clash (Table.find?_mem kept).1 (Table.find?_mem found).1 (Or.inl (eq_of_beq equal))
          have names := (subscription?_id found).symm.trans ((row ▸ subscription?_id kept))
          exact same (Option.some.inj names)
        simp only [Option.map_some, if_neg apart]

theorem enrolled_standing? {tenant : Tenant} (inserted : database.insertTenant tenant = .ok after) (id : String) :
    after.standing? id = database.standing? id := by
  obtain ⟨_, _, rfl⟩ := insertTenant_ok.mp inserted
  rfl

theorem process?_eq_some {data : EventData} : data.process? env database = some after ↔
    ∃ change, data.change? env database = some change ∧ change.applied? database = some after :=
  Option.bind_eq_some_iff

theorem checkout_standing? {session : CheckoutSession} {change : Change}
    (asked : session.change? env database = some change) (applied : change.applied? database = some after)
    (id : String) : after.standing? id =
      if (EventData.checkoutCompleted session).target? database = some id then
        some ⟨.active, checkoutTier env.settings session⟩ else database.standing? id := by
  rcases checkout_asks asked with ⟨rfl, ignored⟩ | ⟨tenantId, rfl, named⟩ | ⟨tenant, rfl, unnamed⟩
  · obtain rfl := Option.some.inj applied
    simp [EventData.target?, ignored]
  · rw [upserted_standing? (toOption_eq_some.mp applied)]
    by_cases own : session.subscription = some id
    all_goals simp [CheckoutSession.row, EventData.target?, named, own, Subscription.standing]
  · obtain ⟨enrolled, inserted, written⟩ := Option.bind_eq_some_iff.mp applied
    rw [upserted_standing? (toOption_eq_some.mp written), enrolled_standing? (toOption_eq_some.mp inserted)]
    by_cases own : session.subscription = some id
    all_goals simp [CheckoutSession.row, EventData.target?, unnamed, own, Subscription.standing]

theorem invoiceSubscription_ok {invoice : Invoice} {own : Option String} (read : invoiceSubscription invoice = .ok own) :
    own = invoice.subscription.join.filter (· ≠ "") := by
  unfold invoiceSubscription readAttr at read
  cases field : invoice.subscription with
  | none =>
    rw [field] at read
    cases read
  | some value =>
    rw [field] at read
    exact (Except.ok.inj read).symm

theorem invoice_standing? {invoice : Invoice} {status : SubscriptionStatus} {change : Change}
    (asked : invoice.change? status env database = some change) (applied : change.applied? database = some after)
    (id : String) : after.standing? id =
      if invoice.subscription.join.filter (· ≠ "") = some id then
        (database.standing? id).map fun standing => { standing with status } else database.standing? id := by
  obtain ⟨own, read, outcome⟩ := invoice_asks asked
  rw [← invoiceSubscription_ok read]
  rcases outcome with ⟨absent, rfl⟩ | ⟨row, found, rfl⟩
  · obtain rfl := Option.some.inj applied
    by_cases same : own = some id
    · subst same
      have missing : database.subscription? id = none := absent
      simp [Database.standing?, missing]
    · rw [if_neg same]
  · obtain ⟨name, rfl, stored⟩ := Option.bind_eq_some_iff.mp found
    rw [assigned_standing? stored (toOption_eq_some.mp applied)]
    by_cases same : name = id
    · subst same
      simp [Database.standing?, stored, Subscription.standing]
    · simp [same]

theorem subscriptionStatus_ok {value : String} {status : SubscriptionStatus} :
    subscriptionStatus value = .ok status ↔ SubscriptionStatus.ofValue? value = some status := by
  unfold subscriptionStatus
  cases SubscriptionStatus.ofValue? value with
  | none => exact ⟨nofun, nofun⟩
  | some other => exact ⟨fun same => congrArg _ (Except.ok.inj same), fun same => congrArg _ (Option.some.inj same)⟩

theorem price?_eq {subscription : StripeSubscription} {price : Option String}
    (priced : firstItemPrice subscription = .ok price) : subscription.price? = price := by
  rw [StripeSubscription.price?, priced]
  cases price <;> rfl

theorem newSubscription_parts {settings : Settings} {uuid : UUID} {time : Int} {subscription : StripeSubscription}
    {row : Option Subscription} (built : newSubscription settings uuid time subscription = .ok row) :
    ∃ price tenantId status periodStart periodEnd cancelAtPeriodEnd canceledAt,
      firstItemPrice subscription = .ok price ∧ metadataTenant subscription = .ok tenantId ∧
      subscriptionStatus subscription.status = .ok status ∧
      (canceledAt = none ↔ canceledAtSeconds subscription = none) ∧
      row = tenantId.map fun tenantId =>
        { id := uuid, tenantId, planId := planTier settings price, stripeSubscriptionId := some subscription.id, status,
          currentPeriodStart := some periodStart, currentPeriodEnd := some periodEnd, cancelAtPeriodEnd,
          canceledAt, updatedAt := time } := by
  obtain ⟨price, priced, built⟩ := except_bind_ok.mp built
  obtain ⟨tenantId, named, built⟩ := except_bind_ok.mp built
  obtain ⟨status, known, built⟩ := except_bind_ok.mp built
  obtain ⟨periodStart, _, built⟩ := except_bind_ok.mp built
  obtain ⟨periodEnd, _, built⟩ := except_bind_ok.mp built
  obtain ⟨cancelAtPeriodEnd, _, built⟩ := except_bind_ok.mp built
  dsimp only at built
  split at built
  · next carried =>
    obtain ⟨_, read, built⟩ := except_bind_ok.mp built
    obtain rfl := Except.ok.inj read
    exact ⟨price, tenantId, status, periodStart, periodEnd, cancelAtPeriodEnd, none, priced, named, known,
      iff_of_true rfl carried, (Except.ok.inj built).symm⟩
  · next seconds carried =>
    obtain ⟨canceledAt, read, built⟩ := except_bind_ok.mp built
    refine ⟨price, tenantId, status, periodStart, periodEnd, cancelAtPeriodEnd, canceledAt, priced, named, known, ?_,
      (Except.ok.inj built).symm⟩
    rw [carried]
    cases ranged : fromTimestamp (some seconds) with
    | error exc =>
      rw [ranged] at read
      cases read
    | ok instant =>
      rw [ranged] at read
      obtain rfl := Except.ok.inj read
      exact iff_of_false (Option.some_ne_none _) (Option.some_ne_none _)

theorem newSubscription_ok {settings : Settings} {uuid : UUID} {time : Int} {subscription : StripeSubscription}
    {row : Subscription} (built : newSubscription settings uuid time subscription = .ok (some row)) :
    row.stripeSubscriptionId = some subscription.id ∧
      SubscriptionStatus.ofValue? subscription.status = some row.status ∧
      row.planId = planTier settings subscription.price? := by
  obtain ⟨price, tenantId, status, _, _, _, _, priced, _, known, _, made⟩ := newSubscription_parts built
  obtain ⟨_, _, rfl⟩ := Option.map_eq_some_iff.mp made.symm
  exact ⟨rfl, subscriptionStatus_ok.mp known, by rw [price?_eq priced]⟩

theorem assignUpdate_ok {settings : Settings} {subscription : StripeSubscription} {row assigned : Subscription}
    (built : assignUpdate settings subscription row = .ok assigned) :
    SubscriptionStatus.ofValue? subscription.status = some assigned.status ∧
      assigned.planId = subscription.updatedPlan settings row.planId := by
  obtain ⟨status, known, built⟩ := except_bind_ok.mp built
  obtain ⟨_, _, built⟩ := except_bind_ok.mp built
  obtain ⟨_, _, built⟩ := except_bind_ok.mp built
  obtain ⟨_, _, built⟩ := except_bind_ok.mp built
  obtain ⟨price, priced, built⟩ := except_bind_ok.mp built
  obtain rfl := Except.ok.inj built
  refine ⟨subscriptionStatus_ok.mp known, ?_⟩
  have same := price?_eq priced
  unfold StripeSubscription.updatedPlan
  exact same ▸ rfl

theorem turned_absent {turn : Option Standing → Option Standing} {own : String}
    (absent : database.subscription? own = none) (still : turn none = none) (id : String) :
    database.standing? id =
      if some own = some id then turn (database.standing? id) else database.standing? id := by
  by_cases same : some own = some id
  · obtain rfl := Option.some.inj same
    rw [if_pos rfl, Database.standing?, absent]
    exact still.symm
  · rw [if_neg same]

theorem turned_assigned {turn : Option Standing → Option Standing} {time : Int} {loaded assigned : Subscription}
    {own : String} (found : database.subscription? own = some loaded)
    (applied : (Change.assign time loaded assigned).applied? database = some after)
    (turns : turn (some loaded.standing) = some assigned.standing) (id : String) : after.standing? id =
      if some own = some id then turn (database.standing? id) else database.standing? id := by
  rw [assigned_standing? found (toOption_eq_some.mp applied)]
  by_cases same : own = id
  · subst same
    rw [if_pos rfl, if_pos rfl, Database.standing?, found]
    exact turns.symm
  · rw [if_neg same, if_neg fun equal => same (Option.some.inj equal)]

theorem created_standing? {subscription : StripeSubscription} {change : Change}
    (asked : subscription.created? env database = some change) (applied : change.applied? database = some after)
    (id : String) : after.standing? id =
      if some subscription.id = some id then
        (EventData.subscriptionCreated subscription).turn env.settings (database.standing? id)
      else database.standing? id := by
  rcases created_asks asked with ⟨row, status, found, known, rfl⟩ | ⟨absent, row, rfl, built⟩
  · refine turned_assigned found applied ?_ id
    simp [EventData.turn, subscriptionStatus_ok.mp known, Subscription.standing]
  · obtain ⟨own, known, plan⟩ := newSubscription_ok built
    rw [Database.standing?, inserted_subscription? (toOption_eq_some.mp applied), own]
    by_cases same : subscription.id = id
    · subst same
      simp [EventData.turn, Database.standing?, absent, known, Subscription.standing, plan]
    · simp [same, Database.standing?]

theorem updated_standing? {subscription : StripeSubscription} {change : Change}
    (asked : subscription.updated? env database = some change) (applied : change.applied? database = some after)
    (id : String) : after.standing? id =
      if some subscription.id = some id then
        (EventData.subscriptionUpdated subscription).turn env.settings (database.standing? id)
      else database.standing? id := by
  rcases updated_asks asked with ⟨absent, rfl⟩ | ⟨row, assigned, found, built, rfl⟩
  · obtain rfl := Option.some.inj applied
    exact turned_absent absent rfl id
  · obtain ⟨known, plan⟩ := assignUpdate_ok built
    refine turned_assigned found applied ?_ id
    simp [EventData.turn, known, plan, Subscription.standing]

theorem deleted_standing? {subscription : StripeSubscription} {change : Change}
    (asked : subscription.deleted? env database = some change) (applied : change.applied? database = some after)
    (id : String) : after.standing? id =
      if some subscription.id = some id then
        (EventData.subscriptionDeleted subscription).turn env.settings (database.standing? id)
      else database.standing? id := by
  rcases deleted_asks asked with ⟨absent, rfl⟩ | ⟨row, canceledAt, found, rfl⟩
  · obtain rfl := Option.some.inj applied
    exact turned_absent absent rfl id
  · exact turned_assigned found applied rfl id

/-- A processed event turns the standing of the subscription it is about, and no other. -/
theorem processed_standing? {data : EventData} (processed : data.process? env database = some after) (id : String) :
    after.standing? id =
      if data.target? database = some id then data.turn env.settings (database.standing? id)
      else database.standing? id := by
  obtain ⟨change, asked, applied⟩ := process?_eq_some.mp processed
  cases data with
  | checkoutCompleted session => exact checkout_standing? asked applied id
  | paymentSucceeded invoice | paymentFailed invoice => exact invoice_standing? asked applied id
  | subscriptionCreated subscription => exact created_standing? asked applied id
  | subscriptionUpdated subscription => exact updated_standing? asked applied id
  | subscriptionDeleted subscription => exact deleted_standing? asked applied id
  | subscriptionTrialWillEnd subscription =>
    obtain rfl := trialWillEnd_asks asked
    obtain rfl := Option.some.inj applied
    rfl
  | invoiceUpcoming invoice =>
    obtain rfl := upcoming_asks asked
    obtain rfl := Option.some.inj applied
    rfl
  | unhandled type =>
    obtain rfl := Option.some.inj asked
    obtain rfl := Option.some.inj applied
    rfl

theorem committed_processed {delivery : Delivery} {store : Store} (commits : delivery.Commits store) :
    ∃ written, delivery.event.data.process? delivery.env store.database = some written ∧
      delivery.event.payload ≠ none := by
  rcases commits_cases delivery store with ⟨_, applied⟩ | ⟨fails, _⟩
  · obtain ⟨written, processed, serialized, _⟩ := applied?_eq_some.mp applied
    exact ⟨written, processed, serialized⟩
  · exact (fails commits).elim

/-- The status of a created event that was processed is known, and so is that of an update to
a stored row. -/
theorem created_known {subscription : StripeSubscription}
    (processed : (EventData.subscriptionCreated subscription).process? env database = some after) :
    ∃ status, SubscriptionStatus.ofValue? subscription.status = some status := by
  obtain ⟨change, asked, _⟩ := process?_eq_some.mp processed
  rcases created_asks asked with ⟨row, status, _, known, _⟩ | ⟨_, row, _, built⟩
  · exact ⟨status, subscriptionStatus_ok.mp known⟩
  · exact ⟨row.status, (newSubscription_ok built).2.1⟩

theorem updated_known {subscription : StripeSubscription} {row : Subscription}
    (found : database.subscription? subscription.id = some row)
    (processed : (EventData.subscriptionUpdated subscription).process? env database = some after) :
    ∃ status, SubscriptionStatus.ofValue? subscription.status = some status := by
  obtain ⟨change, asked, _⟩ := process?_eq_some.mp processed
  rcases updated_asks asked with ⟨absent, _⟩ | ⟨_, assigned, _, built, _⟩
  · rw [found] at absent
    cases absent
  · exact ⟨assigned.status, (assignUpdate_ok built).1⟩

/-- A delivery turns a standing when it commits. -/
theorem delivered_standing? (delivery : Delivery) (store : Store) (id : String) :
    (delivery.after store).database.standing? id =
      if delivery.Commits store ∧ delivery.event.data.target? store.database = some id then
        delivery.event.data.turn delivery.env.settings (store.database.standing? id)
      else store.database.standing? id := by
  rcases commits_cases delivery store with ⟨commits, applied⟩ | ⟨fails, same⟩
  · obtain ⟨written, processed, _, _, final⟩ := applied?_eq_some.mp applied
    have turned : (delivery.after store).database.standing? id = written.standing? id := by rw [final]; rfl
    rw [turned, processed_standing? processed]
    simp only [commits, true_and]
  · rw [same, if_neg fun both => fails both.1]

theorem standing?_eq_some {standing : Standing} : database.standing? id = some standing ↔
    ∃ row ∈ database.subscriptions, row.stripeSubscriptionId = some id ∧ row.standing = standing := by
  constructor
  · intro stands
    obtain ⟨row, found, same⟩ := Option.map_eq_some_iff.mp stands
    exact ⟨row, (Table.find?_mem found).1, subscription?_id found, same⟩
  · intro stored
    obtain ⟨row, member, named, rfl⟩ := stored
    rw [Database.standing?]
    cases found : database.subscription? id with
    | none => exact absurd (beq_iff_eq.mpr named) (List.find?_eq_none.mp found row member)
    | some other =>
      have same := (subscription?_id found).trans named.symm
      have equal := Table.eq_of_clash (Table.find?_mem found).1 member
        (Or.inr (Or.inr ⟨by rw [subscription?_id found]; exact Option.some_ne_none id, same⟩))
      rw [equal, Option.map_some]

end MeteringBilling
