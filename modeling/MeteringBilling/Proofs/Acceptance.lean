import MeteringBilling.Proofs.Standings

/-! Which events about a subscription are accepted: by a row, and where there is none. -/

namespace MeteringBilling

namespace StripeSubscription

def Known (subscription : StripeSubscription) : Prop :=
  ∃ status, SubscriptionStatus.ofValue? subscription.status = some status

/-- An update reads these, and so does the creation of a row. -/
structure Readable (subscription : StripeSubscription) : Prop where
  price : ∃ price, firstItemPrice subscription = .ok price
  periodStart : ∃ time, fromTimestamp subscription.currentPeriodStart = .ok time
  periodEnd : ∃ time, fromTimestamp subscription.currentPeriodEnd = .ok time
  cancelAtPeriodEnd : ∃ flag, subscription.cancelAtPeriodEnd = some flag

def Names (subscription : StripeSubscription) (tenantId : UUID) : Prop :=
  ∃ metadata text, subscription.metadata = some metadata ∧ metadata.tenantId = some text ∧
    UUID.parse? text = some tenantId

def HasGet (subscription : StripeSubscription) : Prop := ∀ metadata ∈ subscription.metadata, metadata.hasGet = true

def Cancelable (subscription : StripeSubscription) : Prop :=
  ∀ seconds, canceledAtSeconds subscription = some seconds → ∃ time, fromTimestamp (some seconds) = .ok time

end StripeSubscription

namespace EventData

/-- The event is about a subscription. A creation names the tenant as well. -/
def About (id : String) (tenantId : UUID) : EventData → Prop
  | .paymentSucceeded invoice | .paymentFailed invoice => invoiceSubscription invoice = .ok (some id)
  | .subscriptionCreated subscription => subscription.id = id ∧ subscription.Names tenantId
  | .subscriptionUpdated subscription | .subscriptionDeleted subscription => subscription.id = id
  | _ => False

/-- The handler returns where the subscription has a row. -/
def Acceptable : EventData → Prop
  | .subscriptionCreated subscription => subscription.Known
  | .subscriptionUpdated subscription => subscription.Known ∧ subscription.Readable
  | .subscriptionDeleted subscription => subscription.Cancelable
  | _ => True

/-- The handler returns where it has none. -/
def Buildable : EventData → Prop
  | .subscriptionCreated subscription =>
    subscription.Known ∧ subscription.Readable ∧ subscription.Cancelable ∧ subscription.HasGet
  | _ => True

end EventData

variable {env : Env} {database after : Database} {data : EventData} {id : String} {tenantId : UUID}

theorem readAttr_ok {α : Type} {name : String} {value : Attr α} {read : α} :
    readAttr name value = .ok read ↔ value = some read := by
  cases value with
  | none => exact ⟨nofun, nofun⟩
  | some other => exact ⟨fun same => congrArg _ (Except.ok.inj same), fun same => congrArg _ (Option.some.inj same)⟩

theorem invoice_subscription {invoice : Invoice} (about : invoiceSubscription invoice = .ok (some id)) :
    invoice.subscription.join.filter (· ≠ "") = some id :=
  (invoiceSubscription_ok about).symm

theorem about_target? (about : data.About id tenantId) : data.target? database = some id := by
  cases data with
  | paymentSucceeded invoice | paymentFailed invoice => exact invoice_subscription about
  | subscriptionCreated subscription => exact congrArg some about.1
  | subscriptionUpdated subscription | subscriptionDeleted subscription => exact congrArg some about
  | checkoutCompleted _ | subscriptionTrialWillEnd _ | invoiceUpcoming _ | unhandled _ => exact about.elim

theorem assigned_ok {settings : Settings} {subscription : StripeSubscription} {row : Subscription} :
    (∃ assigned, assignUpdate settings subscription row = .ok assigned) ↔
      subscription.Known ∧ subscription.Readable := by
  simp only [assignUpdate, except_bind_ok, subscriptionStatus_ok, readAttr_ok]
  constructor
  · intro built
    obtain ⟨_, status, known, _, periodStart, _, periodEnd, flag, cancels, price, priced, _⟩ := built
    exact ⟨⟨status, known⟩, ⟨price, priced⟩, ⟨_, periodStart⟩, ⟨_, periodEnd⟩, ⟨flag, cancels⟩⟩
  · intro readable
    obtain ⟨⟨status, known⟩, ⟨price, priced⟩, ⟨_, periodStart⟩, ⟨_, periodEnd⟩, ⟨flag, cancels⟩⟩ := readable
    exact ⟨_, status, known, _, periodStart, _, periodEnd, flag, cancels, price, priced, rfl⟩

theorem metadataTenant_ok {subscription : StripeSubscription} (named : subscription.Names tenantId)
    {read : Option UUID} : metadataTenant subscription = .ok read ↔ subscription.HasGet ∧ read = some tenantId := by
  obtain ⟨metadata, text, carried, written, parsed⟩ := named
  have present : text ≠ "" := by
    rintro rfl
    cases parsed
  have own : subscription.HasGet ↔ metadata.hasGet = true := by simp [StripeSubscription.HasGet, carried]
  have kept : metadata.tenantId.filter (· ≠ "") = some text := by simp [written, present]
  have looked : metadata.getTenantId = if metadata.hasGet then .ok (some text) else .error (.attributeError "get") := by
    rw [Metadata.getTenantId, kept]
  rw [own, metadataTenant, carried, readAttr]
  dsimp only [bind, Except.bind]
  rw [looked]
  cases metadata.hasGet with
  | false => exact iff_of_false (fun same => by cases same) fun both => Bool.false_ne_true both.1
  | true =>
    rw [if_pos rfl]
    dsimp only
    rw [parsed, and_iff_right rfl]
    exact ⟨fun same => (Except.ok.inj same).symm, fun same => congrArg _ same.symm⟩

theorem built_ok {settings : Settings} {uuid : UUID} {time : Int} {subscription : StripeSubscription}
    (named : subscription.Names tenantId) :
    (∃ row, newSubscription settings uuid time subscription = .ok row) ↔
      subscription.Known ∧ subscription.Readable ∧ subscription.Cancelable ∧ subscription.HasGet := by
  simp only [newSubscription, except_bind_ok, subscriptionStatus_ok, readAttr_ok]
  constructor
  · intro built
    obtain ⟨_, price, priced, read, looked, status, known, _, periodStart, _, periodEnd, flag, cancels, canceled⟩ := built
    have has := ((metadataTenant_ok named).mp looked).1
    refine ⟨⟨status, known⟩, ⟨⟨price, priced⟩, ⟨_, periodStart⟩, ⟨_, periodEnd⟩, ⟨flag, cancels⟩⟩, ?_, has⟩
    intro seconds carried
    rw [carried] at canceled
    cases ranged : fromTimestamp (some seconds) with
    | ok time => exact ⟨time, rfl⟩
    | error exc =>
      dsimp only at canceled
      rw [ranged] at canceled
      cases canceled
  · intro complete
    obtain ⟨⟨status, known⟩, readable, cancelable, has⟩ := complete
    have looked := (metadataTenant_ok named).mpr ⟨has, rfl⟩
    obtain ⟨⟨price, priced⟩, ⟨_, periodStart⟩, ⟨_, periodEnd⟩, ⟨flag, cancels⟩⟩ := readable
    cases carried : canceledAtSeconds subscription with
    | none => exact ⟨_, price, priced, _, looked, status, known, _, periodStart, _, periodEnd, flag, cancels, rfl⟩
    | some seconds =>
      obtain ⟨canceledAt, ranged⟩ := cancelable seconds carried
      have mapped : (fromTimestamp (some seconds)).map some = .ok (some canceledAt) := by rw [ranged]; rfl
      exact ⟨_, price, priced, _, looked, status, known, _, periodStart, _, periodEnd, flag, cancels,
        except_bind_ok.mpr ⟨_, mapped, rfl⟩⟩

theorem built_row {settings : Settings} {uuid : UUID} {time : Int} {subscription : StripeSubscription}
    (named : subscription.Names tenantId) {row : Option Subscription}
    (built : newSubscription settings uuid time subscription = .ok row) :
    ∃ new, row = some new ∧ new.id = uuid ∧ new.tenantId = tenantId ∧ new.stripeSubscriptionId = some subscription.id := by
  obtain ⟨_, owner, _, _, _, _, _, _, read, _, _, rfl⟩ := newSubscription_parts built
  obtain ⟨_, rfl⟩ := (metadataTenant_ok named).mp read
  exact ⟨_, rfl, rfl, rfl, rfl⟩

theorem cancelable_iff {subscription : StripeSubscription} :
    (∃ time, subscription.cancellationTime? env = some time) ↔ subscription.Cancelable := by
  unfold StripeSubscription.cancellationTime? StripeSubscription.Cancelable
  cases canceledAtSeconds subscription with
  | none => simp
  | some seconds => simp [toOption_eq_some]

theorem assign_applies (plans : ∀ planId, database.hasPlan planId = true) (time : Int) (loaded assigned : Subscription) :
    ∃ after, (Change.assign time loaded assigned).applied? database = some after :=
  ⟨_, toOption_eq_some.mpr (updateSubscription_ok.mpr ⟨fun _ => plans _, rfl⟩)⟩

theorem invoice_change? {invoice : Invoice} {status : SubscriptionStatus}
    (about : invoiceSubscription invoice = .ok (some id)) : invoice.change? status env database =
      some (match database.subscription? id with
        | none => .nothing
        | some row => .assign env.transactionStart row { row with status }) := by
  rw [Invoice.change?, about]
  rfl

theorem processed_assign {α : Type} {read : Option α} {time : Int} {row : Subscription} {assigned : α → Subscription}
    (plans : ∀ planId, database.hasPlan planId = true)
    (asked : data.change? env database = read.bind fun value => some (.assign time row (assigned value))) :
    (∃ after, data.process? env database = some after) ↔ ∃ value, read = some value := by
  rw [EventData.process?, asked]
  cases read with
  | none => simp
  | some value => exact iff_of_true (assign_applies plans _ _ _) ⟨value, rfl⟩

theorem accepted_iff (about : data.About id tenantId) {row : Subscription} (found : database.subscription? id = some row)
    (plans : ∀ planId, database.hasPlan planId = true) :
    (∃ after, data.process? env database = some after) ↔ data.Acceptable := by
  cases data with
  | paymentSucceeded invoice | paymentFailed invoice =>
    refine iff_of_true ?_ trivial
    rw [EventData.process?, EventData.change?, invoice_change? about, found]
    exact assign_applies plans _ _ _
  | subscriptionCreated subscription =>
    obtain ⟨rfl, _⟩ := about
    rw [processed_assign plans (by rw [EventData.change?, StripeSubscription.created?, found]; rfl)]
    simp only [toOption_eq_some, subscriptionStatus_ok]
    rfl
  | subscriptionUpdated subscription =>
    obtain rfl := about
    rw [processed_assign plans (by rw [EventData.change?, StripeSubscription.updated?, found]; rfl)]
    simp only [toOption_eq_some, assigned_ok]
    rfl
  | subscriptionDeleted subscription =>
    obtain rfl := about
    rw [processed_assign plans (by rw [EventData.change?, StripeSubscription.deleted?, found]; rfl)]
    exact cancelable_iff
  | checkoutCompleted _ | subscriptionTrialWillEnd _ | invoiceUpcoming _ | unhandled _ => exact about.elim

/-- Without a row, an event has no effect, or it creates one. -/
theorem absent_process? (about : data.About id tenantId) (absent : database.subscription? id = none) :
    (∃ subscription, data = .subscriptionCreated subscription) ∨ data.process? env database = some database := by
  cases data with
  | subscriptionCreated subscription => exact Or.inl ⟨subscription, rfl⟩
  | paymentSucceeded invoice | paymentFailed invoice =>
    apply Or.inr
    rw [EventData.process?, EventData.change?, invoice_change? about, absent]
    rfl
  | subscriptionUpdated subscription =>
    obtain rfl := about
    apply Or.inr
    rw [EventData.process?, EventData.change?, StripeSubscription.updated?, absent]
    rfl
  | subscriptionDeleted subscription =>
    obtain rfl := about
    apply Or.inr
    rw [EventData.process?, EventData.change?, StripeSubscription.deleted?, absent]
    rfl
  | checkoutCompleted _ | subscriptionTrialWillEnd _ | invoiceUpcoming _ | unhandled _ => exact about.elim

theorem buildable_of_processed (about : data.About id tenantId) (absent : database.subscription? id = none)
    (processed : data.process? env database = some after) : data.Buildable := by
  cases data with
  | subscriptionCreated subscription =>
    obtain ⟨rfl, named⟩ := about
    obtain ⟨change, asked, _⟩ := process?_eq_some.mp processed
    rcases created_asks asked with ⟨_, _, found, _⟩ | ⟨_, row, _, built⟩
    · rw [absent] at found
      cases found
    · exact (built_ok named).mp ⟨some row, built⟩
  | _ => trivial

theorem fits_new {row : Subscription} (identified : row.stripeSubscriptionId = some id)
    (absent : database.subscription? id = none) (bare : ∀ stored ∈ database.subscriptions, stored.tenantId ≠ row.tenantId)
    (fresh : ∀ stored ∈ database.subscriptions, stored.id ≠ row.id) : database.subscriptions.Fits row := by
  intro stored member clash
  rcases clash with same | same | ⟨_, same⟩
  · exact fresh stored member same
  · exact bare stored member same
  · exact List.find?_eq_none.mp absent stored member (beq_iff_eq.mpr (same.trans identified))

theorem processed_of_buildable (about : data.About id tenantId) (absent : database.subscription? id = none)
    (stored : database.hasTenant tenantId = true) (plans : ∀ planId, database.hasPlan planId = true)
    (bare : ∀ row ∈ database.subscriptions, row.tenantId ≠ tenantId)
    (fresh : ∀ row ∈ database.subscriptions, row.id ≠ env.uuid4 env.attempt .subscription)
    (buildable : data.Buildable) : ∃ after, data.process? env database = some after := by
  rcases absent_process? about absent with ⟨subscription, rfl⟩ | unchanged
  · obtain ⟨rfl, named⟩ := about
    obtain ⟨_, built⟩ := (built_ok named).mpr buildable
    obtain ⟨new, rfl, own, owner, identified⟩ := built_row named built
    have fits := fits_new identified absent (owner ▸ bare) (own ▸ fresh)
    refine ⟨_, process?_eq_some.mpr ⟨.create new, ?_, toOption_eq_some.mpr (insertSubscription_ok.mpr
      ⟨owner ▸ stored, plans _, fits, rfl⟩)⟩⟩
    rw [EventData.change?, StripeSubscription.created?, absent]
    exact Option.bind_eq_some_iff.mpr ⟨_, toOption_eq_some.mpr built, rfl⟩
  · exact ⟨_, unchanged⟩

theorem named_hasTenant {session : CheckoutSession} (named : session.named? database = some (some tenantId)) :
    database.hasTenant tenantId = true := by
  rw [CheckoutSession.named?, Option.map_eq_some_iff] at named
  obtain ⟨text, _, parsed⟩ := named
  obtain ⟨_, stored⟩ := Option.filter_eq_some_iff.mp parsed
  obtain ⟨tenant, stored⟩ := Option.isSome_iff_exists.mp stored
  exact List.any_eq_true.mpr ⟨tenant, Table.find?_mem stored⟩

theorem named_grows {session : CheckoutSession} (grows : Grows database after)
    (named : session.named? database = some (some tenantId)) : session.named? after = some (some tenantId) := by
  rw [CheckoutSession.named?, Option.map_eq_some_iff] at named ⊢
  obtain ⟨text, read, parsed⟩ := named
  obtain ⟨parsed, stored⟩ := Option.filter_eq_some_iff.mp parsed
  refine ⟨text, read, Option.filter_eq_some_iff.mpr ⟨parsed, ?_⟩⟩
  obtain ⟨tenant, stored⟩ := Option.isSome_iff_exists.mp stored
  obtain ⟨member, own⟩ := Table.find?_mem stored
  exact List.find?_isSome.mpr ⟨tenant, grows.tenants tenant member, own⟩

theorem named_process? {session : CheckoutSession} (named : session.named? database = some (some tenantId))
    (has : session.HasGet) (subscription : session.subscription = some id) :
    (EventData.checkoutCompleted session).process? env database =
      (database.upsertSubscription (session.row env tenantId)).toOption := by
  have single : ¬ session.Ambiguous database := by
    rw [CheckoutSession.Ambiguous, subscription, subscriptionsOf_eq]
    cases database.subscription? id <;> simp
  rw [EventData.process?, EventData.change?, CheckoutSession.change?, if_neg (not_not_intro has), named]
  simp only [if_neg single, Option.bind_some]
  rfl

theorem lacking_process? {session : CheckoutSession} (lacks : ¬ session.HasGet) :
    (EventData.checkoutCompleted session).process? env database = none := by
  rw [EventData.process?, EventData.change?, CheckoutSession.change?, if_pos lacks]
  rfl

theorem named_processed {session : CheckoutSession} (named : session.named? database = some (some tenantId))
    (has : session.HasGet) (subscription : session.subscription = some id) (plans : ∀ planId, database.hasPlan planId = true)
    (room : database.subscription? id = none → (∀ row ∈ database.subscriptions, row.tenantId ≠ tenantId) ∧
      ∀ row ∈ database.subscriptions, row.id ≠ env.uuid4 env.attempt .subscription) :
    ∃ after, (EventData.checkoutCompleted session).process? env database = some after := by
  simp only [named_process? named has subscription, toOption_eq_some]
  have identified : (session.row env tenantId).stripeSubscriptionId = some id := subscription
  cases found : database.subscription? id with
  | some stored => exact ⟨_, (upsertSubscription_stored identified found).mpr ⟨plans _, rfl⟩⟩
  | none =>
    obtain ⟨bare, fresh⟩ := room found
    rw [upsertSubscription_new fun own same => Option.some.inj (identified.symm.trans same) ▸ found]
    exact ⟨_, insertSubscription_ok.mpr ⟨named_hasTenant named, plans _, fits_new identified found bare fresh, rfl⟩⟩

end MeteringBilling
