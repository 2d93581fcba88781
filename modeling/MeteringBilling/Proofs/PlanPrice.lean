import MeteringBilling.Proofs.Standings
import MeteringBilling.Seed

/-! When the plan of a row follows the price that was named last. The run carries that price
along, which no table stores. -/

namespace MeteringBilling.PlanPrice

/-- The price an event names for a subscription. -/
def namedPrice? (id : String) : EventData → Option String
  | .checkoutCompleted session => if session.subscription = some id then displayPrice session else none
  | .subscriptionCreated subscription | .subscriptionUpdated subscription =>
    if subscription.id = id then subscription.price? else none
  | _ => none
where
  displayPrice (session : CheckoutSession) : Option String := session.displayItems.bind fun items =>
    items.head?.bind DisplayItem.priceId

/-- The stores, and the price named last among the events that were committed. -/
structure Traced where
  store : Store
  price? : Option String

def Traced.after (traced : Traced) (id : String) (delivery : Delivery) : Traced where
  store := delivery.after traced.store
  price? := if delivery.Commits traced.store then (namedPrice? id delivery.event.data).or traced.price?
    else traced.price?

def pricing (id : String) : Machine Delivery Traced where
  step delivery traced := some (traced.after id delivery)

/-- The row is on the Pro plan exactly if that price is Pro's. -/
def Matches (settings : Settings) (price? : Option String) (row : Subscription) : Prop :=
  row.planId = .pro ↔ price? = some settings.stripePriceIdPro

def Follows (settings : Settings) (id : String) (traced : Traced) : Prop :=
  ∀ row ∈ traced.store.database.subscriptions, row.stripeSubscriptionId = some id →
    Matches settings traced.price? row

/-- An event that names no price leaves the plan of a stored row. -/
def Steady (id : String) (delivery : Delivery) (traced : Traced) : Prop :=
  namedPrice? id delivery.event.data = none → ∀ before after,
    traced.store.database.standing? id = some before →
    (delivery.after traced.store).database.standing? id = some after → after.planId = before.planId

/-- An event that makes a row free without being told a price: a checkout that is heeded, or
the creation of a new row. -/
def Defaults (id : String) (database : Database) : EventData → Prop
  | .checkoutCompleted session => (EventData.checkoutCompleted session).target? database = some id
  | .subscriptionCreated subscription => subscription.id = id ∧ database.subscription? id = none
  | _ => False

/-- An event that leaves the plan of a row as it is: a checkout that is ignored, the creation of
a subscription that has a row, or an update whose price is the name of the row's tier. -/
def Skips (id : String) (database : Database) (row : Subscription) : EventData → Prop
  | .checkoutCompleted session => (EventData.checkoutCompleted session).target? database ≠ some id
  | .subscriptionCreated _ => True
  | .subscriptionUpdated subscription => subscription.price? = some row.planId.value
  | _ => False

/-- The event does not default against the price named last, and skips no price that would
change the plan. -/
def Asked (settings : Settings) (id : String) (database : Database) (price? : Option String) (data : EventData) : Prop :=
  match namedPrice? id data with
  | none => Defaults id database data → price? ≠ some settings.stripePriceIdPro
  | some price => ∀ row, database.subscription? id = some row →
    Skips id database row data → Matches settings (some price) row

/-- So does the event of a delivery, if it commits. -/
def Told (settings : Settings) (id : String) (delivery : Delivery) (traced : Traced) : Prop :=
  delivery.Commits traced.store → Asked settings id traced.store.database traced.price? delivery.event.data

variable {settings : Settings} {id : String} {delivery : Delivery} {traced : Traced}

def Suits (settings : Settings) (price? : Option String) : Option Standing → Prop
  | none => True
  | some standing => standing.planId = .pro ↔ price? = some settings.stripePriceIdPro

theorem follows_iff : Follows settings id traced ↔
    Suits settings traced.price? (traced.store.database.standing? id) := by
  cases stands : traced.store.database.standing? id with
  | none =>
    refine iff_of_true (fun row member named => ?_) trivial
    have present := standing?_eq_some.mpr ⟨row, member, named, rfl⟩
    rw [stands] at present
    cases present
  | some standing =>
    obtain ⟨row, member, named, rfl⟩ := standing?_eq_some.mp stands
    constructor
    · exact fun follows => follows row member named
    · intro suits other inside same
      have present := standing?_eq_some.mpr ⟨other, inside, same, rfl⟩
      rw [stands] at present
      rw [Option.some.inj present] at suits
      exact suits

theorem planTier_eq_pro {price? : Option String} :
    planTier settings price? = .pro ↔ price? = some settings.stripePriceIdPro := by
  unfold planTier
  split <;> simp_all

theorem checkoutTier_eq (session : CheckoutSession) :
    checkoutTier settings session = planTier settings (namedPrice?.displayPrice session) := by
  unfold checkoutTier namedPrice?.displayPrice
  cases session.displayItems with
  | none => rfl
  | some items => cases items <;> rfl

theorem suits_status {price? : Option String} {before : Option Standing} (status : SubscriptionStatus) :
    Suits settings price? (before.map fun standing => { standing with status }) ↔ Suits settings price? before := by
  cases before <;> rfl

theorem asked_checkout {database : Database} {session : CheckoutSession} {price? : Option String}
    (suits : Suits settings price? (database.standing? id)) :
    Suits settings ((namedPrice? id (.checkoutCompleted session)).or price?)
        (if (EventData.checkoutCompleted session).target? database = some id then
          (EventData.checkoutCompleted session).turn settings (database.standing? id) else database.standing? id) ↔
      Asked settings id database price? (.checkoutCompleted session) := by
  by_cases heeded : (EventData.checkoutCompleted session).target? database = some id
  · rw [if_pos heeded]
    have own : session.subscription = some id := by
      simp only [EventData.target?] at heeded
      split at heeded
      · cases heeded
      · exact heeded
    simp only [EventData.turn, Suits, Asked, namedPrice?, own, if_true, checkoutTier_eq, planTier_eq_pro]
    cases namedPrice?.displayPrice session with
    | none => simp [Defaults, heeded]
    | some price => simp [Skips, heeded]
  · rw [if_neg heeded, Asked]
    cases named : namedPrice? id (.checkoutCompleted session) with
    | none => simpa [Defaults, heeded] using suits
    | some price =>
      rw [Database.standing?]
      cases database.subscription? id with
      | none => simp [Suits]
      | some row => simp [Suits, Skips, heeded, Matches, Subscription.standing]

theorem asked_created {database : Database} {subscription : StripeSubscription} {price? : Option String}
    {status : SubscriptionStatus} (known : SubscriptionStatus.ofValue? subscription.status = some status)
    (own : subscription.id = id) (suits : Suits settings price? (database.standing? id)) :
    Suits settings ((namedPrice? id (.subscriptionCreated subscription)).or price?)
        ((EventData.subscriptionCreated subscription).turn settings (database.standing? id)) ↔
      Asked settings id database price? (.subscriptionCreated subscription) := by
  subst own
  simp only [EventData.turn, known, Asked, namedPrice?, if_true, Database.standing?] at suits ⊢
  cases found : database.subscription? subscription.id with
  | none =>
    cases subscription.price? with
    | none => simp [Suits, Defaults, found, planTier_eq_pro]
    | some price => simp [Suits, planTier_eq_pro]
  | some row =>
    rw [found] at suits
    cases subscription.price? with
    | none => simpa [Suits, Defaults, found, Subscription.standing] using suits
    | some price => simp [Suits, Skips, Matches, Subscription.standing]

theorem asked_updated {database : Database} {subscription : StripeSubscription} {price? : Option String}
    (known : database.subscription? id ≠ none → ∃ status, SubscriptionStatus.ofValue? subscription.status = some status)
    (own : subscription.id = id) (suits : Suits settings price? (database.standing? id)) :
    Suits settings ((namedPrice? id (.subscriptionUpdated subscription)).or price?)
        ((EventData.subscriptionUpdated subscription).turn settings (database.standing? id)) ↔
      Asked settings id database price? (.subscriptionUpdated subscription) := by
  subst own
  simp only [EventData.turn, Asked, namedPrice?, if_true, Database.standing?] at suits ⊢
  cases found : database.subscription? subscription.id with
  | none => cases subscription.price? <;> simp [Suits, Defaults]
  | some row =>
    obtain ⟨status, read⟩ := known (by rw [found]; exact Option.some_ne_none row)
    rw [found] at suits
    simp only [Option.map_some, read, StripeSubscription.updatedPlan, Subscription.standing] at suits ⊢
    cases priced : subscription.price? with
    | none => simpa [Suits, Defaults] using suits
    | some price =>
      by_cases skipped : price = row.planId.value
      · simp [Suits, Skips, Matches, priced, skipped]
      · simp [Suits, Skips, priced, skipped, planTier_eq_pro]

theorem asked_iff {database after : Database} {data : EventData} {env : Env} {price? : Option String}
    (configured : env.settings = settings) (processed : data.process? env database = some after)
    (suits : Suits settings price? (database.standing? id)) :
    Suits settings ((namedPrice? id data).or price?) (after.standing? id) ↔ Asked settings id database price? data := by
  rw [processed_standing? processed id, configured]
  cases data with
  | checkoutCompleted session => exact asked_checkout suits
  | subscriptionCreated subscription =>
    obtain ⟨status, known⟩ := created_known processed
    by_cases own : (EventData.subscriptionCreated subscription).target? database = some id
    · rw [if_pos own]
      exact asked_created known (Option.some.inj own) suits
    · have apart : subscription.id ≠ id := fun same => own (congrArg some same)
      rw [if_neg own]
      simpa [Asked, namedPrice?, apart, Defaults] using suits
  | subscriptionUpdated subscription =>
    by_cases own : (EventData.subscriptionUpdated subscription).target? database = some id
    · obtain rfl := Option.some.inj own
      rw [if_pos own]
      refine asked_updated (fun present => ?_) rfl suits
      obtain ⟨row, found⟩ := Option.ne_none_iff_exists'.mp present
      exact updated_known found processed
    · have apart : subscription.id ≠ id := fun same => own (congrArg some same)
      rw [if_neg own]
      simpa [Asked, namedPrice?, apart, Defaults] using suits
  | paymentSucceeded invoice | paymentFailed invoice | subscriptionDeleted subscription =>
    refine iff_of_true ?_ fun defaults => defaults.elim
    split
    · exact (suits_status _).mpr suits
    · exact suits
  | subscriptionTrialWillEnd subscription | invoiceUpcoming invoice | unhandled type =>
    exact iff_of_true suits fun defaults => defaults.elim

theorem follows_after_iff (configured : delivery.env.settings = settings) (follows : Follows settings id traced) :
    Follows settings id (traced.after id delivery) ↔ Told settings id delivery traced := by
  rw [follows_iff] at follows ⊢
  by_cases commits : delivery.Commits traced.store
  · obtain ⟨written, processed, _⟩ := committed_processed commits
    have same : (delivery.after traced.store).database.standing? id = written.standing? id := by
      rw [delivered_standing?, processed_standing? processed]
      simp only [commits, true_and]
    rw [Traced.after, if_pos commits, Told, same]
    simp only [commits, true_implies]
    exact asked_iff configured processed follows
  · refine iff_of_true ?_ fun other => (commits other).elim
    rw [Traced.after, if_neg commits, delivered_standing?, if_neg fun both => commits both.1]
    exact follows

theorem steady_of_follows (before : Follows settings id traced) (after : Follows settings id (traced.after id delivery)) :
    Steady id delivery traced := by
  intro unnamed first second here there
  rw [follows_iff, here] at before
  rw [follows_iff] at after
  have same : (traced.after id delivery).price? = traced.price? := by
    rw [Traced.after]
    simp [unnamed]
  rw [same, show (traced.after id delivery).store = delivery.after traced.store from rfl, there] at after
  have alike : second.planId = .pro ↔ first.planId = .pro := after.trans before.symm
  cases plan : first.planId <;> cases other : second.planId <;> simp_all

/-- In every run, with faults and repetitions, from any state in which the plan follows. -/
theorem plan_follows_price_iff {schedule : List Delivery}
    (configured : ∀ delivery ∈ schedule, delivery.env.settings = settings) (start : Follows settings id traced) :
    (pricing id).Always (Follows settings id) schedule traced ∧ (pricing id).Each (Steady id) schedule traced ↔
      (pricing id).Each (Told settings id) schedule traced := by
  have unguarded : (pricing id).Invariant (fun delivery => delivery.env.settings = settings) fun _ => True :=
    fun _ _ _ _ _ _ => trivial
  have exactly : (pricing id).Always (Follows settings id) schedule traced ↔
      (pricing id).Each (Told settings id) schedule traced := by
    refine Machine.always_iff_each unguarded ?_ configured trivial start
    intro delivery traced _ configured _ follows taken
    cases taken
    exact follows_after_iff configured follows
  rw [← exactly]
  refine and_iff_left_of_imp fun always => Machine.Always.each always ?_
  intro delivery traced _ taken before after
  cases taken
  exact steady_of_follows before after

def created : Delivery where
  env := Seed.env 41
  event := ⟨"evt_1", .subscriptionCreated (Seed.stripeSubscription "active" [⟨some "price_..."⟩]), Seed.payload⟩

def unnamed : Traced := ⟨Seed.paid, none⟩

def lagging : Traced := unnamed.after "sub_1" created

theorem unnamed_follows : Follows {} "sub_1" unnamed := by
  rw [follows_iff, show unnamed.store.database.standing? "sub_1" = some ⟨.active, .free⟩ by decide]
  exact iff_of_false (by decide) (by decide)

/-- The created event finds the row and does not look at its price. -/
theorem plan_lags : Follows {} "sub_1" unnamed ∧ (pricing "sub_1").run [created] unnamed = some lagging ∧
    created.reply unnamed.store = .ok .success ∧ ¬ Follows {} "sub_1" lagging := by
  refine ⟨unnamed_follows, rfl, by decide, ?_⟩
  rw [follows_iff, show lagging.store.database.standing? "sub_1" = some ⟨.active, .free⟩ by decide]
  intro suits
  have named : lagging.price? = some "price_..." := by decide
  exact absurd (suits.mpr named) (by decide)

theorem plan_follows_price_created :
    (pricing "sub_1").Always (Follows {} "sub_1") [created] unnamed ∧
        (pricing "sub_1").Each (Steady "sub_1") [created] unnamed ↔
      (pricing "sub_1").Each (Told {} "sub_1") [created] unnamed :=
  plan_follows_price_iff (by simp [created, Seed.env]) unnamed_follows

end MeteringBilling.PlanPrice
