import MeteringBilling.Proofs.Acceptance
import MeteringBilling.Seed

/-! A checkout and another event about its subscription, delivered in either order: when the
row ends alike. -/

namespace MeteringBilling.DeliveryOrder

/-- Events are delivered in turn, and one that is answered with an error is delivered again
after the others, until all are answered. -/
inductive Drains (envs : ℕ → Env) : ℕ → List StripeEvent → Store → Store → Prop
  | done {turn : ℕ} {store : Store} : Drains envs turn [] store store
  | acknowledged {turn : ℕ} {event : StripeEvent} {queue : List StripeEvent} {store last : Store} {status : WebhookStatus}
      (answered : (Delivery.mk (envs turn) event).reply store = .ok status)
      (rest : Drains envs (turn + 1) queue ((Delivery.mk (envs turn) event).after store) last) :
      Drains envs turn (event :: queue) store last
  | repeated {turn : ℕ} {event : StripeEvent} {queue : List StripeEvent} {store last : Store} {exc : PyError}
      (failed : (Delivery.mk (envs turn) event).reply store = .error exc)
      (rest : Drains envs (turn + 1) (queue ++ [event]) ((Delivery.mk (envs turn) event).after store) last) :
      Drains envs turn (event :: queue) store last

/-- A tenant without a row, the checkout that names it for a new subscription, and another
event about that subscription. -/
structure Arrival (store : Store) (session : CheckoutSession) (tenantId : UUID) (id : String)
    (checkout event : StripeEvent) : Prop where
  paid : checkout.data = .checkoutCompleted session
  named : session.named? store.database = some (some tenantId)
  subscription : session.subscription = some id
  about : event.data.About id tenantId
  absent : store.database.subscription? id = none
  bare : ∀ row ∈ store.database.subscriptions, row.tenantId ≠ tenantId
  plans : ∀ planId, store.database.hasPlan planId = true
  apart : checkout.id ≠ event.id
  checkoutNew : store.database.processedRows checkout.id = []
  eventNew : store.database.processedRows event.id = []

/-- Surroundings in which no statement fails and identifiers are new. -/
structure Calm (store : Store) (settings : Settings) (envs : ℕ → Env) : Prop where
  quiet : ∀ turn, (envs turn).Quiet
  configured : ∀ turn, (envs turn).settings = settings
  fresh : ∀ turn, ∀ row ∈ store.database.subscriptions, row.id ≠ (envs turn).uuid4 (envs turn).attempt .subscription

/-- The lookup in the checkout's metadata does not raise, and both payloads can be stored. -/
structure Deliverable (session : CheckoutSession) (checkout event : StripeEvent) : Prop where
  has : session.HasGet
  checkout : checkout.payload ≠ none
  event : event.payload ≠ none

/-- However statements fail, the two orders end with the same status and plan. -/
def Agree (store : Store) (settings : Settings) (id : String) (checkout event : StripeEvent) : Prop :=
  ∀ ahead behind first second, (∀ turn, (ahead turn).settings = settings) → (∀ turn, (behind turn).settings = settings) →
    Drains ahead 0 [checkout, event] store first → Drains behind 0 [event, checkout] store second →
    first.database.standing? id = second.database.standing? id

/-- The event leaves an active row on the plan as it is, or it is not accepted in one of the
orders. -/
def Indifferent (settings : Settings) (planId : PlanTier) : EventData → Prop
  | .paymentFailed _ => False
  | .subscriptionCreated subscription => subscription.Known → subscription.Readable → subscription.Cancelable →
    subscription.HasGet → SubscriptionStatus.ofValue? subscription.status = some .active
  | .subscriptionUpdated subscription => subscription.Known → subscription.Readable →
    SubscriptionStatus.ofValue? subscription.status = some .active ∧ subscription.updatedPlan settings planId = planId
  | .subscriptionDeleted subscription => ¬ subscription.Cancelable
  | _ => True

variable {store : Store} {session : CheckoutSession} {tenantId : UUID} {id : String} {checkout event : StripeEvent}
  {settings : Settings} {envs : ℕ → Env} {planId : PlanTier}

theorem indifferent_iff {data : EventData} (about : data.About id tenantId) : Indifferent settings planId data ↔
    (data.Buildable → data.Acceptable → data.turn settings (some ⟨.active, planId⟩) = some ⟨.active, planId⟩) := by
  cases data with
  | paymentSucceeded invoice => simp [Indifferent, EventData.turn]
  | paymentFailed invoice => simp [Indifferent, EventData.turn, EventData.Buildable, EventData.Acceptable]
  | subscriptionCreated subscription =>
    simp only [Indifferent, EventData.turn, EventData.Buildable, EventData.Acceptable]
    constructor
    · intro active buildable _
      obtain ⟨known, readable, cancelable, has⟩ := buildable
      rw [active known readable cancelable has]
      rfl
    · intro same known readable cancelable has
      obtain ⟨status, read⟩ := known
      simpa [read] using same ⟨⟨status, read⟩, readable, cancelable, has⟩ ⟨status, read⟩
  | subscriptionUpdated subscription =>
    simp only [Indifferent, EventData.turn, EventData.Buildable, EventData.Acceptable]
    constructor
    · intro active _ acceptable
      obtain ⟨known, readable⟩ := acceptable
      obtain ⟨read, plan⟩ := active known readable
      simp [read, plan]
    · intro same known readable
      obtain ⟨status, read⟩ := known
      simpa [read] using same trivial ⟨⟨status, read⟩, readable⟩
  | subscriptionDeleted subscription => simp [Indifferent, EventData.turn, EventData.Buildable, EventData.Acceptable]
  | checkoutCompleted _ | subscriptionTrialWillEnd _ | invoiceUpcoming _ | unhandled _ => exact about.elim

/-- What has been committed, and in which order. -/
inductive Phase (settings : Settings) (planId : PlanTier) (id : String) (checkout event : StripeEvent)
    (database : Database) : Prop
  | neither (checkoutNew : database.processedRows checkout.id = []) (eventNew : database.processedRows event.id = [])
      (standing : database.standing? id = none)
  | checkoutOnly (checkoutMarked : database.processedRows checkout.id ≠ [])
      (eventNew : database.processedRows event.id = []) (standing : database.standing? id = some ⟨.active, planId⟩)
  | eventOnly (checkoutNew : database.processedRows checkout.id = [])
      (eventMarked : database.processedRows event.id ≠ []) (buildable : event.data.Buildable)
  | checkoutLast (checkoutMarked : database.processedRows checkout.id ≠ [])
      (eventMarked : database.processedRows event.id ≠ []) (buildable : event.data.Buildable)
      (standing : database.standing? id = some ⟨.active, planId⟩)
  | eventLast (checkoutMarked : database.processedRows checkout.id ≠ [])
      (eventMarked : database.processedRows event.id ≠ []) (acceptable : event.data.Acceptable)
      (standing : database.standing? id = event.data.turn settings (some ⟨.active, planId⟩))

theorem checkout_target? {database : Database} (arrival : Arrival store session tenantId id checkout event)
    (grown : Grows store.database database) : checkout.data.target? database = some id := by
  rw [arrival.paid, EventData.target?, named_grows grown arrival.named]
  simp [arrival.subscription]

theorem accepted_of_standing {database : Database} {env : Env} {standing : Standing}
    (arrival : Arrival store session tenantId id checkout event) (grown : Grows store.database database)
    (stands : database.standing? id = some standing) :
    (∃ after, event.data.process? env database = some after) ↔ event.data.Acceptable := by
  obtain ⟨row, found, _⟩ := Option.map_eq_some_iff.mp stands
  apply accepted_iff arrival.about found
  intro planId
  rw [Database.hasPlan, grown.plans]
  exact arrival.plans planId

theorem phase_after {now : Store} {env : Env} {delivered : StripeEvent}
    (arrival : Arrival store session tenantId id checkout event) (configured : env.settings = settings)
    (grown : Grows store.database now.database) (which : delivered = checkout ∨ delivered = event)
    (phase : Phase settings (checkoutTier settings session) id checkout event now.database) :
    Phase settings (checkoutTier settings session) id checkout event
      ((Delivery.mk env delivered).after now).database := by
  rcases commits_cases ⟨env, delivered⟩ now with ⟨commits, applied⟩ | ⟨_, same⟩
  · have turned := delivered_standing? ⟨env, delivered⟩ now id
    have rows := applied?_processedRows applied
    obtain ⟨new, marked⟩ := commits
    rcases which with rfl | rfl
    · have other : ((Delivery.mk env delivered).after now).database.processedRows event.id =
          now.database.processedRows event.id := by simp [rows, arrival.apart]
      rw [if_pos ⟨⟨new, marked⟩, checkout_target? arrival grown⟩, arrival.paid, configured] at turned
      cases phase with
      | neither _ eventNew _ => exact .checkoutOnly marked (other.trans eventNew) turned
      | eventOnly _ eventMarked buildable => exact .checkoutLast marked (other ▸ eventMarked) buildable turned
      | checkoutOnly checkoutMarked | checkoutLast checkoutMarked | eventLast checkoutMarked =>
        exact absurd new checkoutMarked
    · have other : ((Delivery.mk env delivered).after now).database.processedRows checkout.id =
          now.database.processedRows checkout.id := by simp [rows, arrival.apart.symm]
      obtain ⟨written, processed, _⟩ := applied?_eq_some.mp applied
      rw [if_pos ⟨⟨new, marked⟩, about_target? arrival.about⟩, configured] at turned
      cases phase with
      | neither checkoutNew _ standing =>
        have absent : now.database.subscription? id = none := Option.map_eq_none_iff.mp standing
        exact .eventOnly (other.trans checkoutNew) marked (buildable_of_processed arrival.about absent processed)
      | checkoutOnly checkoutMarked _ standing =>
        rw [standing] at turned
        exact .eventLast (other ▸ checkoutMarked) marked
          ((accepted_of_standing arrival grown standing).mp ⟨written, processed⟩) turned
      | eventOnly _ eventMarked | checkoutLast _ eventMarked | eventLast _ eventMarked => exact absurd new eventMarked
  · rw [same]
    exact phase

/-- What is marked could be delivered. -/
structure Sound (session : CheckoutSession) (checkout event : StripeEvent) (database : Database) : Prop where
  checkout : database.processedRows checkout.id ≠ [] → session.HasGet ∧ checkout.payload ≠ none
  event : database.processedRows event.id ≠ [] → event.payload ≠ none

theorem sound_after {now : Store} {env : Env} {delivered : StripeEvent}
    (arrival : Arrival store session tenantId id checkout event) (which : delivered = checkout ∨ delivered = event)
    (sound : Sound session checkout event now.database) :
    Sound session checkout event ((Delivery.mk env delivered).after now).database := by
  rcases commits_cases ⟨env, delivered⟩ now with ⟨_, applied⟩ | ⟨_, same⟩
  · have rows := applied?_processedRows applied
    obtain ⟨written, processed, serialized, _⟩ := applied?_eq_some.mp applied
    rcases which with rfl | rfl
    · refine ⟨fun _ => ⟨?_, serialized⟩, fun marked => sound.event ?_⟩
      · by_contra lacks
        have refused := @lacking_process? env now.database session lacks
        rw [← arrival.paid, processed] at refused
        cases refused
      · simpa [rows, arrival.apart] using marked
    · refine ⟨fun marked => sound.checkout ?_, fun _ => serialized⟩
      simpa [rows, arrival.apart.symm] using marked
  · rw [same]
    exact sound

/-- A run under way: what has not been committed is still to be delivered. -/
structure Course (store : Store) (settings : Settings) (session : CheckoutSession) (id : String)
    (checkout event : StripeEvent) (queue : List StripeEvent) (now : Store) : Prop where
  grown : Grows store.database now.database
  phase : Phase settings (checkoutTier settings session) id checkout event now.database
  sound : Sound session checkout event now.database
  known : ∀ delivered ∈ queue, delivered = checkout ∨ delivered = event
  waiting : ∀ delivered, delivered = checkout ∨ delivered = event →
    now.database.processedRows delivered.id ≠ [] ∨ delivered ∈ queue

/-- Whatever fails, a run that ends has committed both events, one after the other. -/
theorem drained {now last : Store} {turn : ℕ} {queue : List StripeEvent}
    (arrival : Arrival store session tenantId id checkout event) (configured : ∀ turn, (envs turn).settings = settings)
    (drains : Drains envs turn queue now last)
    (course : Course store settings session id checkout event queue now) :
    Course store settings session id checkout event [] last := by
  induction drains with
  | done => exact course
  | @acknowledged turn delivered queue now last status answered rest ih =>
    obtain ⟨grown, phase, sound, known, waiting⟩ := course
    have which := known delivered (List.mem_cons_self ..)
    refine ih ⟨grown.trans (delivered_grows _ _), phase_after arrival (configured turn) grown which phase,
      sound_after arrival which sound, fun other member => known other (List.mem_cons_of_mem _ member), fun other one => ?_⟩
    rcases waiting other one with marked | member
    · exact Or.inl fun unmarked => marked (marked_after unmarked)
    · rcases List.mem_cons.mp member with rfl | later
      · exact Or.inl (marked_of_answered answered)
      · exact Or.inr later
  | @repeated turn delivered queue now last exc failed rest ih =>
    obtain ⟨grown, phase, sound, known, waiting⟩ := course
    have which := known delivered (List.mem_cons_self ..)
    refine ih ⟨grown.trans (delivered_grows _ _), phase_after arrival (configured turn) grown which phase,
      sound_after arrival which sound, fun other member => ?_, fun other one => ?_⟩
    · rcases List.mem_append.mp member with inside | same
      · exact known other (List.mem_cons_of_mem _ inside)
      · exact List.mem_singleton.mp same ▸ which
    · rcases waiting other one with marked | member
      · exact Or.inl fun unmarked => marked (marked_after unmarked)
      · exact Or.inr (by simpa [or_comm] using member)

theorem starts (arrival : Arrival store session tenantId id checkout event) {queue : List StripeEvent}
    (both : ∀ delivered, delivered ∈ queue ↔ delivered = checkout ∨ delivered = event) :
    Course store settings session id checkout event queue store where
  grown := .refl _
  phase := .neither arrival.checkoutNew arrival.eventNew (by rw [Database.standing?, arrival.absent]; rfl)
  sound := ⟨fun marked => (marked arrival.checkoutNew).elim, fun marked => (marked arrival.eventNew).elim⟩
  known delivered := (both delivered).mp
  waiting delivered one := Or.inr ((both delivered).mpr one)

theorem ended {last : Store} (course : Course store settings session id checkout event [] last) :
    Deliverable session checkout event ∧
      (event.data.Buildable ∧ last.database.standing? id = some ⟨.active, checkoutTier settings session⟩ ∨
        event.data.Acceptable ∧
          last.database.standing? id = event.data.turn settings (some ⟨.active, checkoutTier settings session⟩)) := by
  obtain ⟨_, phase, sound, _, waiting⟩ := course
  have checkoutMarked := (waiting checkout (Or.inl rfl)).resolve_right (List.not_mem_nil)
  have eventMarked := (waiting event (Or.inr rfl)).resolve_right (List.not_mem_nil)
  obtain ⟨has, serialized⟩ := sound.checkout checkoutMarked
  refine ⟨⟨has, serialized, sound.event eventMarked⟩, ?_⟩
  cases phase with
  | neither checkoutNew | eventOnly checkoutNew => exact absurd checkoutNew checkoutMarked
  | checkoutOnly _ eventNew => exact absurd eventNew eventMarked
  | checkoutLast _ _ buildable standing => exact Or.inl ⟨buildable, standing⟩
  | eventLast _ _ acceptable standing => exact Or.inr ⟨acceptable, standing⟩

theorem agree_of_indifferent (arrival : Arrival store session tenantId id checkout event)
    (indifferent : Deliverable session checkout event → Indifferent settings (checkoutTier settings session) event.data) :
    Agree store settings id checkout event := by
  intro ahead behind first second configured configured' drains drains'
  obtain ⟨deliverable, one⟩ := ended (drained arrival configured drains (starts arrival (by simp)))
  obtain ⟨_, two⟩ := ended (drained arrival configured' drains' (starts arrival (by simp [or_comm])))
  have neutral := (indifferent_iff arrival.about).mp (indifferent deliverable)
  rcases one with ⟨buildable, standing⟩ | ⟨acceptable, standing⟩
  · rcases two with ⟨_, other⟩ | ⟨acceptable, other⟩
    · rw [standing, other]
    · rw [standing, other, neutral buildable acceptable]
  · rcases two with ⟨buildable, other⟩ | ⟨_, other⟩
    · rw [standing, other, neutral buildable acceptable]
    · rw [standing, other]

theorem commits_calm {env : Env} {delivered : StripeEvent} {now : Store} (quiet : env.Quiet)
    (new : now.database.processedRows delivered.id = []) (serialized : delivered.payload ≠ none)
    (target : delivered.data.target? now.database = some id)
    (processed : ∃ after, delivered.data.process? env now.database = some after) :
    (Delivery.mk env delivered).reply now = .ok .success ∧
      delivered.applied? env now.database = some ((Delivery.mk env delivered).after now).database ∧
      ((Delivery.mk env delivered).after now).database.standing? id =
        delivered.data.turn env.settings (now.database.standing? id) ∧
      ∀ other, delivered.id ≠ other → ((Delivery.mk env delivered).after now).database.processedRows other =
        now.database.processedRows other := by
  obtain ⟨_, processed⟩ := processed
  obtain ⟨_, applied⟩ := applied?_unprocessed new serialized processed
  obtain ⟨answered, final⟩ := @delivered_first now ⟨env, delivered⟩ quiet new _ applied
  rw [← final] at applied
  have turned := delivered_standing? ⟨env, delivered⟩ now id
  rw [if_pos ⟨commits_of_success answered, target⟩] at turned
  exact ⟨answered, applied, turned, fun other apart => by simp [applied?_processedRows applied, apart]⟩

theorem refused_calm {env : Env} {delivered : StripeEvent} {now : Store} (quiet : env.Quiet)
    (new : now.database.processedRows delivered.id = [])
    (refused : ∀ after, delivered.data.process? env now.database ≠ some after) :
    (Delivery.mk env delivered).reply now = .error webhookFailed ∧
      ((Delivery.mk env delivered).after now).database = now.database := by
  have unapplied : delivered.applied? env now.database = none := by
    apply Option.eq_none_iff_forall_ne_some.mpr
    intro after applied
    obtain ⟨written, processed, _⟩ := applied?_eq_some.mp applied
    exact refused written processed
  have answered := @reply_first now ⟨env, delivered⟩ quiet new
  rw [unapplied] at answered
  exact ⟨answered, @delivered_unchanged now ⟨env, delivered⟩ fun _ => unapplied⟩

/-- An event that the tables refuse is delivered again and again. -/
theorem refused_forever {database : Database} {delivered : StripeEvent} (quiet : ∀ turn, (envs turn).Quiet)
    (new : database.processedRows delivered.id = [])
    (refused : ∀ turn after, delivered.data.process? (envs turn) database ≠ some after) {turn : ℕ} {now last : Store}
    (same : now.database = database) : ¬ Drains envs turn [delivered] now last := by
  intro drains
  generalize waiting : [delivered] = queue at drains
  induction drains with
  | done => cases waiting
  | @acknowledged turn _ _ now _ _ answered =>
    obtain ⟨rfl, rfl⟩ := List.cons.inj waiting
    subst same
    rw [(refused_calm (quiet turn) new (refused turn)).1] at answered
    cases answered
  | @repeated turn _ _ now _ _ _ _ ih =>
    obtain ⟨rfl, rfl⟩ := List.cons.inj waiting
    subst same
    exact ih (refused_calm (quiet turn) new (refused turn)).2 rfl

theorem checkout_first (turn : ℕ) {now : Store} (arrival : Arrival store session tenantId id checkout event)
    (deliverable : Deliverable session checkout event) (calm : Calm store settings envs) (same : now.database = store.database) :
    (Delivery.mk (envs turn) checkout).reply now = .ok .success ∧
      ((Delivery.mk (envs turn) checkout).after now).database.standing? id =
        some ⟨.active, checkoutTier settings session⟩ ∧
      ((Delivery.mk (envs turn) checkout).after now).database.processedRows event.id = [] ∧
      Grows store.database ((Delivery.mk (envs turn) checkout).after now).database := by
  have processed : ∃ after, checkout.data.process? (envs turn) now.database = some after := by
    rw [arrival.paid, same]
    exact named_processed arrival.named deliverable.has arrival.subscription arrival.plans fun _ => ⟨arrival.bare, calm.fresh turn⟩
  have new : now.database.processedRows checkout.id = [] := same ▸ arrival.checkoutNew
  obtain ⟨answered, _, standing, others⟩ :=
    commits_calm (calm.quiet turn) new deliverable.checkout (checkout_target? arrival (same ▸ .refl _)) processed
  rw [arrival.paid, calm.configured] at standing
  exact ⟨answered, standing, (others _ arrival.apart).trans (same ▸ arrival.eventNew), same ▸ delivered_grows _ _⟩

theorem ahead_ends (turn : ℕ) {now : Store} (arrival : Arrival store session tenantId id checkout event)
    (deliverable : Deliverable session checkout event) (calm : Calm store settings envs) (same : now.database = store.database) (acceptable : event.data.Acceptable) :
    ∃ last, Drains envs turn [checkout, event] now last ∧ last.database.standing? id =
      event.data.turn settings (some ⟨.active, checkoutTier settings session⟩) := by
  obtain ⟨answered, standing, new, grown⟩ := checkout_first turn arrival deliverable calm same
  obtain ⟨answeredEvent, _, turned, _⟩ := commits_calm (calm.quiet (turn + 1)) new deliverable.event
    (about_target? arrival.about) ((accepted_of_standing arrival grown standing).mpr acceptable)
  rw [standing, calm.configured] at turned
  exact ⟨_, .acknowledged answered (.acknowledged answeredEvent .done), turned⟩

theorem ahead_acceptable {last : Store} (arrival : Arrival store session tenantId id checkout event)
    (deliverable : Deliverable session checkout event) (calm : Calm store settings envs) (drains : Drains envs 0 [checkout, event] store last) :
    event.data.Acceptable := by
  by_contra unacceptable
  obtain ⟨answered, standing, new, grown⟩ := checkout_first 0 arrival deliverable calm rfl
  cases drains with
  | acknowledged _ rest =>
    refine refused_forever calm.quiet new (fun turn after processed => unacceptable ?_) rfl rest
    exact (accepted_of_standing arrival grown standing).mp ⟨after, processed⟩
  | repeated failed _ =>
    rw [answered] at failed
    cases failed

theorem without_row {env : Env} {after : Database} (arrival : Arrival store session tenantId id checkout event)
    (buildable : event.data.Buildable) (applied : event.applied? env store.database = some after)
    (turned : after.standing? id = event.data.turn env.settings (store.database.standing? id))
    (absent : after.subscription? id = none) : after.subscriptions = store.database.subscriptions := by
  rcases @absent_process? env _ _ _ _ arrival.about arrival.absent with ⟨subscription, created⟩ | unchanged
  · rw [created] at buildable turned
    obtain ⟨⟨status, known⟩, _⟩ := buildable
    simp [Database.standing?, absent, EventData.turn, known] at turned
  · obtain ⟨written, processed, _, _, rfl⟩ := applied?_eq_some.mp applied
    exact congrArg (·.subscriptions) (Option.some.inj (processed.symm.trans unchanged))

theorem behind_ends (arrival : Arrival store session tenantId id checkout event)
    (deliverable : Deliverable session checkout event) (calm : Calm store settings envs) (buildable : event.data.Buildable) :
    ∃ last, Drains envs 0 [event, checkout] store last ∧ last.database.standing? id = some ⟨.active, checkoutTier settings session⟩ := by
  obtain ⟨answered, applied, turned, others⟩ := commits_calm (calm.quiet 0) arrival.eventNew deliverable.event
    (about_target? arrival.about) (processed_of_buildable arrival.about arrival.absent (named_hasTenant arrival.named)
      arrival.plans arrival.bare (calm.fresh 0) buildable)
  have grown := delivered_grows ⟨envs 0, event⟩ store
  have new := (others _ arrival.apart.symm).trans arrival.checkoutNew
  have processed : ∃ after, checkout.data.process? (envs 1)
      ((Delivery.mk (envs 0) event).after store).database = some after := by
    rw [arrival.paid]
    refine named_processed (named_grows grown arrival.named) deliverable.has arrival.subscription (fun planId => ?_) fun absent => ?_
    · rw [Database.hasPlan, grown.plans]
      exact arrival.plans planId
    · rw [without_row arrival buildable applied turned absent]
      exact ⟨arrival.bare, calm.fresh 1⟩
  obtain ⟨answeredCheckout, _, standing, _⟩ :=
    commits_calm (calm.quiet 1) new deliverable.checkout (checkout_target? arrival grown) processed
  rw [arrival.paid, calm.configured] at standing
  exact ⟨_, .acknowledged answered (.acknowledged answeredCheckout .done), standing⟩

theorem behind_refused (arrival : Arrival store session tenantId id checkout event)
    (deliverable : Deliverable session checkout event) (calm : Calm store settings envs) (acceptable : event.data.Acceptable) (unbuildable : ¬ event.data.Buildable) :
    ∃ last, Drains envs 0 [event, checkout] store last := by
  obtain ⟨answered, same⟩ := refused_calm (calm.quiet 0) arrival.eventNew fun after processed =>
    unbuildable (buildable_of_processed arrival.about arrival.absent processed)
  obtain ⟨last, drains, _⟩ := ahead_ends 1 arrival deliverable calm same acceptable
  exact ⟨last, .repeated answered drains⟩

/-- Both orders end exactly for events that can be delivered and that the row accepts, and they
end alike exactly for an event that does not move the row, or is refused in one of them. -/
theorem order_agrees_iff (arrival : Arrival store session tenantId id checkout event)
    (calm : Calm store settings envs) :
    ((∃ first, Drains envs 0 [checkout, event] store first) ∧ (∃ second, Drains envs 0 [event, checkout] store second) ↔
      Deliverable session checkout event ∧ event.data.Acceptable) ∧
    (Agree store settings id checkout event ↔
      (Deliverable session checkout event → Indifferent settings (checkoutTier settings session) event.data)) := by
  refine ⟨⟨fun ⟨⟨_, drains⟩, _⟩ => ?_, fun ⟨deliverable, acceptable⟩ => ⟨?_, ?_⟩⟩, fun agree deliverable =>
    (indifferent_iff arrival.about).mpr fun buildable acceptable => ?_, agree_of_indifferent arrival⟩
  · have deliverable := (ended (drained arrival calm.configured drains (starts arrival (by simp)))).1
    exact ⟨deliverable, ahead_acceptable arrival deliverable calm drains⟩
  · obtain ⟨first, drains, _⟩ := ahead_ends 0 arrival deliverable calm rfl acceptable
    exact ⟨first, drains⟩
  · by_cases buildable : event.data.Buildable
    · obtain ⟨second, drains, _⟩ := behind_ends arrival deliverable calm buildable
      exact ⟨second, drains⟩
    · exact behind_refused arrival deliverable calm acceptable buildable
  · obtain ⟨first, drains, standing⟩ := ahead_ends 0 arrival deliverable calm rfl acceptable
    obtain ⟨second, drainsBehind, other⟩ := behind_ends arrival deliverable calm buildable
    rw [← standing, ← other]
    exact agree envs envs first second calm.configured calm.configured drains drainsBehind

def unsubscribed : Store := ⟨{ Seed.database with subscriptions := .empty }, fun _ => none⟩

def payment : CheckoutSession where
  metadata := some ⟨some Seed.tenant.id.str, true⟩
  customer := some "cus_1"
  subscription := some "sub_1"
  displayItems := some [⟨some "price_..."⟩]

def paid : StripeEvent := ⟨"evt_1", .checkoutCompleted payment, Seed.payload⟩

def unpaid : StripeEvent :=
  ⟨"evt_2", .paymentFailed ⟨some "in_1", some (some "sub_1"), some 2900⟩, Seed.payload⟩

def turns (turn : ℕ) : Env := Seed.env (turn + 50)

theorem unpaid_arrival : Arrival unsubscribed payment Seed.tenant.id "sub_1" paid unpaid where
  paid := rfl
  named := by decide
  subscription := rfl
  about := rfl
  absent := rfl
  bare := by decide
  plans planId := by cases planId <;> decide
  apart := by decide
  checkoutNew := rfl
  eventNew := rfl

theorem turns_calm : Calm unsubscribed {} turns where
  quiet turn := Seed.env_quiet (turn + 50)
  configured _ := rfl
  fresh _ _ member := absurd member (List.not_mem_nil)

def afterBoth (first second : StripeEvent) : Store :=
  Delivery.after ⟨turns 1, second⟩ (Delivery.after ⟨turns 0, first⟩ unsubscribed)

theorem drains_both {first second : StripeEvent}
    (one : Delivery.reply ⟨turns 0, first⟩ unsubscribed = .ok .success)
    (two : Delivery.reply ⟨turns 1, second⟩ (Delivery.after ⟨turns 0, first⟩ unsubscribed) = .ok .success) :
    Drains turns 0 [first, second] unsubscribed (afterBoth first second) :=
  .acknowledged one (.acknowledged two .done)

/-- Delivered before the checkout, the failed payment is answered and lost. -/
theorem failed_payment_lost : Arrival unsubscribed payment Seed.tenant.id "sub_1" paid unpaid ∧
    ∃ first second, Drains turns 0 [paid, unpaid] unsubscribed first ∧ Drains turns 0 [unpaid, paid] unsubscribed second ∧
      first.database.standing? "sub_1" = some ⟨.pastDue, .pro⟩ ∧
      second.database.standing? "sub_1" = some ⟨.active, .pro⟩ := by
  refine ⟨unpaid_arrival, afterBoth paid unpaid, afterBoth unpaid paid, ?_, ?_, ?_, ?_⟩
  · exact drains_both (by decide) (by decide)
  · exact drains_both (by decide) (by decide)
  · decide
  · decide

theorem failed_payment_disagrees :
    ((∃ first, Drains turns 0 [paid, unpaid] unsubscribed first) ∧
        (∃ second, Drains turns 0 [unpaid, paid] unsubscribed second) ↔
      Deliverable payment paid unpaid ∧ unpaid.data.Acceptable) ∧
    (Agree unsubscribed {} "sub_1" paid unpaid ↔
      (Deliverable payment paid unpaid → Indifferent {} (checkoutTier {} payment) unpaid.data)) :=
  order_agrees_iff unpaid_arrival turns_calm

end MeteringBilling.DeliveryOrder
