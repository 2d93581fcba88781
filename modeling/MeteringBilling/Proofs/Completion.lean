import MeteringBilling.Library.Progress
import MeteringBilling.Proofs.ConcurrentInvariant
import MeteringBilling.Proofs.WebhookSteps
import MeteringBilling.Seed

/-! Metering requests and deliveries in flight come to an end. Whoever waits for a row waits for one who
can go on, and a request takes six steps at most, a delivery four. -/

namespace MeteringBilling.Completion

variable {ι : Type} [DecidableEq ι]

section Requests

variable {incoming : ι → Incoming} {world next : World ι} {action : Action ι}

/-- How many steps a request has at most before it. -/
def remaining : Phase → Nat
  | .arrived => 6
  | .missed => 5
  | .admitted _ _ => 4
  | .conflicted _ => 3
  | .recorded _ _ _ => 2
  | .answered _ _ _ => 1
  | .finished _ => 0

def Serving : Action ι → Prop
  | .lookup _ | .check _ | .insert _ | .select _ | .respond _ | .commit _ => True
  | _ => False

def party? : Action ι → Option ι
  | .lookup request | .check request | .insert request | .select request | .respond request | .commit request
  | .abort request => some request
  | .evict _ | .reconfigure _ _ _ => none

def Finished (world : World ι) : Prop := ∀ request, ∃ reply, world.phase request = .finished reply

theorem aborted_remaining {phase : Phase} {reply : Except PyError MeterResponse} (unfinished : phase.aborted = some reply) :
    0 < remaining phase := by
  cases phase with
  | finished reply => cases unfinished
  | _ => simp [remaining]

theorem become_remaining {request : ι} {phase : Phase} (lower : remaining phase < remaining (world.phase request))
    (other : ι) :
    remaining ((world.become request phase).phase other) + (if some request = some other then 1 else 0) ≤
      remaining (world.phase other) := by
  simp only [Option.some.injEq]
  exact update_rank_le lower other

/-- Every step of a request brings it nearer to its end, and no other further from it. -/
theorem moves_remaining (moves : Moves incoming action world next) (other : ι) :
    remaining (next.phase other) + (if party? action = some other then 1 else 0) ≤ remaining (world.phase other) := by
  cases moves with
  | hit phase | missed phase | admitted phase _ | refused phase _ | inserted phase _ _ _ _ | conflicted phase _
    | rejected phase _ | found phase _ | lost phase _ | returned phase =>
    exact become_remaining (by simp [phase, remaining]) other
  | @responded _ request event info fresh answered phase reached =>
    subst reached
    exact @become_remaining _ _ world request (.answered (responseOf incoming request event info) event fresh)
      (by simp [phase, remaining]) other
  | @committed _ request response event finished phase fits reached =>
    subst reached
    exact @become_remaining _ _ world request (.finished (.ok response)) (by simp [phase, remaining]) other
  | @aborted _ request reply unfinished =>
    exact @become_remaining _ _ world request (.finished reply) (aborted_remaining unfinished) other
  | evicted | reconfigured => exact le_refl _

variable [Fintype ι]

theorem holding_steps (consistent : Consistent incoming world) {request : ι} {event : UsageEvent}
    (holds : event ∈ (world.phase request).pending) :
    ∃ action party, Serving action ∧ party? action = some party ∧
      ((concurrent incoming).step action world).isSome = true := by
  cases phase : world.phase request with
  | recorded row info fresh =>
    exact ⟨.respond request, request, trivial, rfl, by simp only [concurrent, phase, Option.isSome_some]⟩
  | answered response row fresh =>
    cases fresh with
    | false => exact ⟨.commit request, request, trivial, rfl, by simp only [concurrent, phase, Option.isSome_some]⟩
    | true =>
      have fits := consistent.fits request row (by rw [phase]; rfl)
      refine ⟨.commit request, request, trivial, rfl, ?_⟩
      simp only [concurrent, phase, Table.insert?, dif_pos fits, Option.map_some, Option.isSome_some]
  | _ =>
    rw [phase] at holds
    cases holds

theorem idle_steps (idle : ∀ request, (world.phase request).pending = none) {request : ι}
    (unfinished : ¬ ∃ reply, world.phase request = .finished reply) :
    ∃ action party, Serving action ∧ party? action = some party ∧
      ((concurrent incoming).step action world).isSome = true := by
  cases phase : world.phase request with
  | arrived =>
    exact ⟨.lookup request, request, trivial, rfl, by simp only [concurrent, phase, Option.isSome_some]⟩
  | missed =>
    exact ⟨.check request, request, trivial, rfl, by simp only [concurrent, phase, Option.isSome_some]⟩
  | admitted info cost =>
    have unblocked : Unblocked request (rowOf incoming request cost) world := by
      intro other _ held member
      rw [idle other] at member
      cases member
    exact ⟨.insert request, request, trivial, rfl, by simp only [concurrent, phase, if_pos unblocked, Option.isSome_some]⟩
  | conflicted info =>
    exact ⟨.select request, request, trivial, rfl, by simp only [concurrent, phase, Option.isSome_some]⟩
  | recorded row info fresh =>
    exact ⟨.respond request, request, trivial, rfl, by simp only [concurrent, phase, Option.isSome_some]⟩
  | answered response row fresh =>
    cases fresh with
    | false => exact ⟨.commit request, request, trivial, rfl, by simp only [concurrent, phase, Option.isSome_some]⟩
    | true =>
      have holds := idle request
      rw [phase] at holds
      cases holds
  | finished reply => exact (unfinished ⟨reply, phase⟩).elim

theorem unfinished_steps (consistent : Consistent incoming world) (unfinished : ¬ Finished world) :
    ∃ action next, Serving action ∧ (concurrent incoming).step action world = some next ∧
      ∑ request, remaining (next.phase request) < ∑ request, remaining (world.phase request) := by
  have goes : ∃ action request, Serving action ∧ party? action = some request ∧
      ((concurrent incoming).step action world).isSome = true := by
    by_cases idle : ∀ request, (world.phase request).pending = none
    · obtain ⟨request, going⟩ := not_forall.mp unfinished
      exact idle_steps idle going
    · obtain ⟨request, holding⟩ := not_forall.mp idle
      obtain ⟨event, holds⟩ := Option.ne_none_iff_exists'.mp holding
      exact holding_steps consistent holds
  obtain ⟨action, request, serving, own, enabled⟩ := goes
  obtain ⟨next, taken⟩ := Option.isSome_iff_exists.mp enabled
  have paid (other : ι) : remaining (next.phase other) + (if request = other then 1 else 0) ≤
      remaining (world.phase other) := by
    have moved := moves_remaining (step_moves taken) other
    simp only [own, Option.some.injEq] at moved
    exact moved
  exact ⟨action, next, serving, taken, sum_rank_lt paid⟩

/-- However metering requests interleave, fail and find their tables changed, each takes six steps at most, and from
everywhere all that are left can be finished by steps of their own: none waits in a circle. -/
theorem metering_completes {store : Store} {actions : List (Action ι)}
    (ran : (concurrent incoming).run actions ⟨store, fun _ => .arrived⟩ = some world) :
    (∀ request, actions.countP (fun action => decide (party? action = some request)) ≤ 6) ∧
    ∃ schedule final, (∀ action ∈ schedule, Serving action) ∧ (concurrent incoming).run schedule world = some final ∧
      Finished final := by
  constructor
  · intro request
    have lowers (action : Action ι) (world next : World ι) (taken : (concurrent incoming).step action world = some next) :
        remaining (next.phase request) + (if party? action = some request then 1 else 0) ≤ remaining (world.phase request) :=
      moves_remaining (step_moves taken) request
    have bound := @Machine.countP_le_rank _ _ _ _ _ _ (fun world => remaining (world.phase request)) _ _ lowers ran
    exact (Nat.le_add_right _ _).trans bound
  · have start : Consistent incoming ⟨store, fun _ => .arrived⟩ := Consistent.initial store rfl fun _ => trivial
    have consistent := consistent_invariant.run (fun _ _ => trivial) start ran
    have kept : (concurrent incoming).Invariant Serving (Consistent incoming) :=
      fun action world next _ => consistent_invariant action world next trivial
    exact Machine.finishes kept (fun _ holds unfinished => unfinished_steps holds unfinished) consistent

def sameKey (first : Bool) : Incoming := ⟨Seed.env (if first then 11 else 12), Seed.apiCall "key"⟩

/-- The second call waits for the row of the first. -/
def waiting : List (Action Bool) := [.lookup true, .lookup false, .check true, .check false, .insert true]

theorem waiting_completes : ∃ world,
    (concurrent sameKey).run waiting ⟨Seed.store, fun _ => .arrived⟩ = some world ∧
      (concurrent sameKey).step (.insert false) world = none ∧
      (∀ request, waiting.countP (fun action => decide (party? action = some request)) ≤ 6) ∧
      ∃ schedule final, (∀ action ∈ schedule, Serving action) ∧ (concurrent sameKey).run schedule world = some final ∧
        Finished final := by
  have blocked : ((concurrent sameKey).run waiting ⟨Seed.store, fun _ => .arrived⟩).map
      (fun world => ((concurrent sameKey).step (.insert false) world).isNone) = some true := by decide
  obtain ⟨world, ran, none⟩ := Option.map_eq_some_iff.mp blocked
  exact ⟨world, ran, Option.isNone_iff_eq_none.mp none, metering_completes ran⟩

end Requests

section Deliveries

variable {event : StripeEvent} {envs : ι → Env} {incoming : ι → Delivery} {site next : Site ι} {action : WebhookAction ι}

def left : Stage → Nat
  | .arrived => 4
  | .unprocessed => 3
  | .planned _ => 2
  | .written _ => 1
  | .finished _ => 0

def Delivering : WebhookAction ι → Prop
  | .fail _ => False
  | _ => True

def Answered (site : Site ι) : Prop := ∀ delivery, ∃ reply, site.stage delivery = .finished reply

theorem become_left {delivery : ι} {stage : Stage} (lower : left stage < left (site.stage delivery)) (other : ι) :
    left ((site.become delivery stage).stage other) + (if delivery = other then 1 else 0) ≤ left (site.stage other) :=
  update_rank_le lower other

omit [DecidableEq ι] in
theorem unfinished_left {delivery : ι} (unfinished : ∀ reply, site.stage delivery ≠ .finished reply) :
    0 < left (site.stage delivery) := by
  cases stage : site.stage delivery with
  | finished reply => exact (unfinished reply stage).elim
  | _ => exact Nat.zero_lt_succ _

/-- Every step of a delivery brings it nearer to its end, and no other further from it. -/
theorem advances_left (advances : Advances event envs site action next) (other : ι) :
    left (next.stage other) + (if action.delivery = other then 1 else 0) ≤ left (site.stage other) := by
  cases advances with
  | answered stage | cleared stage _ | planned stage | raised stage | refused stage | rejected stage _ =>
    exact become_left (by simp [stage, left]) other
  | @written delivery change redis stage =>
    exact @become_left _ _ site delivery (.written change) (by simp [stage, left]) other
  | @committed delivery change database stage _ =>
    exact @become_left _ _ site delivery (.finished (.ok .success)) (by simp [stage, left]) other
  | @failed delivery unfinished =>
    exact @become_left _ _ site delivery (.finished (.error webhookFailed)) (unfinished_left unfinished) other

variable [Fintype ι]

theorem delivery_left (taken : (concurrentDeliveries incoming).step action site = some next) (other : ι) :
    left (next.stage other) + (if action.delivery = other then 1 else 0) ≤ left (site.stage other) :=
  advances_left
    (@step_advances _ (incoming action.delivery).event (fun delivery => (incoming delivery).env) _ _ _ _ _ taken) other

theorem free_steps (free : ∀ other, (site.stage other).pending = none) {delivery : ι}
    (unfinished : ¬ ∃ reply, site.stage delivery = .finished reply) :
    ∃ action, Delivering action ∧ ((concurrentDeliveries incoming).step action site).isSome = true := by
  cases stage : site.stage delivery with
  | arrived =>
    refine ⟨.lookup delivery, trivial, ?_⟩
    simp only [concurrentDeliveries, concurrentWebhooks, stage, Option.isSome_some]
  | unprocessed =>
    refine ⟨.read delivery, trivial, ?_⟩
    simp only [concurrentDeliveries, concurrentWebhooks, stage, Option.isSome_some]
  | planned change =>
    have uncontended : Uncontended delivery change site := by
      intro other _ held member
      rw [free other] at member
      cases member
    refine ⟨.write delivery, trivial, ?_⟩
    simp only [concurrentDeliveries, concurrentWebhooks, stage, if_pos uncontended, Option.isSome_some]
  | written change =>
    have holds := free delivery
    rw [stage] at holds
    cases holds
  | finished reply => exact (unfinished ⟨reply, stage⟩).elim

theorem writer_steps {delivery : ι} {change : Change} (holds : (site.stage delivery).pending = some change) :
    ∃ action, Delivering action ∧ ((concurrentDeliveries incoming).step action site).isSome = true := by
  cases stage : site.stage delivery with
  | written own =>
    refine ⟨.mark delivery, trivial, ?_⟩
    simp only [concurrentDeliveries, concurrentWebhooks, stage, Option.isSome_some]
  | _ =>
    rw [stage] at holds
    cases holds

theorem unanswered_steps (unanswered : ¬ Answered site) :
    ∃ action next, Delivering action ∧ (concurrentDeliveries incoming).step action site = some next ∧
      ∑ delivery, left (next.stage delivery) < ∑ delivery, left (site.stage delivery) := by
  have goes : ∃ action, Delivering action ∧ ((concurrentDeliveries incoming).step action site).isSome = true := by
    by_cases free : ∀ delivery, (site.stage delivery).pending = none
    · obtain ⟨delivery, going⟩ := not_forall.mp unanswered
      exact free_steps free going
    · obtain ⟨delivery, holding⟩ := not_forall.mp free
      obtain ⟨change, holds⟩ := Option.ne_none_iff_exists'.mp holding
      exact writer_steps holds
  obtain ⟨action, delivering, enabled⟩ := goes
  obtain ⟨next, taken⟩ := Option.isSome_iff_exists.mp enabled
  exact ⟨action, next, delivering, taken, sum_rank_lt (delivery_left taken)⟩

/-- However deliveries interleave and fail, each takes four steps at most, and from everywhere all that are left can be
answered by steps of their own. -/
theorem deliveries_complete {store : Store} {actions : List (WebhookAction ι)}
    (ran : (concurrentDeliveries incoming).run actions ⟨store, fun _ => .arrived⟩ = some site) :
    (∀ delivery, actions.countP (fun action => decide (action.delivery = delivery)) ≤ 4) ∧
    ∃ schedule final, (∀ action ∈ schedule, Delivering action) ∧
      (concurrentDeliveries incoming).run schedule site = some final ∧ Answered final := by
  constructor
  · intro delivery
    have lowers (action : WebhookAction ι) (site next : Site ι)
        (taken : (concurrentDeliveries incoming).step action site = some next) :
        left (next.stage delivery) + (if action.delivery = delivery then 1 else 0) ≤ left (site.stage delivery) :=
      delivery_left taken delivery
    have bound := @Machine.countP_le_rank _ _ _ _ _ _ (fun site => left (site.stage delivery)) _ _ lowers ran
    exact (Nat.le_add_right _ _).trans bound
  · have kept : (concurrentDeliveries incoming).Invariant Delivering fun _ => True := fun _ _ _ _ _ _ => trivial
    exact Machine.finishes kept (fun _ _ unanswered => unanswered_steps unanswered) trivial

def failures (first : Bool) : Delivery where
  env := Seed.env (if first then 20 else 30)
  event := ⟨if first then "evt_1" else "evt_2",
    .paymentFailed { id := none, subscription := some (some "sub_1"), amountDue := none }, Seed.payload⟩

/-- The second waits for the row of the first. -/
def contending : List (WebhookAction Bool) := [.lookup true, .lookup false, .read true, .read false, .write true]

theorem contending_complete : ∃ site,
    (concurrentDeliveries failures).run contending ⟨Seed.paid, fun _ => .arrived⟩ = some site ∧
      (concurrentDeliveries failures).step (.write false) site = none ∧
      (∀ delivery, contending.countP (fun action => decide (action.delivery = delivery)) ≤ 4) ∧
      ∃ schedule final, (∀ action ∈ schedule, Delivering action) ∧
        (concurrentDeliveries failures).run schedule site = some final ∧ Answered final := by
  have blocked : ((concurrentDeliveries failures).run contending ⟨Seed.paid, fun _ => .arrived⟩).map
      (fun site => ((concurrentDeliveries failures).step (.write false) site).isNone) = some true := by decide
  obtain ⟨site, ran, none⟩ := Option.map_eq_some_iff.mp blocked
  exact ⟨site, ran, Option.isNone_iff_eq_none.mp none, deliveries_complete ran⟩

end Deliveries

end MeteringBilling.Completion
