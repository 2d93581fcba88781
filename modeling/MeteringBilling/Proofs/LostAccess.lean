import MeteringBilling.Proofs.CachedReplies

/-! The end of a tenant's access. Without an active subscription nothing is recorded for a tenant, and what Redis still
answers for it comes to an end within a day. -/

namespace MeteringBilling.LostAccess

open CachedReplies Freshness Permanence StripeCustomer

variable {verifyApiKey : String → String → Bool} {verify : List UInt8 → String → Except PyError StripeEvent}
  {start middle final state next : ServiceState} {tenantId : UUID} {events : List UsageEvent}

/-- The action is no delivery that Stripe has signed. -/
def Unsigned (verify : List UInt8 → String → Except PyError StripeEvent) (action : ServiceAction) : Prop :=
  ∀ env payload header event, action = .request (.webhook env payload (some header)) → verify payload header ≠ .ok event

variable (verifyApiKey verify) in
/-- In the course of a run a request under the key was answered so. -/
def GivenIn (schedule : List ServiceAction) (start : ServiceState) (triple : UsageKey) (response : MeterResponse) : Prop :=
  ∃ earlier before rest past, schedule = before ++ .request (.api earlier) :: rest ∧
    (service verifyApiKey verify).run before start = some past ∧ earlier.key? = some triple ∧
    (earlier.serve verifyApiKey past.store).1 = .meter (.ok response)

/-- The tenant has no active subscription, and these are its events. -/
structure Barred (tenantId : UUID) (events : List UsageEvent) (state : ServiceState) : Prop where
  mirrors : Mirrors state.store.database state.store.redis
  unsubscribed : state.store.database.activeSubscription? tenantId = none
  events : state.store.database.usageEvents.select (·.tenantId == tenantId) = events

theorem admitted_subscribed {call : RecordCall} {settings : Settings} {month : Int} {database : Database}
    {admission : QuotaInfo × Int} (admitted : call.admission? settings month database = some admission) :
    database.activeSubscription? call.tenantId ≠ none := by
  obtain ⟨limit, limited, _⟩ := Option.bind_eq_some_iff.mp admitted
  obtain ⟨subscription, active, _⟩ := Option.bind_eq_some_iff.mp limited
  rw [active]
  exact Option.some_ne_none subscription

theorem Barred.alters {call : Call} {after : Database} (barred : Barred tenantId events state)
    (unsigned : Unsigned verify (.request call)) (alters : Alters verify call state.store.database after) :
    after.activeSubscription? tenantId = none ∧ after.usageEvents.select (·.tenantId == tenantId) = events := by
  cases alters with
  | kept => exact ⟨barred.unsubscribed, barred.events⟩
  | @recorded incoming metered cost asked named endpoint inserts =>
    refine ⟨barred.unsubscribed, ?_⟩
    obtain ⟨info, admitted⟩ := inserts.admitted
    have other : metered.tenantId ≠ tenantId := by
      rintro rfl
      exact admitted_subscribed admitted barred.unsubscribed
    rw [Table.select, Table.add_rows, List.filter_append, List.filter_cons_of_neg, List.filter_nil, List.append_nil]
    · exact barred.events
    · exact fun own => other (eq_of_beq own)
  | delivered asked verified _ _ =>
    obtain rfl := asked
    exact (unsigned _ _ _ _ rfl verified).elim
  | enlisted _ _ enlists =>
    obtain ⟨customer, _, _, tenants, rfl, _⟩ := enlisted_rows enlists
    exact ⟨barred.unsubscribed, barred.events⟩

theorem barred_stays : (service verifyApiKey verify).Invariant (Unsigned verify) (Barred tenantId events) := by
  intro action state next unsigned barred taken
  have kept := kept_step ⟨barred.mirrors, .refl _⟩ taken
  cases action with
  | request call =>
    obtain rfl := Option.some.inj taken
    obtain ⟨unsubscribed, same⟩ := barred.alters unsigned (call_changes call barred.mirrors.honest).database
    exact ⟨kept.mirrors, unsubscribed, same⟩
  | elapse seconds =>
    obtain rfl := Option.some.inj taken
    exact ⟨kept.mirrors, barred.unsubscribed, barred.events⟩
  | evict key =>
    obtain rfl := Option.some.inj taken
    exact ⟨kept.mirrors, barred.unsubscribed, barred.events⟩

theorem Barred.refuses {incoming : ApiRequest} {triple : UsageKey} {response : MeterResponse}
    (barred : Barred triple.tenantId events state) (asked : incoming.key? = some triple)
    (misses : Misses incoming state.store.redis (idempotencyCacheKey triple)) :
    (incoming.serve verifyApiKey state.store).1 ≠ .meter (.ok response) := by
  intro answered
  obtain ⟨call, redis, rfl, missed, replied, _⟩ := computed_answer barred.mirrors.honest asked misses answered
  rcases computed : recordUsage call incoming.env (Store.open ⟨state.store.database, redis⟩) with ⟨reply, session⟩
  obtain rfl := replied.symm.trans (serve_database computed).1
  obtain ⟨event, info, middle, recorded, _⟩ := recordUsage_answered (by exact missed) computed
  obtain ⟨checked, working, recorded, _⟩ := record_returned rfl recorded
  obtain ⟨admission, admitted, _⟩ := Option.bind_eq_some_iff.mp recorded
  exact admitted_subscribed admitted barred.unsubscribed

/-- A response that such a tenant still gets is in Redis. It was given before the tenant lost its access, less than a
day ago. -/
theorem answered_before (empty : ∀ key, start.store.redis key = none) {first second : List ServiceAction}
    (reached : (service verifyApiKey verify).run first start = some middle) {triple : UsageKey}
    (barred : Barred triple.tenantId events middle) (unsigned : ∀ action ∈ second, Unsigned verify action)
    (ran : (service verifyApiKey verify).run second middle = some final) {incoming : ApiRequest} {response : MeterResponse}
    (asked : incoming.key? = some triple) (answered : (incoming.serve verifyApiKey final.store).1 = .meter (.ok response)) :
    ¬ Misses incoming final.store.redis (idempotencyCacheKey triple) ∧
      GivenIn verifyApiKey verify first start triple response ∧
      (caching verifyApiKey verify).elapsed second < idempotencyTtlSeconds := by
  have still := barred_stays.run unsigned barred ran
  by_cases misses : Misses incoming final.store.redis (idempotencyCacheKey triple)
  · exact (still.refuses asked misses answered).elim
  · obtain ⟨up, entry, found⟩ := found_of_hit misses
    obtain ⟨earlier, state, held, ⟨before, rest, split, served, young⟩, looked, missed, told, stored⟩ :=
      response_given empty (Machine.run_trans reached ran) found
    obtain rfl := answered_held still.mirrors.honest asked answered up found stored
    rcases List.append_eq_append_iff.mp split with ⟨within, rfl, later⟩ | ⟨within, parts, later⟩
    · rw [Machine.run_append, reached] at served
      have between : ∀ action ∈ within, Unsigned verify action := by
        intro action member
        exact unsigned action (later ▸ List.mem_append_left _ member)
      exact ((barred_stays.run between barred served).refuses looked missed told).elim
    · cases within with
      | nil =>
        obtain rfl : first = before := parts.trans (List.append_nil _)
        obtain rfl := Option.some.inj (reached.symm.trans served)
        exact (barred.refuses looked missed told).elim
      | cons action within =>
        obtain ⟨rfl, rfl⟩ := List.cons.inj (later.trans (List.cons_append ..))
        rw [Expiring.elapsed_append] at young
        exact ⟨misses, ⟨earlier, before, within, state, parts, served, looked, told⟩, by omega⟩

/-- Once a tenant has no active subscription, then until the next delivery that Stripe has signed, whatever else is
served, it gets none and nothing is recorded for it, and its metering requests are answered at most from Redis, with
what they were answered before, for less than a day. -/
theorem access_ends (empty : ∀ key, start.store.redis key = none) {first second : List ServiceAction}
    (reached : (service verifyApiKey verify).run first start = some middle)
    (unsubscribed : middle.store.database.activeSubscription? tenantId = none)
    (unsigned : ∀ action ∈ second, Unsigned verify action)
    (ran : (service verifyApiKey verify).run second middle = some final) :
    final.store.database.activeSubscription? tenantId = none ∧
    final.store.database.usageEvents.select (·.tenantId == tenantId) =
      middle.store.database.usageEvents.select (·.tenantId == tenantId) ∧
    ∀ (incoming : ApiRequest) (triple : UsageKey) (response : MeterResponse), incoming.key? = some triple →
      triple.tenantId = tenantId → (incoming.serve verifyApiKey final.store).1 = .meter (.ok response) →
        ¬ Misses incoming final.store.redis (idempotencyCacheKey triple) ∧
          GivenIn verifyApiKey verify first start triple response ∧
          (caching verifyApiKey verify).elapsed second < idempotencyTtlSeconds := by
  have mirrors : Mirrors start.store.database start.store.redis := .initial empty
  have kept : Kept start.store.database middle := (kept_invariant _).run (fun _ _ => trivial) ⟨mirrors, .refl _⟩ reached
  have barred : Barred tenantId _ middle := ⟨kept.mirrors, unsubscribed, rfl⟩
  have still := barred_stays.run unsigned barred ran
  refine ⟨still.unsubscribed, still.events, fun incoming triple response asked own answered => ?_⟩
  obtain rfl := own
  exact answered_before empty reached barred unsigned ran asked answered

def deleting (_payload : List UInt8) (_sigHeader : String) : Except PyError StripeEvent :=
  .ok ⟨"evt_1", .subscriptionDeleted (Seed.stripeSubscription "canceled" []), Seed.payload⟩

def canceling : List ServiceAction :=
  [.request (.api (posting 20)), .request (.webhook (Seed.env 30) [] (some "signature"))]

def canceled : ServiceState := ((service unchecked deleting).run canceling ⟨Seed.paid, []⟩).get rfl

def expired : ServiceState := ((service unchecked deleting).run [.elapse 86400] canceled).get rfl

/-- The call is answered again when the subscription is deleted, but not a day later. -/
theorem canceled_ends : ((posting 21).serve unchecked canceled.store).1 = .meter (.ok first) ∧
    ∀ response, ((posting 21).serve unchecked expired.store).1 ≠ .meter (.ok response) := by
  have reached : (service unchecked deleting).run canceling ⟨Seed.paid, []⟩ = some canceled := (Option.some_get _).symm
  have ran : (service unchecked deleting).run [.elapse 86400] canceled = some expired := (Option.some_get _).symm
  have unsigned : ∀ action ∈ [ServiceAction.elapse 86400], Unsigned deleting action := by
    intro action member env payload header event signed
    obtain rfl := List.mem_singleton.mp member
    cases signed
  refine ⟨by decide +kernel, fun response answered => ?_⟩
  obtain ⟨_, _, soon⟩ := @access_ends unchecked deleting ⟨Seed.paid, []⟩ canceled expired Seed.tenant.id (fun _ => rfl)
    canceling [.elapse 86400] reached (by decide +kernel) unsigned ran
  have never : ¬ (caching unchecked deleting).elapsed [.elapse 86400] < idempotencyTtlSeconds := by decide
  exact never (soon (posting 21) triple response (by decide) rfl answered).2.2

end MeteringBilling.LostAccess
