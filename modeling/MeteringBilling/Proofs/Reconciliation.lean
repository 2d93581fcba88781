import MeteringBilling.Proofs.CachedReplies
import MeteringBilling.Proofs.ConcurrentInvariant

/-! The bill against the answers. Where every transaction that has been answered also commits, the
recorded events are those that clients have been told of, and no others. -/

namespace MeteringBilling.Reconciliation

open Effect Freshness Permanence StripeCustomer CachedReplies

structure Acknowledgement where
  triple : UsageKey
  response : MeterResponse

structure Acknowledgement.Of (acknowledgement : Acknowledgement) (event : UsageEvent) : Prop where
  triple : event.key = acknowledgement.triple
  id : acknowledgement.response.usageEventId = event.id
  usageType : acknowledgement.response.usageType = event.usageType
  quantity : acknowledgement.response.quantity = event.quantity
  cost : acknowledgement.response.costMicrounits = event.costMicrounits

section

variable (verifyApiKey : String → String → Bool) (verify : List UInt8 → String → Except PyError StripeEvent)

def answered? (incoming : ApiRequest) (store : Store) : Option Acknowledgement :=
  match incoming.key?, (incoming.serve verifyApiKey store).1 with
  | some triple, .meter (.ok response) => some ⟨triple, response⟩
  | _, _ => none

def acknowledgement? (action : ServiceAction) (state : ServiceState) : Option Acknowledgement :=
  match action with
  | .request (.api incoming) => answered? verifyApiKey incoming state.store
  | _ => none

def acknowledgements : List ServiceAction → ServiceState → List Acknowledgement
  | [], _ => []
  | action :: rest, state => (acknowledgement? verifyApiKey action state).toList ++
    match (service verifyApiKey verify).step action state with
    | none => []
    | some next => acknowledgements rest next

end

/-- The last commit of a metering request goes through. -/
def Commits (action : ServiceAction) : Prop :=
  ∀ incoming idempotencyKey request reqIp userAgent, action = .request (.api incoming) →
    incoming.endpoint = .meter idempotencyKey request reqIp userAgent →
    incoming.env.fault incoming.env.attempt .commitRequest = none

/-- The responses that Redis holds are of recorded events. -/
def Backed (database : Database) (redis : Redis) : Prop :=
  ∀ triple entry, redis (idempotencyCacheKey triple) = some entry →
    ∃ response, ∃ event ∈ database.usageEvents, entry.value = response.modelDump ∧ (Acknowledgement.mk triple response).Of event

variable {verifyApiKey : String → String → Bool} {verify : List UInt8 → String → Except PyError StripeEvent} {env : Env}
  {store : Store} {call : MeterCall} {session : Session}

theorem committed {α : Type} {endpoint : Request α} {value : α} (commits : env.fault env.attempt .commitRequest = none)
    (live : session.aborted = false) (ran : endpoint env store.open = (.ok value, session)) :
    (serve endpoint env store).2.database = session.working := by
  simp only [serve, ran, Except.map, getDb, handle, commit, live, commits, Bool.false_eq_true, if_false]

/-- What serving a metering request comes to. -/
structure Records (before after : Database) (triple : UsageKey) (reply : Except PyError MeterResponse) : Prop where
  refused : ∀ exc, reply = .error exc → after = before
  told : ∀ response, reply = .ok response → ∃ event ∈ after.usageEvents, (Acknowledgement.mk triple response).Of event ∧
    ∀ other ∈ after.usageEvents, other ∈ before.usageEvents ∨ other = event

theorem recorded_of {before after : Database} {event : UsageEvent} {checked : QuotaInfo}
    (recorded : before.record env call.record = some ((event, checked), after)) (info : UpdatedQuotaInfo) :
    event ∈ after.usageEvents ∧ (Acknowledgement.mk call.key (meterResponse event info call.request.usageType)).Of event ∧
      ∀ other ∈ after.usageEvents, other ∈ before.usageEvents ∨ other = event := by
  obtain ⟨⟨_, cost⟩, admitted, finished⟩ := Option.bind_eq_some_iff.mp recorded
  obtain ⟨⟨_, _⟩, stored, same⟩ := Option.bind_eq_some_iff.mp finished
  obtain ⟨pair, rfl⟩ := Prod.mk.inj (Option.some.inj same)
  obtain ⟨rfl, _⟩ := Prod.mk.inj pair
  rcases recordAdmitted_cases stored with ⟨found, rfl⟩ | ⟨_, tenant, rfl, fits, rfl⟩
  · obtain ⟨member, key⟩ := eventOf?_mem found
    exact ⟨member, ⟨key, rfl, rfl, rfl, rfl⟩, fun _ => Or.inl⟩
  · refine ⟨?_, ⟨rfl, rfl, rfl, rfl, rfl⟩, fun other member => ?_⟩
    · exact List.mem_append_right _ (List.mem_singleton_self _)
    · rw [Table.mem_rows, Table.add_rows] at member
      exact (List.mem_append.mp member).imp_right List.mem_singleton.mp

theorem recorded_answer (commits : env.fault env.attempt .commitRequest = none) (backed : Backed store.database store.redis) :
    Records store.database (serve (recordUsage call) env store).2.database call.key (serve (recordUsage call) env store).1 := by
  cases looked : call.cached? env store.redis with
  | some cached =>
    rw [recordUsage_found looked]
    unfold MeterCall.cached? at looked
    split at looked
    · obtain ⟨entry, held, rfl⟩ := Option.map_eq_some_iff.mp looked
      obtain ⟨response, event, member, value, of⟩ := backed call.key entry held
      rw [value, cachedToResponse_modelDump]
      refine ⟨fun _ _ => rfl, fun other same => ?_⟩
      obtain rfl := Except.ok.inj same
      exact ⟨event, member, of, fun _ => Or.inl⟩
    · cases looked
  | none =>
    rcases ran : recordUsage call env store.open with ⟨exc | response, session⟩
    · obtain ⟨same, kept⟩ := serve_database ran
      rw [same]
      refine ⟨fun _ _ => ?_, fun _ never => by cases never⟩
      rcases kept with left | ⟨⟨_, never⟩, _⟩
      · rw [left]
        rcases recordUsage_cases ran with rfl | ⟨saved, _⟩ | ⟨_, _, _, _, _, never, _⟩
        · rfl
        · exact (Prod.mk.inj saved).1
        · cases never
      · cases never
    · rw [(serve_database ran).1]
      refine ⟨fun _ never => (by cases never), fun other same => ?_⟩
      obtain rfl := Except.ok.inj same
      obtain ⟨event, info, middle, recorded, rfl, rfl⟩ := recordUsage_answered (by exact looked) ran
      obtain ⟨checked, working, computed, _, rfl⟩ := record_returned rfl recorded
      obtain ⟨member, of, only⟩ := recorded_of computed info
      rw [committed commits rfl ran]
      exact ⟨event, member, of, only⟩

theorem Backed.authenticated {tenantId : UUID} {redis : Redis} (backed : Backed store.database store.redis)
    (authenticates : Authenticates tenantId store redis) : Backed store.database redis := by
  intro triple entry held
  rw [authenticates_reply authenticates (Or.inl ⟨triple, rfl⟩)] at held
  exact backed triple entry held

theorem answered?_eq_some {incoming : ApiRequest} {acknowledgement : Acknowledgement} :
    answered? verifyApiKey incoming store = some acknowledgement ↔
      incoming.key? = some acknowledgement.triple ∧
        (incoming.serve verifyApiKey store).1 = .meter (.ok acknowledgement.response) := by
  unfold answered?
  constructor
  · intro answered
    split at answered
    · next asked replied =>
      obtain rfl := Option.some.inj answered
      exact ⟨asked, replied⟩
    · cases answered
  · rintro ⟨asked, replied⟩
    rw [asked, replied]

theorem answered_books {incoming : ApiRequest} (commits : Commits (.request (.api incoming)))
    (honest : Honest store.redis) (backed : Backed store.database store.redis) :
    (∀ event ∈ (incoming.serve verifyApiKey store).2.database.usageEvents, event ∈ store.database.usageEvents ∨
      ∃ acknowledgement, answered? verifyApiKey incoming store = some acknowledgement ∧ acknowledgement.Of event) ∧
    ∀ acknowledgement, answered? verifyApiKey incoming store = some acknowledgement →
      ∃ event ∈ (incoming.serve verifyApiKey store).2.database.usageEvents, acknowledgement.Of event := by
  cases endpoint : incoming.endpoint with
  | usage =>
    have silent {acknowledgement : Acknowledgement} (answered : answered? verifyApiKey incoming store = some acknowledgement) :
        False := by
      obtain ⟨asked, _⟩ := answered?_eq_some.mp answered
      rw [ApiRequest.key?, endpoint] at asked
      cases asked
    refine ⟨fun event member => Or.inl ?_, fun _ answered => (silent answered).elim⟩
    rcases serve_cases verifyApiKey incoming honest with same | ⟨tenantId, redis, _, _, served⟩
    · rwa [same] at member
    · rw [served, endpoint] at member
      exact (reported_cases tenantId incoming.env ⟨store.database, redis⟩).1 ▸ member
  | meter idempotencyKey request reqIp userAgent =>
    let call := meterCall idempotencyKey request reqIp userAgent
    rcases authenticated_serve verifyApiKey incoming.credentials incoming.env honest (fun tenantId => recordUsage (call tenantId))
      with ⟨exc, rejected⟩ | ⟨tenantId, redis, named, authenticates, served⟩
    · have final : incoming.serve verifyApiKey store = (.meter (.error exc), store) := by
        rw [ApiRequest.serve, endpoint]
        dsimp only
        rw [rejected]
      rw [final]
      refine ⟨fun event => Or.inl, fun acknowledgement answered => ?_⟩
      obtain ⟨_, replied⟩ := answered?_eq_some.mp answered
      rw [final] at replied
      cases ApiReply.meter.inj replied
    · have records := @recorded_answer incoming.env ⟨store.database, redis⟩ (call tenantId)
        (commits incoming idempotencyKey request reqIp userAgent rfl endpoint)
        (backed.authenticated authenticates)
      have final : incoming.serve verifyApiKey store =
          (.meter (serve (recordUsage (call tenantId)) incoming.env ⟨store.database, redis⟩).1,
            (serve (recordUsage (call tenantId)) incoming.env ⟨store.database, redis⟩).2) := by
        rw [ApiRequest.serve, endpoint]
        dsimp only
        rw [served]
      have asked : incoming.key? = some (call tenantId).key := by
        rw [ApiRequest.key?, endpoint, named]
        rfl
      rw [final]
      constructor
      · intro event member
        cases reply : (serve (recordUsage (call tenantId)) incoming.env ⟨store.database, redis⟩).1 with
        | error exc =>
          have same := records.refused exc reply
          exact Or.inl (same ▸ member)
        | ok response =>
          obtain ⟨other, _, of, only⟩ := records.told response reply
          rcases only event member with before | rfl
          · exact Or.inl before
          · refine Or.inr ⟨⟨_, response⟩, answered?_eq_some.mpr ⟨asked, ?_⟩, of⟩
            rw [final, reply]
      · intro acknowledgement answered
        obtain ⟨key, replied⟩ := answered?_eq_some.mp answered
        rw [final] at replied
        obtain ⟨event, member, of, _⟩ := records.told _ (ApiReply.meter.inj replied)
        rw [Option.some.inj (asked.symm.trans key)] at of
        exact ⟨event, member, of⟩

structure Books (verifyApiKey : String → String → Bool) (action : ServiceAction) (state next : ServiceState) : Prop where
  recorded : ∀ event ∈ next.store.database.usageEvents, event ∈ state.store.database.usageEvents ∨
    ∃ acknowledgement, acknowledgement? verifyApiKey action state = some acknowledgement ∧ acknowledgement.Of event
  told : ∀ acknowledgement, acknowledgement? verifyApiKey action state = some acknowledgement →
    ∃ event ∈ next.store.database.usageEvents, acknowledgement.Of event

theorem silent_events {call : Call} {before after : Database} (silent : ∀ incoming, call ≠ .api incoming)
    (alters : Alters verify call before after) : after.usageEvents = before.usageEvents := by
  cases alters with
  | kept => rfl
  | recorded asked named endpoint inserts => exact (silent _ asked).elim
  | delivered asked verified unmarked applied =>
    obtain ⟨written, processed, _, fits, rfl⟩ := applied?_eq_some.mp applied
    obtain ⟨_, same, _⟩ := EventData.process?_extends processed
    exact same
  | enlisted asked named enlists =>
    obtain ⟨_, _, _, _, rfl, _⟩ := enlisted_rows enlists
    rfl

theorem silent_books {call : Call} {state : ServiceState} (silent : ∀ incoming, call ≠ .api incoming)
    (honest : Honest state.store.redis) : Books verifyApiKey (.request call) state (state.served verifyApiKey verify call) := by
  have untold : acknowledgement? verifyApiKey (.request call) state = none := by
    cases call with
    | api incoming => exact (silent incoming rfl).elim
    | checkout _ | portal _ | cancel _ _ | tenantInfo _ _ | webhook _ _ _ => rfl
  refine ⟨fun event member => Or.inl ?_, fun acknowledgement told => by rw [untold] at told; cases told⟩
  have same := silent_events silent (@call_changes state.store verifyApiKey verify call honest).database
  exact same ▸ member

theorem backed_after {call : Call} {state : ServiceState} (honest : Honest state.store.redis)
    (backed : Backed state.store.database state.store.redis)
    (books : Books verifyApiKey (.request call) state (state.served verifyApiKey verify call)) :
    Backed (state.served verifyApiKey verify call).store.database (state.served verifyApiKey verify call).store.redis := by
  have changes := @call_changes state.store verifyApiKey verify call honest
  intro triple entry held
  rcases changes.redis (idempotencyCacheKey triple) with same | ⟨gone, _⟩ | ⟨stored, found, leaves⟩
  · obtain ⟨response, event, member, value, of⟩ := backed triple entry (same.symm.trans held)
    exact ⟨response, event, (alters_lasts changes.database).usageEvents.subset member, value, of⟩
  · cases gone.symm.trans held
  · obtain rfl := Option.some.inj (found.symm.trans held)
    obtain ⟨incoming, rfl, _, stores⟩ := leaves_looks leaves (Or.inl ⟨triple, rfl⟩)
    obtain ⟨response, rfl, asked, answered⟩ := stored_response stores
    obtain ⟨event, member, of⟩ := books.told ⟨triple, response⟩ (answered?_eq_some.mpr ⟨asked, answered⟩)
    exact ⟨response, event, member, rfl, of⟩

structure Booked (state : ServiceState) : Prop where
  mirrors : Mirrors state.store.database state.store.redis
  backed : Backed state.store.database state.store.redis

theorem booked_step {action : ServiceAction} {state next : ServiceState} (commits : Commits action) (booked : Booked state)
    (taken : (service verifyApiKey verify).step action state = some next) :
    Booked next ∧ Books verifyApiKey action state next := by
  obtain ⟨mirrors, lasts⟩ := kept_step ⟨booked.mirrors, .refl _⟩ taken
  have idle (untold : acknowledgement? verifyApiKey action state = none)
      (same : next.store.database = state.store.database) : Books verifyApiKey action state next :=
    ⟨fun _ member => Or.inl (same ▸ member), fun _ told => by rw [untold] at told; cases told⟩
  cases action with
  | request call =>
    obtain rfl := Option.some.inj taken
    have books : Books verifyApiKey (.request call) state (state.served verifyApiKey verify call) := by
      by_cases asks : ∃ incoming, call = .api incoming
      · obtain ⟨incoming, rfl⟩ := asks
        obtain ⟨recorded, told⟩ := @answered_books verifyApiKey state.store incoming commits booked.mirrors.honest booked.backed
        exact ⟨recorded, told⟩
      · exact silent_books (not_exists.mp asks) booked.mirrors.honest
    exact ⟨⟨mirrors, backed_after booked.mirrors.honest booked.backed books⟩, books⟩
  | elapse seconds =>
    obtain rfl := Option.some.inj taken
    refine ⟨⟨mirrors, fun triple entry held => ?_⟩, idle rfl rfl⟩
    obtain ⟨stored, found, same⟩ := elapse_loses held
    obtain ⟨response, event, member, value, of⟩ := booked.backed triple stored found
    exact ⟨response, event, member, same ▸ value, of⟩
  | evict key =>
    obtain rfl := Option.some.inj taken
    exact ⟨⟨mirrors, fun triple entry held => booked.backed triple entry (evict_cases held).2⟩, idle rfl rfl⟩

/-- The recorded events are those there were, and those that clients have been told of. -/
structure Reconciled (start final : Database) (acknowledged : List Acknowledgement) : Prop where
  recorded : ∀ event ∈ final.usageEvents, event ∈ start.usageEvents ∨ ∃ acknowledgement ∈ acknowledged, acknowledgement.Of event
  told : ∀ acknowledgement ∈ acknowledged, ∃ event ∈ final.usageEvents, acknowledgement.Of event

theorem reconciled_of_booked {state final : ServiceState} {schedule : List ServiceAction}
    (commits : ∀ action ∈ schedule, Commits action) (booked : Booked state)
    (ran : (service verifyApiKey verify).run schedule state = some final) :
    Reconciled state.store.database final.store.database (acknowledgements verifyApiKey verify schedule state) := by
  induction schedule generalizing state with
  | nil =>
    obtain rfl := Option.some.inj ran
    exact ⟨fun _ => Or.inl, fun _ never => (List.not_mem_nil never).elim⟩
  | cons action rest ih =>
    obtain ⟨next, taken, ran⟩ := Machine.run_cons_eq_some ran
    obtain ⟨here, later⟩ := List.forall_mem_cons.mp commits
    obtain ⟨carried, books⟩ := booked_step here booked taken
    obtain ⟨recorded, told⟩ := ih later carried ran
    have kept := (kept_invariant next.store.database).run (fun _ _ => trivial) ⟨carried.mirrors, .refl _⟩ ran
    have split : acknowledgements verifyApiKey verify (action :: rest) state =
        (acknowledgement? verifyApiKey action state).toList ++ acknowledgements verifyApiKey verify rest next := by
      rw [acknowledgements, taken]
    rw [split]
    constructor
    · intro event member
      rcases recorded event member with before | ⟨acknowledgement, among, of⟩
      · rcases books.recorded event before with earlier | ⟨acknowledgement, told, of⟩
        · exact Or.inl earlier
        · exact Or.inr ⟨acknowledgement, List.mem_append_left _ (Option.mem_toList.mpr told), of⟩
      · exact Or.inr ⟨acknowledgement, List.mem_append_right _ among, of⟩
    · intro acknowledgement among
      rcases List.mem_append.mp among with first | others
      · obtain ⟨event, member, of⟩ := books.told acknowledgement (Option.mem_toList.mp first)
        exact ⟨event, kept.lasts.usageEvents.subset member, of⟩
      · exact told acknowledgement others

/-- From an empty Redis on, a run in which answered metering requests commit records exactly what it tells. -/
theorem bill_reconciled {state final : ServiceState} {schedule : List ServiceAction}
    (empty : ∀ key, state.store.redis key = none) (commits : ∀ action ∈ schedule, Commits action)
    (ran : (service verifyApiKey verify).run schedule state = some final) :
    Reconciled state.store.database final.store.database (acknowledgements verifyApiKey verify schedule state) := by
  refine reconciled_of_booked commits ⟨fun _ _ held => ?_, fun _ _ held => ?_⟩ ran
  · cases (empty _).symm.trans held
  · cases (empty _).symm.trans held

def repeated : List ServiceAction := working ++ [.request (.api (posting 21))]

def repeats : ServiceState := ((service unchecked unsigned).run repeated ⟨Seed.store, []⟩).get rfl

theorem repeated_reconciled : (acknowledgements unchecked unsigned repeated ⟨Seed.store, []⟩).length = 2 ∧
    repeats.store.database.usageEvents.rows.length = 1 ∧
    Reconciled Seed.database repeats.store.database (acknowledgements unchecked unsigned repeated ⟨Seed.store, []⟩) := by
  have ran : (service unchecked unsigned).run repeated ⟨Seed.store, []⟩ = some repeats := (Option.some_get _).symm
  refine ⟨by decide +kernel, by decide +kernel, bill_reconciled (fun _ => rfl) (fun action member => ?_) ran⟩
  simp only [repeated, working, List.cons_append, List.nil_append, List.mem_cons, List.not_mem_nil, or_false] at member
  intro incoming _ _ _ _ same _
  rcases member with rfl | rfl | rfl
  · cases same
    rfl
  · cases same
  · cases same
    rfl

end MeteringBilling.Reconciliation
