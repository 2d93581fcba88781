import MeteringBilling.Proofs.ConcurrentInvariant
import MeteringBilling.Proofs.Acknowledgement
import MeteringBilling.Proofs.Endpoint

/-! Replaying a request whose event is committed. The cache answers before any check; the
tables answer behind the subscription and quota checks, so the two paths agree exactly when
the replay would be admitted again. -/

namespace MeteringBilling.Replay

open Acknowledgement

/-- Requests with fresh identifiers, and the stores they start from. -/
structure Traffic (ι : Type) where
  incoming : ι → Incoming
  store : Store
  identifiers : Function.Injective fun request => (incoming request).env.uuid4 0 .usageEvent
  unissued : ∀ request, ∀ event ∈ store.database.usageEvents, event.id ≠ (incoming request).env.uuid4 0 .usageEvent
  silent : ∀ key, store.redis (idempotencyCacheKey key) = none

variable {ι : Type} {traffic : Traffic ι} {world next : World ι} {request : ι}

def Traffic.initial (traffic : Traffic ι) : World ι := ⟨traffic.store, fun _ => .arrived⟩

structure Describes (response : MeterResponse) (event : UsageEvent) : Prop where
  id : response.usageEventId = event.id
  usageType : response.usageType = event.usageType
  quantity : response.quantity = event.quantity
  costMicrounits : response.costMicrounits = event.costMicrounits

def Priced (traffic : Traffic ι) (request : ι) (cost : Int) : Prop :=
  let incoming := traffic.incoming request
  CostService.calculate incoming.env.settings incoming.call.request.usageType incoming.call.request.qty = .ok cost

/-- The events there can be: those stored at the start, and one for each request. -/
def Issued (traffic : Traffic ι) (event : UsageEvent) : Prop :=
  event ∈ traffic.store.database.usageEvents ∨
    ∃ request cost, Priced traffic request cost ∧ event = rowOf traffic.incoming request cost

theorem Issued.eq {first second : UsageEvent} (left : Issued traffic first) (right : Issued traffic second)
    (same : first.id = second.id) : first = second := by
  rcases left with left | ⟨request, cost, priced, rfl⟩
  · rcases right with right | ⟨request, cost, priced, rfl⟩
    · exact Table.eq_of_clash left right (Or.inl same)
    · exact (traffic.unissued request first left same).elim
  · rcases right with right | ⟨other, price, also, rfl⟩
    · exact (traffic.unissued request second right same.symm).elim
    · obtain rfl := traffic.identifiers same
      obtain rfl := Except.ok.inj (priced.symm.trans also)
      rfl

def Recalled (traffic : Traffic ι) (request : ι) : Phase → Prop
  | .admitted _ cost => Priced traffic request cost
  | .recorded event _ _ => Issued traffic event ∧ event.key = (traffic.incoming request).call.key
  | .answered response event _ =>
    Issued traffic event ∧ event.key = (traffic.incoming request).call.key ∧ Describes response event
  | _ => True

structure Faithful (traffic : Traffic ι) (world : World ι) : Prop where
  rows : ∀ event ∈ world.store.database.usageEvents, Issued traffic event
  phases : ∀ request, Recalled traffic request (world.phase request)
  cached : ∀ key entry, world.store.redis (idempotencyCacheKey key) = some entry →
    ∃ response event, Issued traffic event ∧ event.key = key ∧ Describes response event ∧
      entry.value = response.modelDump

theorem faithful_initial : Faithful traffic traffic.initial where
  rows _ member := Or.inl member
  phases _ := trivial
  cached key entry held := by
    have silent := traffic.silent key
    rw [show traffic.initial.store.redis = traffic.store.redis from rfl, silent] at held
    cases held

section

variable [DecidableEq ι]

theorem Faithful.become (faithful : Faithful traffic world) {phase : Phase} (recalled : Recalled traffic request phase) :
    Faithful traffic (world.become request phase) where
  rows := faithful.rows
  phases other := by
    by_cases same : other = request
    · subst same
      rw [World.become_phase]
      exact recalled
    · rw [World.become_other same]
      exact faithful.phases other
  cached := faithful.cached

theorem faithful_step {action : Action ι} (faithful : Faithful traffic world)
    (moves : Moves traffic.incoming action world next) : Faithful traffic next := by
  cases moves with
  | hit phase | missed phase => exact faithful.become trivial
  | admitted phase admission =>
    obtain ⟨_, _, _, priced, _⟩ := admission?_eq_some.mp admission
    exact faithful.become priced
  | refused phase admission => exact faithful.become trivial
  | @inserted _ request info cost phase unblocked storable tenant fits =>
    have priced := faithful.phases request
    rw [phase] at priced
    exact faithful.become ⟨Or.inr ⟨request, cost, priced, rfl⟩, rfl⟩
  | conflicted phase taken => exact faithful.become trivial
  | rejected phase refused => exact faithful.become trivial
  | found phase stored =>
    obtain ⟨member, key⟩ := eventOf?_mem stored
    exact faithful.become ⟨faithful.rows _ member, key⟩
  | lost phase absent => exact faithful.become trivial
  | @responded _ request event info fresh _ phase reached =>
    subst reached
    have recalled := faithful.phases request
    rw [phase] at recalled
    have described : Describes (responseOf traffic.incoming request event info) event := ⟨rfl, rfl, rfl, rfl⟩
    have after : Faithful traffic
        (world.become request (.answered (responseOf traffic.incoming request event info) event fresh)) :=
      faithful.become ⟨recalled.1, recalled.2, described⟩
    refine ⟨after.rows, after.phases, fun key entry held => ?_⟩
    rcases respondStep_cases held with ⟨rfl, dump⟩ | older
    · exact ⟨_, event, recalled.1, recalled.2, described, dump⟩
    · exact faithful.cached key entry older
  | @committed _ request response event _ phase fits reached =>
    subst reached
    have recalled := faithful.phases request
    rw [phase] at recalled
    have after : Faithful traffic (world.become request (.finished (.ok response))) := faithful.become trivial
    refine ⟨fun stored member => ?_, after.phases, after.cached⟩
    rcases List.mem_append.mp (Table.mem_rows.mp member) with member | member
    · exact faithful.rows stored member
    · rw [List.mem_singleton.mp member]
      exact recalled.1
  | returned phase => exact faithful.become trivial
  | aborted unfinished => exact faithful.become trivial
  | @evicted _ evicted =>
    refine ⟨faithful.rows, faithful.phases, fun key entry held => ?_⟩
    by_cases same : idempotencyCacheKey key = evicted
    · simp only [same, Function.update_self] at held
      cases held
    · simp only [Function.update_of_ne same] at held
      exact faithful.cached key entry held
  | reconfigured => exact ⟨faithful.rows, faithful.phases, faithful.cached⟩

theorem faithful_invariant [Fintype ι] : (concurrent traffic.incoming).Invariant (fun _ => True) (Faithful traffic) :=
  fun _ _ _ _ faithful taken => faithful_step faithful (step_moves taken)

end

/-- The request is answered with the event's data, and no event is added. -/
def Replays (replay : Incoming) (store : Store) (event : UsageEvent) : Prop :=
  (∃ response, (serve (recordUsage replay.call) replay.env store).1 = .ok response ∧ Describes response event) ∧
    (serve (recordUsage replay.call) replay.env store).2.database.usageEvents = store.database.usageEvents

/-- The request would be let in: an active subscription, room for its quantity on top of what is
already recorded, a price, and a row that the columns have room for. -/
def Readmitted (replay : Incoming) (database : Database) : Prop :=
  let call := replay.call.record
  ∃ limit, database.limit? call.tenantId call.usageType = some limit ∧
    database.monthlyUsage call.tenantId call.usageType replay.env.monthStart + call.qty ≤ limit ∧
    ∃ cost, CostService.calculate replay.env.settings call.usageType call.qty = .ok cost ∧
      (call.fresh replay.env cost).Storable

/-- Redis holds a response that names the event, or holds none and the checks pass. -/
def Recallable (replay : Incoming) (store : Store) (event : UsageEvent) : Prop :=
  (∃ cached, replay.call.cached? replay.env store.redis = some cached ∧ Names cached event) ∨
    replay.call.cached? replay.env store.redis = none ∧ Readmitted replay store.database

theorem cached?_some {replay : Incoming} {redis : Redis} {cached : Json}
    (hit : replay.call.cached? replay.env redis = some cached) :
    ∃ entry, redis (idempotencyCacheKey replay.call.key) = some entry ∧ entry.value = cached := by
  rw [MeterCall.cached?] at hit
  split at hit
  · exact Option.map_eq_some_iff.mp hit
  · cases hit

/-- The tables answer a replay with the stored event, if they answer it at all. -/
theorem record_stored (replay : Incoming) {database : Database} {event : UsageEvent}
    (member : event ∈ database.usageEvents) (same : replay.call.key = event.key) :
    (Readmitted replay database ∧ ∃ info, database.record replay.env replay.call.record = some ((event, info), database)) ∨
      ¬ Readmitted replay database ∧ database.record replay.env replay.call.record = none := by
  have stored : database.eventOf? replay.call.record.key = some event := by
    rw [show replay.call.record.key = event.key from same]
    exact eventOf?_of_mem member
  cases admission : replay.call.record.admission? replay.env.settings replay.env.monthStart database with
  | some admitted =>
    obtain ⟨info, cost⟩ := admitted
    obtain ⟨limit, limited, room, priced, _⟩ := admission?_eq_some.mp admission
    by_cases storable : (replay.call.record.fresh replay.env cost).Storable
    · refine Or.inl ⟨⟨limit, limited, room, cost, priced, storable⟩, info, ?_⟩
      simp [Database.record, admission, Database.recordAdmitted, stored, storable]
    · refine Or.inr ⟨?_, by simp [Database.record, admission, Database.recordAdmitted, storable]⟩
      rintro ⟨_, _, _, other, again, fresh⟩
      obtain rfl := Except.ok.inj (priced.symm.trans again)
      exact storable fresh
  | none =>
    refine Or.inr ⟨?_, by simp [Database.record, admission]⟩
    intro readmitted
    obtain ⟨limit, limited, room, cost, priced, _⟩ := readmitted
    have admitted := admission?_eq_some.mpr ⟨limit, limited, room, priced, rfl⟩
    rw [admission] at admitted
    cases admitted

theorem replays_iff_recallable {replay : Incoming} {event : UsageEvent} (faithful : Faithful traffic world)
    (member : event ∈ world.store.database.usageEvents) (same : replay.call.key = event.key) (quiet : replay.env.Quiet) :
    Replays replay world.store event ↔ Recallable replay world.store event := by
  cases looked : replay.call.cached? replay.env world.store.redis with
  | some cached =>
    obtain ⟨entry, held, rfl⟩ := cached?_some looked
    obtain ⟨response, named, issued, key, described, dump⟩ := faithful.cached _ entry held
    rw [dump] at looked
    have served := serve_recordUsage_hit quiet looked
    have names : Names entry.value named := by rw [dump]; exact names_modelDump described.id
    constructor
    · intro replays
      obtain ⟨⟨answer, replied, describes⟩, _⟩ := replays
      rw [served] at replied
      obtain rfl := Except.ok.inj replied
      refine Or.inl ⟨_, looked, ?_⟩
      exact names_modelDump describes.id
    · intro recallable
      rcases recallable with ⟨cached, hit, naming⟩ | ⟨missed, _⟩
      · rw [looked] at hit
        obtain rfl := Option.some.inj hit
        rw [← dump] at naming
        have equal := issued.eq (faithful.rows event member) (names.id naming)
        rw [Replays, served]
        exact ⟨⟨response, rfl, equal ▸ described⟩, rfl⟩
      · rw [looked] at missed
        cases missed
  | none =>
    have served := serve_recordUsage_miss world.store quiet looked
    rcases record_stored replay member same with ⟨readmitted, info, recorded⟩ | ⟨refused, recorded⟩
    · rw [recorded] at served
      refine iff_of_true ?_ (Or.inr ⟨looked, readmitted⟩)
      rw [Replays, served]
      exact ⟨⟨_, rfl, rfl, rfl, rfl, rfl⟩, rfl⟩
    · rw [recorded] at served
      obtain ⟨exc, served⟩ := served
      refine iff_of_false ?_ ?_
      · intro replays
        obtain ⟨⟨response, replied, _⟩, _⟩ := replays
        rw [served] at replied
        cases replied
      · intro recallable
        rcases recallable with ⟨cached, hit, _⟩ | ⟨_, readmitted⟩
        · rw [looked] at hit
          cases hit
        · exact refused readmitted

/-- In every state that any interleaving of requests, failing commits, evictions and changes
of plans and subscriptions reaches. -/
theorem replay_agrees_iff [DecidableEq ι] [Fintype ι] {schedule : List (Action ι)}
    (reached : (concurrent traffic.incoming).run schedule traffic.initial = some world) {event : UsageEvent}
    (member : event ∈ world.store.database.usageEvents) {replay : Incoming} (same : replay.call.key = event.key)
    (quiet : replay.env.Quiet) : Replays replay world.store event ↔ Recallable replay world.store event :=
  replays_iff_recallable (faithful_invariant.run (fun _ _ => trivial) faithful_initial reached) member same quiet

def full : Traffic Unit where
  incoming _ := ⟨Seed.env 10, ⟨Seed.tenant.id, "key", ⟨.apiCall, 5000, by decide⟩, none, none⟩⟩
  store := Seed.store
  identifiers _ _ _ := rfl
  unissued _ _ member := by cases member
  silent _ := rfl

def again : Incoming := ⟨Seed.env 11, (full.incoming ()).call⟩

def spent : List (Action Unit) :=
  [.lookup (), .check (), .insert (), .respond (), .commit (), .evict (idempotencyCacheKey again.call.key)]

def spentWorld : World Unit := ((concurrent full.incoming).run spent full.initial).get (by decide)

def recorded : UsageEvent := rowOf full.incoming () 5000000

theorem spent_run : (concurrent full.incoming).run spent full.initial = some spentWorld := (Option.some_get _).symm

theorem recorded_mem : recorded ∈ spentWorld.store.database.usageEvents :=
  Table.mem_rows.mpr (by decide)

/-- The same request again is rejected for its own usage. -/
theorem replay_rejected : (concurrent full.incoming).run spent full.initial = some spentWorld ∧
    recorded ∈ spentWorld.store.database.usageEvents ∧ again.call.key = recorded.key ∧ again.env.Quiet ∧
    ¬ Replays again spentWorld.store recorded := by
  refine ⟨spent_run, recorded_mem, rfl, Seed.env_quiet 11, ?_⟩
  intro replays
  obtain ⟨⟨response, replied, _⟩, _⟩ := replays
  have refused : (serve (recordUsage again.call) again.env spentWorld.store).1.toOption = none := by decide
  rw [replied] at refused
  cases refused

theorem replay_agrees_again :
    Replays again spentWorld.store recorded ↔ Recallable again spentWorld.store recorded :=
  replay_agrees_iff spent_run recorded_mem rfl (Seed.env_quiet 11)

end MeteringBilling.Replay
