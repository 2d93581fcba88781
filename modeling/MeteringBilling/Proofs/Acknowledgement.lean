import MeteringBilling.Proofs.ConcurrentInvariant
import MeteringBilling.Seed

/-! A response in Redis names a committed event once the request that stored it is over. The
response is stored before the only commit, so this holds as long as no request loses its
transaction while Redis has its response. -/

namespace MeteringBilling.Acknowledgement

variable {ι : Type} {incoming : ι → Incoming} {world next : World ι} {request : ι}

def Names (value : Json) (event : UsageEvent) : Prop := value.get? "usage_event_id" = some (.str event.id.str)

/-- Every idempotency response in Redis names a committed event of its triple, unless the
request that stored it has not finished. -/
def Acknowledged (incoming : ι → Incoming) (world : World ι) : Prop :=
  ∀ key entry, world.store.redis (idempotencyCacheKey key) = some entry →
    (∃ event ∈ world.store.database.usageEvents, event.key = key ∧ Names entry.value event) ∨
    ∃ request response event fresh, world.phase request = .answered response event fresh ∧
      (incoming request).call.key = key ∧ entry.value = response.modelDump

/-- No request loses its inserted event while Redis holds a response that names it. -/
def KeepsAcknowledged (incoming : ι → Incoming) : Action ι → World ι → Prop
  | .abort request, world => ∀ response event, world.phase request = .answered response event true →
      ∀ entry, world.store.redis (idempotencyCacheKey (incoming request).call.key) = some entry →
        ¬ Names entry.value event
  | _, _ => True

theorem names_modelDump {response : MeterResponse} {event : UsageEvent} (same : response.usageEventId = event.id) :
    Names response.modelDump event := by
  rw [Names, ← same]
  rfl

theorem Names.id {first second : UsageEvent} {value : Json} (left : Names value first) (right : Names value second) :
    first.id = second.id :=
  UUID.str_injective (Json.str.inj (Option.some.inj (left.symm.trans right)))

theorem respondStep_eq (response : MeterResponse) :
    respondStep incoming request response world =
      if (incoming request).env.redisUp .set (idempotencyCacheKey (incoming request).call.key) then
        Function.update world.store.redis (idempotencyCacheKey (incoming request).call.key)
          (some ⟨response.modelDump, idempotencyTtlSeconds⟩)
      else world.store.redis := by
  rw [respondStep, storeIdempotencyResponse, cacheSet]
  dsimp only
  split <;> rfl

theorem respondStep_cases {response : MeterResponse} {key : UsageKey} {entry : CacheEntry}
    (held : respondStep incoming request response world (idempotencyCacheKey key) = some entry) :
    key = (incoming request).call.key ∧ entry.value = response.modelDump ∨
      world.store.redis (idempotencyCacheKey key) = some entry := by
  rw [respondStep_eq] at held
  split at held
  · by_cases same : key = (incoming request).call.key
    · subst same
      rw [Function.update_self] at held
      exact Or.inl ⟨rfl, by rw [← Option.some.inj held]⟩
    · rw [Function.update_of_ne (fun equal => same (idempotencyCacheKey_injective equal))] at held
      exact Or.inr held
  · exact Or.inr held

theorem pending_uncommitted (consistent : Consistent incoming world) {event stored : UsageEvent}
    (own : event ∈ (world.phase request).pending) (committed : stored ∈ world.store.database.usageEvents) :
    stored.key ≠ event.key :=
  fun same => consistent.fits request event own stored committed (Or.inr same)

variable [DecidableEq ι]

theorem Acknowledged.become (acknowledged : Acknowledged incoming world) {before after : Phase}
    (phase : world.phase request = before) (unanswered : ∀ response event fresh, before ≠ .answered response event fresh) :
    Acknowledged incoming (world.become request after) := by
  intro key entry held
  rcases acknowledged key entry held with committed | ⟨other, response, event, fresh, answered, own, stored⟩
  · exact Or.inl committed
  · have different : other ≠ request := by
      rintro rfl
      exact unanswered response event fresh (phase.symm.trans answered)
    exact Or.inr ⟨other, response, event, fresh, by rw [World.become_other different]; exact answered, own, stored⟩

theorem Acknowledged.finish (acknowledged : Acknowledged incoming world) {phase : Phase} {response : MeterResponse}
    {event : UsageEvent} {fresh : Bool} (answered : world.phase request = .answered response event fresh)
    (named : ∀ entry, world.store.redis (idempotencyCacheKey (incoming request).call.key) = some entry →
      entry.value = response.modelDump →
        ∃ event ∈ world.store.database.usageEvents, event.key = (incoming request).call.key ∧ Names entry.value event) :
    Acknowledged incoming (world.become request phase) := by
  intro key entry held
  rcases acknowledged key entry held with committed | ⟨other, response', event', fresh', answered', own, stored⟩
  · exact Or.inl committed
  · by_cases same : other = request
    · subst same own
      rw [answered] at answered'
      obtain ⟨rfl, rfl, rfl⟩ := Phase.answered.inj answered'
      exact Or.inl (named entry held stored)
    · exact Or.inr ⟨other, response', event', fresh', by rw [World.become_other same]; exact answered', own, stored⟩

/-- Losing an inserted event leaves a response without an event exactly if Redis holds one
that names it. -/
theorem abort_step (consistent : Consistent incoming world) (acknowledged : Acknowledged incoming world)
    {reply : Except PyError MeterResponse} (unfinished : (world.phase request).aborted = some reply) :
    Acknowledged incoming (world.become request (.finished reply)) ↔
      KeepsAcknowledged incoming (.abort request) world := by
  have remembers := consistent.remembers request
  constructor
  · intro after response event answered entry held named
    have own : event ∈ (world.phase request).pending := by rw [answered]; rfl
    rw [answered] at remembers
    rcases after _ entry held with ⟨stored, committed, key, _⟩ | ⟨other, response', event', fresh', answered', key, dump⟩
    · exact pending_uncommitted consistent own committed (key.trans remembers.1.symm)
    · have different : other ≠ request := by
        rintro rfl
        rw [World.become_phase] at answered'
        cases answered'
      rw [World.become_other different] at answered'
      have other_remembers := consistent.remembers other
      rw [answered'] at other_remembers
      have same : event'.key = event.key := (other_remembers.1.trans key).trans remembers.1.symm
      cases fresh' with
      | false => exact pending_uncommitted consistent own (other_remembers.2.2 rfl) same
      | true => exact consistent.separate request event own other different event' (by rw [answered']; rfl) (Or.inr same)
  · intro keeps
    by_cases answering : ∃ response event fresh, world.phase request = .answered response event fresh
    · obtain ⟨response, event, fresh, answered⟩ := answering
      rw [answered] at remembers
      apply acknowledged.finish answered
      intro entry held dump
      have named : Names entry.value event := by rw [dump]; exact names_modelDump remembers.2.1
      cases fresh with
      | true => exact (keeps response event answered entry held named).elim
      | false => exact ⟨event, remembers.2.2 rfl, remembers.1, named⟩
    · exact acknowledged.become rfl fun response event fresh answered => answering ⟨response, event, fresh, answered⟩

theorem Acknowledged.commit (acknowledged : Acknowledged incoming world) (consistent : Consistent incoming world)
    {response : MeterResponse} {event : UsageEvent} (phase : world.phase request = .answered response event true)
    (fits : world.store.database.usageEvents.Fits event) :
    Acknowledged incoming { world.become request (.finished (.ok response)) with
      store := { world.store with database := { world.store.database with
        usageEvents := world.store.database.usageEvents.add event fits } } } := by
  intro key entry held
  have remembers := consistent.remembers request
  rw [phase] at remembers
  have grown {stored : UsageEvent} (member : stored ∈ world.store.database.usageEvents) :
      stored ∈ world.store.database.usageEvents.add event fits :=
    Table.mem_rows.mpr (List.mem_append_left _ member)
  have own : event ∈ world.store.database.usageEvents.add event fits :=
    Table.mem_rows.mpr (List.mem_append_right _ (List.mem_singleton.mpr rfl))
  rcases acknowledged key entry held with ⟨stored, member, named⟩ | ⟨other, response', event', fresh', answered, same, dump⟩
  · exact Or.inl ⟨stored, grown member, named⟩
  · by_cases finishing : other = request
    · subst finishing
      rw [phase] at answered
      obtain ⟨rfl, rfl, rfl⟩ := Phase.answered.inj answered
      exact Or.inl ⟨event, own, remembers.1.trans same, by rw [dump]; exact names_modelDump remembers.2.1⟩
    · refine Or.inr ⟨other, response', event', fresh', ?_, same, dump⟩
      exact (World.become_other finishing _).trans answered

theorem acknowledged_step {action : Action ι} (consistent : Consistent incoming world)
    (acknowledged : Acknowledged incoming world) (moves : Moves incoming action world next) :
    Acknowledged incoming next ↔ KeepsAcknowledged incoming action world := by
  cases moves with
  | hit phase | missed phase =>
    exact iff_of_true (acknowledged.become phase (by simp)) trivial
  | admitted phase admission | refused phase admission =>
    exact iff_of_true (acknowledged.become phase (by simp)) trivial
  | inserted phase unblocked storable tenant fits =>
    exact iff_of_true (acknowledged.become phase (by simp)) trivial
  | conflicted phase taken =>
    exact iff_of_true (acknowledged.become phase (by simp)) trivial
  | rejected phase refused =>
    exact iff_of_true (acknowledged.become phase (by simp)) trivial
  | found phase stored =>
    exact iff_of_true (acknowledged.become phase (by simp)) trivial
  | lost phase absent =>
    exact iff_of_true (acknowledged.become phase (by simp)) trivial
  | @responded _ request event info fresh _ phase reached =>
    subst reached
    refine iff_of_true ?_ trivial
    intro key entry held
    rcases respondStep_cases held with ⟨rfl, dump⟩ | older
    · exact Or.inr ⟨request, _, event, fresh, World.become_phase _, rfl, dump⟩
    · exact acknowledged.become phase (by simp) key entry older
  | committed phase fits reached =>
    subst reached
    exact iff_of_true (acknowledged.commit consistent phase fits) trivial
  | @returned _ request response event phase =>
    refine iff_of_true ?_ trivial
    have remembers := consistent.remembers request
    rw [phase] at remembers
    exact acknowledged.finish phase fun entry _ dump =>
      ⟨event, remembers.2.2 rfl, remembers.1, by rw [dump]; exact names_modelDump remembers.2.1⟩
  | aborted unfinished => exact abort_step consistent acknowledged unfinished
  | @evicted _ evicted =>
    refine iff_of_true ?_ trivial
    intro key entry held
    by_cases same : idempotencyCacheKey key = evicted
    · simp only [same, Function.update_self] at held
      cases held
    · simp only [Function.update_of_ne same] at held
      exact acknowledged key entry held
  | reconfigured => exact iff_of_true acknowledged trivial

variable [Fintype ι]

/-- Over a whole run, from stores in which every cached response names a committed event. -/
theorem acknowledged_always_iff {store : Store} (start : Acknowledged incoming ⟨store, fun _ => .arrived⟩)
    (schedule : List (Action ι)) :
    (concurrent incoming).Always (Acknowledged incoming) schedule ⟨store, fun _ => .arrived⟩ ↔
      (concurrent incoming).Each (KeepsAcknowledged incoming) schedule ⟨store, fun _ => .arrived⟩ := by
  refine Machine.always_iff_each consistent_invariant ?_ (fun _ _ => trivial)
    (Consistent.initial store rfl fun _ => trivial) start
  intro action world next _ consistent acknowledged taken
  exact acknowledged_step consistent acknowledged (step_moves taken)

def lone : Unit → Incoming := fun _ => ⟨Seed.env 10, Seed.apiCall "key"⟩

def failedCommit : List (Action Unit) := [.lookup (), .check (), .insert (), .respond (), .abort ()]

theorem seeded_acknowledged : Acknowledged lone ⟨Seed.store, fun _ => .arrived⟩ := fun _ _ held => by cases held

theorem acknowledged_lost : Acknowledged lone ⟨Seed.store, fun _ => .arrived⟩ ∧
    ¬ (concurrent lone).Always (Acknowledged lone) failedCommit ⟨Seed.store, fun _ => .arrived⟩ := by
  refine ⟨seeded_acknowledged, fun always => ?_⟩
  have last := ((((always.2 _ rfl).2 _ rfl).2 _ rfl).2 _ rfl).2 _ rfl
  have held := last (lone ()).call.key ⟨_, 86400⟩ rfl
  rcases held with ⟨event, member, _⟩ | ⟨_, _, _, _, answered, _⟩
  · cases member
  · cases answered

theorem acknowledged_seeded : (concurrent lone).Always (Acknowledged lone) failedCommit ⟨Seed.store, fun _ => .arrived⟩ ↔
    (concurrent lone).Each (KeepsAcknowledged lone) failedCommit ⟨Seed.store, fun _ => .arrived⟩ :=
  acknowledged_always_iff seeded_acknowledged failedCommit

end MeteringBilling.Acknowledgement
