import MeteringBilling.Proofs.Isolation
import MeteringBilling.Proofs.PendingRows

/-! Requests of several tenants in flight at the same time. Whatever others do in between, the
requests of a tenant can take the same steps without them: they are not held up, they are answered
the same, and they leave the same rows. -/

namespace MeteringBilling.ConcurrentIsolation

open Effect Tenancy Isolation

variable {ι : Type} {incoming : ι → Incoming} {tenantId : UUID}

def owns (incoming : ι → Incoming) (tenantId : UUID) (request : ι) : Bool :=
  (incoming request).call.tenantId == tenantId

def drawn (incoming : ι → Incoming) (tenantId : UUID) (id : UUID) : Prop :=
  ∃ request, owns incoming tenantId request = true ∧ (incoming request).env.uuid4 0 .usageEvent = id

/-- The steps of a tenant: those of its requests, the losses of its keys, and what everyone shares. -/
def concerns (incoming : ι → Incoming) (tenantId : UUID) : Action ι → Bool
  | .lookup request | .check request | .insert request | .select request | .respond request | .commit request
  | .abort request => owns incoming tenantId request
  | .evict key => ownKey tenantId key
  | .reconfigure _ _ _ => true

/-- Nobody else draws an identifier of the tenant. -/
def Separate (incoming : ι → Incoming) (tenantId : UUID) : Prop :=
  ∀ request, owns incoming tenantId request = false → ¬ drawn incoming tenantId ((incoming request).env.uuid4 0 .usageEvent)

/-- The requests of the tenant are as far in one world as in the other, which looks the same to it
and in which nobody else has begun. -/
structure Alike (incoming : ι → Incoming) (tenantId : UUID) (world alone : World ι) : Prop where
  store : seesStore tenantId (drawn incoming tenantId) world.store = seesStore tenantId (drawn incoming tenantId) alone.store
  own : ∀ request, owns incoming tenantId request = true → world.phase request = alone.phase request
  idle : ∀ request, owns incoming tenantId request = false → alone.phase request = .arrived
  rows : OwnRows incoming world

variable {world next alone : World ι} {request : ι} {α : Type}

theorem authorize_respects {env : Env} {seen : UUID → Prop} {call : RecordCall} (own : call.tenantId = tenantId) :
    Respects (sees tenantId seen) env (MeterService.authorize call) := by
  subst own
  apply Respects.bind (checkQuota_respects _ _)
  intro answer
  obtain ⟨allowed, info⟩ := answer
  dsimp only
  split
  · exact .raise _
  · exact .bind (.ask _) fun _ => .bind (.ofExcept _) fun _ => .pure _

/-- What a part of a request returns on the committed tables depends on what the tenant sees. -/
theorem Alike.answer (alike : Alike incoming tenantId world alone) {env : Env} {program : Request α}
    (respects : Respects (sees tenantId (drawn incoming tenantId)) (env.retry 0).calm program) :
    world.store.answer env program = alone.store.answer env program := by
  obtain ⟨tables, redis⟩ := Prod.mk.inj alike.store
  refine (respects world.store.open alone.store.open ?_).1
  simp only [sees, Store.open, tables, redis]

variable [DecidableEq ι]

theorem Alike.become (alike : Alike incoming tenantId world alone) (own : owns incoming tenantId request = true)
    {phase : Phase} (rows : OwnRows incoming (world.become request phase)) :
    Alike incoming tenantId (world.become request phase) (alone.become request phase) where
  store := alike.store
  own other mine := by
    by_cases same : other = request
    · subst same
      rw [World.become_phase, World.become_phase]
    · rw [World.become_other same, World.become_other same]
      exact alike.own other mine
  idle other foreign := by
    have different : other ≠ request := by
      rintro rfl
      rw [own] at foreign
      cases foreign
    rw [World.become_other different]
    exact alike.idle other foreign
  rows := rows

theorem Alike.foreign (alike : Alike incoming tenantId world alone) (foreign : owns incoming tenantId request = false)
    {phase : Phase} (rows : OwnRows incoming (world.become request phase)) :
    Alike incoming tenantId (world.become request phase) alone where
  store := alike.store
  own other mine := by
    have different : other ≠ request := by
      rintro rfl
      rw [foreign] at mine
      cases mine
    rw [World.become_other different]
    exact alike.own other mine
  idle := alike.idle
  rows := rows

omit [DecidableEq ι] in
theorem respondStep_unseen (foreign : owns incoming tenantId request = false) (response : MeterResponse) (world : World ι) :
    ownRedis tenantId (respondStep incoming request response world) = ownRedis tenantId world.store.redis := by
  have unowned : ownKey tenantId (idempotencyCacheKey (incoming request).call.key) = false :=
    foreign_idempotency (beq_eq_false_iff_ne.mp foreign) rfl
  unfold respondStep storeIdempotencyResponse cacheSet
  dsimp only
  split
  · rw [ownRedis_update, unowned]
    rfl
  · rfl

variable [Fintype ι]

theorem foreign_step {action : Action ι} (separate : Separate incoming tenantId)
    (foreign : concerns incoming tenantId action = false) (alike : Alike incoming tenantId world alone)
    (taken : (concurrent incoming).step action world = some next) : Alike incoming tenantId next alone := by
  have moves := step_moves taken
  have rows := moves.ownRows alike.rows
  cases moves with
  | hit phase | missed phase => exact alike.foreign foreign rows
  | admitted phase admission | refused phase admission => exact alike.foreign foreign rows
  | inserted phase unblocked storable tenant fits => exact alike.foreign foreign rows
  | conflicted phase taken => exact alike.foreign foreign rows
  | rejected phase refused => exact alike.foreign foreign rows
  | found phase stored => exact alike.foreign foreign rows
  | lost phase absent => exact alike.foreign foreign rows
  | responded phase reached =>
    subst reached
    have after := alike.foreign foreign rows
    refine ⟨Eq.trans ?_ alike.store, after.own, after.idle, rows⟩
    exact congrArg (Prod.mk _) (respondStep_unseen foreign _ world)
  | @committed _ request response event _ phase fits reached =>
    subst reached
    obtain ⟨cost, rfl⟩ := alike.rows request event (by rw [phase]; rfl)
    have after := alike.foreign foreign rows
    refine ⟨Eq.trans ?_ alike.store, after.own, after.idle, rows⟩
    refine congrArg (Prod.mk · _) (tables_other (beq_eq_false_iff_ne.mp foreign) ?_ fits)
    exact separate request foreign
  | returned phase => exact alike.foreign foreign rows
  | aborted unfinished => exact alike.foreign foreign rows
  | evicted => exact ⟨(evicted_foreign foreign world.store).trans alike.store, alike.own, alike.idle, rows⟩
  | reconfigured => cases foreign

section

omit [DecidableEq ι] [Fintype ι]

variable (alike : Alike incoming tenantId world alone)

include alike

theorem respondStep_alike (response : MeterResponse) :
    ownRedis tenantId (respondStep incoming request response world) =
      ownRedis tenantId (respondStep incoming request response alone) := by
  have redis := (Prod.mk.inj alike.store).2
  unfold respondStep storeIdempotencyResponse cacheSet
  dsimp only
  split
  · simp only [Store.open, ownRedis_update, redis]
  · exact redis

variable (own : owns incoming tenantId request = true)

include own

theorem lookupStep_alike : lookupStep incoming request world = lookupStep incoming request alone := by
  have mine : ownKey tenantId (idempotencyCacheKey (incoming request).call.key) = true :=
    eq_of_beq own ▸ ownKey_idempotency (incoming request).call.key
  have same : world.store.answer (incoming request).env (checkIdempotencyKey (incoming request).call.key) =
      alone.store.answer (incoming request).env (checkIdempotencyKey (incoming request).call.key) :=
    alike.answer (cacheGet_respects mine)
  rw [lookupStep, lookupStep, same]

theorem checkStep_alike : checkStep incoming request world = checkStep incoming request alone := by
  have mine : (incoming request).call.record.tenantId = tenantId := eq_of_beq own
  have same : world.store.answer (incoming request).env (MeterService.authorize (incoming request).call.record) =
      alone.store.answer (incoming request).env (MeterService.authorize (incoming request).call.record) :=
    alike.answer (authorize_respects mine)
  rw [checkStep, checkStep, same]

theorem insertStep_alike (info : QuotaInfo) (cost : Int) :
    insertStep incoming request info cost world = insertStep incoming request info cost alone := by
  have mine : (rowOf incoming request cost).tenantId = tenantId := eq_of_beq own
  have known : drawn incoming tenantId (rowOf incoming request cost).id := ⟨request, own, rfl⟩
  have respects : Respects (sees tenantId (drawn incoming tenantId)) ((incoming request).env.retry 0).calm
      (statement .insertUsageEvent (Database.insertUsageEvent (rowOf incoming request cost))) :=
    statement_respects fun _ _ same => insertUsageEvent_alike same mine known
  have same := alike.answer respects
  rw [insertStep, insertStep, same]

theorem selectStep_alike (info : QuotaInfo) :
    selectStep incoming request info world = selectStep incoming request info alone := by
  have mine : (incoming request).call.key.tenantId = tenantId := eq_of_beq own
  have respects : Respects (sees tenantId (drawn incoming tenantId)) ((incoming request).env.retry 0).calm
      (do scalarOneOrNone (← query .selectUsageEvent (·.eventsOf (incoming request).call.key))) :=
    .bind (query_respects fun _ _ same => eventsOf_same same mine) fun _ => scalarOneOrNone_respects _
  have same := alike.answer respects
  rw [selectStep, selectStep, same]

end

omit [DecidableEq ι] [Fintype ι] in
theorem Alike.unblocked (alike : Alike incoming tenantId world alone) {row : UsageEvent}
    (unblocked : Unblocked request row world) : Unblocked request row alone := by
  intro other different held holding
  cases mine : owns incoming tenantId other with
  | true => exact unblocked other different held (by rw [alike.own other mine]; exact holding)
  | false =>
    rw [alike.idle other mine] at holding
    cases holding

/-- A step of the tenant can be taken in the other world too, and leads to the same phase. -/
theorem own_step {action : Action ι} (own : concerns incoming tenantId action = true)
    (alike : Alike incoming tenantId world alone) (taken : (concurrent incoming).step action world = some next) :
    ∃ after, (concurrent incoming).step action alone = some after ∧ Alike incoming tenantId next after := by
  have rows := (step_moves taken).ownRows alike.rows
  cases action with
  | lookup request =>
    simp only [concurrent] at taken ⊢
    rw [← alike.own request own, ← lookupStep_alike alike own]
    split at taken
    · next phase =>
      obtain rfl := Option.some.inj taken
      exact ⟨_, rfl, alike.become own rows⟩
    · cases taken
  | check request =>
    simp only [concurrent] at taken ⊢
    rw [← alike.own request own, ← checkStep_alike alike own]
    split at taken
    · next phase =>
      obtain rfl := Option.some.inj taken
      exact ⟨_, rfl, alike.become own rows⟩
    · cases taken
  | insert request =>
    simp only [concurrent] at taken ⊢
    rw [← alike.own request own]
    split at taken
    · next phase =>
      split at taken
      · next unblocked =>
        obtain rfl := Option.some.inj taken
        rw [if_pos (alike.unblocked unblocked), ← insertStep_alike alike own]
        exact ⟨_, rfl, alike.become own rows⟩
      · cases taken
    · cases taken
  | select request =>
    simp only [concurrent] at taken ⊢
    rw [← alike.own request own]
    split at taken
    · next phase =>
      obtain rfl := Option.some.inj taken
      rw [← selectStep_alike alike own]
      exact ⟨_, rfl, alike.become own rows⟩
    · cases taken
  | respond request =>
    simp only [concurrent] at taken ⊢
    rw [← alike.own request own]
    split at taken
    · next event info fresh phase =>
      obtain rfl := Option.some.inj taken
      refine ⟨_, rfl, ?_⟩
      have after := alike.become own rows
      have tables := (Prod.mk.inj alike.store).1
      exact ⟨congrArg₂ Prod.mk tables (respondStep_alike alike _), after.own, after.idle, rows⟩
    · cases taken
  | commit request =>
    simp only [concurrent] at taken ⊢
    rw [← alike.own request own]
    split at taken
    · next response event phase =>
      obtain ⟨usageEvents, added, rfl⟩ := Option.map_eq_some_iff.mp taken
      have after : Alike incoming tenantId (world.become request (.finished (.ok response)))
          (alone.become request (.finished (.ok response))) := alike.become own rows
      obtain ⟨tables, redis⟩ := Prod.mk.inj alike.store
      obtain ⟨cost, rfl⟩ := alike.rows request event (by rw [phase]; rfl)
      have mine : (rowOf incoming request cost).tenantId = tenantId := eq_of_beq own
      have known : drawn incoming tenantId (rowOf incoming request cost).id := ⟨request, own, rfl⟩
      by_cases fits : world.store.database.usageEvents.Fits (rowOf incoming request cost)
      · have also := (fits_same tables mine known).mp fits
        rw [Table.insert?_of_fits fits, Option.some.injEq] at added
        subst added
        rw [Table.insert?_of_fits also]
        refine ⟨_, rfl, congrArg₂ Prod.mk ?_ redis, after.own, after.idle, rows⟩
        dsimp only
        rw [tables_own mine fits, tables_own mine also, tables]
      · rw [Table.insert?_eq_none.mpr fits] at added
        cases added
    · next response event phase =>
      obtain rfl := Option.some.inj taken
      exact ⟨_, rfl, alike.become own rows⟩
    · cases taken
  | abort request =>
    obtain ⟨reply, unfinished, rfl⟩ := Option.map_eq_some_iff.mp taken
    simp only [concurrent]
    rw [← alike.own request own, unfinished]
    exact ⟨_, rfl, alike.become own rows⟩
  | evict key =>
    obtain rfl := Option.some.inj taken
    exact ⟨_, rfl, evicted_own alike.store key, alike.own, alike.idle, rows⟩
  | reconfigure tenants plans subscriptions =>
    obtain rfl := Option.some.inj taken
    obtain ⟨seen, redis⟩ := Prod.mk.inj alike.store
    obtain ⟨_, _, _, events, taken⟩ := TableView.mk.inj seen
    refine ⟨_, rfl, congrArg₂ Prod.mk ?_ redis, alike.own, alike.idle, rows⟩
    dsimp only [tables] at events taken ⊢
    rw [events, taken]

theorem run_alike {schedule : List (Action ι)} (separate : Separate incoming tenantId) {final : World ι}
    (alike : Alike incoming tenantId world alone) (ran : (concurrent incoming).run schedule world = some final) :
    ∃ after, (concurrent incoming).run (schedule.filter (concerns incoming tenantId)) alone = some after ∧
      Alike incoming tenantId final after := by
  induction schedule generalizing world alone with
  | nil =>
    obtain rfl := Option.some.inj ran
    exact ⟨alone, rfl, alike⟩
  | cons action schedule ih =>
    obtain ⟨next, taken, ran⟩ := Machine.run_cons_eq_some ran
    cases own : concerns incoming tenantId action with
    | true =>
      obtain ⟨after, follows, alike⟩ := own_step own alike taken
      obtain ⟨last, finished, alike⟩ := ih alike ran
      rw [List.filter_cons_of_pos own]
      exact ⟨last, Machine.run_step follows finished, alike⟩
    | false =>
      rw [List.filter_cons_of_neg (by simp [own])]
      exact ih (foreign_step separate own alike taken) ran

/-- Of any run of requests in flight, the steps that concern a tenant are a run too. Its requests
come as far in it, with the same replies, and its rows and its keys end up the same. -/
theorem others_unnoticed (separate : Separate incoming tenantId) (store : Store) {schedule : List (Action ι)} {final : World ι}
    (ran : (concurrent incoming).run schedule ⟨store, fun _ => .arrived⟩ = some final) :
    ∃ alone, (concurrent incoming).run (schedule.filter (concerns incoming tenantId)) ⟨store, fun _ => .arrived⟩ = some alone ∧
      (∀ request, owns incoming tenantId request = true → final.phase request = alone.phase request) ∧
      (∀ request, owns incoming tenantId request = false → alone.phase request = .arrived) ∧
      seesStore tenantId (drawn incoming tenantId) final.store = seesStore tenantId (drawn incoming tenantId) alone.store := by
  have start : Alike incoming tenantId ⟨store, fun _ => .arrived⟩ ⟨store, fun _ => .arrived⟩ :=
    ⟨rfl, fun _ _ => rfl, fun _ _ => rfl, .initial store rfl⟩
  obtain ⟨alone, reached, alike⟩ := run_alike separate start ran
  exact ⟨alone, reached, alike.own, alike.idle, alike.store⟩

def neighbour : Tenant := { Seed.tenant with id := .ofInt 3 }

def shared : Store := ⟨{ Seed.database with
  tenants := ⟨[Seed.tenant, neighbour], by decide⟩
  subscriptions := ⟨[Seed.subscription, { Seed.subscription with id := .ofInt 4, tenantId := neighbour.id }], by decide⟩ },
  fun _ => none⟩

def sameKey (first : Bool) : Incoming where
  env := Seed.env (if first then 11 else 12)
  call := { Seed.apiCall "key" with tenantId := if first then Seed.tenant.id else neighbour.id }

def interleaved : List (Action Bool) :=
  [.lookup true, .lookup false, .check true, .check false, .insert false, .insert true, .respond true, .respond false,
    .commit false, .commit true]

theorem sameKey_separate : Separate sameKey Seed.tenant.id := by
  intro request foreign known
  obtain ⟨other, own, same⟩ := known
  revert foreign own same
  cases request <;> cases other <;> decide

/-- The neighbour's call between its steps does not change how the tenant's call ends. -/
theorem neighbour_unnoticed : ∃ final alone,
    (concurrent sameKey).run interleaved ⟨shared, fun _ => .arrived⟩ = some final ∧
      (concurrent sameKey).run [.lookup true, .check true, .insert true, .respond true, .commit true]
        ⟨shared, fun _ => .arrived⟩ = some alone ∧ final.phase true = alone.phase true := by
  have defined : ((concurrent sameKey).run interleaved ⟨shared, fun _ => .arrived⟩).isSome = true := by decide
  obtain ⟨final, ran⟩ := Option.isSome_iff_exists.mp defined
  obtain ⟨alone, reached, same, _⟩ := others_unnoticed sameKey_separate shared ran
  exact ⟨final, alone, ran, reached, same true (by decide)⟩

end MeteringBilling.ConcurrentIsolation
