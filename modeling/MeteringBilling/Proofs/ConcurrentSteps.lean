import MeteringBilling.ConcurrentMetering
import MeteringBilling.Proofs.Serving

/-! What each step of concurrent metering does, said once. Every invariant is proved by cases
on this relation. -/

namespace MeteringBilling

variable {ι : Type} [DecidableEq ι]

namespace World

variable {world : World ι} {request : ι}

@[simp] theorem become_store (phase : Phase) : (world.become request phase).store = world.store := rfl

@[simp] theorem become_phase (phase : Phase) : (world.become request phase).phase request = phase :=
  Function.update_self ..

theorem become_other {other : ι} (different : other ≠ request) (phase : Phase) :
    (world.become request phase).phase other = world.phase other :=
  Function.update_of_ne different ..

end World

def admissionOf (incoming : ι → Incoming) (request : ι) (world : World ι) : Option (QuotaInfo × Int) :=
  (incoming request).call.record.admission? (incoming request).env.settings (incoming request).env.monthStart
    world.store.database

inductive Moves (incoming : ι → Incoming) : Action ι → World ι → World ι → Prop where
  | hit {world request cached} (phase : world.phase request = .arrived) :
      Moves incoming (.lookup request) world (world.become request (.finished (cachedToResponse cached)))
  | missed {world request} (phase : world.phase request = .arrived) :
      Moves incoming (.lookup request) world (world.become request .missed)
  | admitted {world request info cost} (phase : world.phase request = .missed)
      (admission : admissionOf incoming request world = some (info, cost)) :
      Moves incoming (.check request) world (world.become request (.admitted info cost))
  | refused {world request exc} (phase : world.phase request = .missed)
      (admission : admissionOf incoming request world = none) :
      Moves incoming (.check request) world (world.become request (.finished (.error exc)))
  | inserted {world request info cost} (phase : world.phase request = .admitted info cost)
      (unblocked : Unblocked request (rowOf incoming request cost) world)
      (storable : (rowOf incoming request cost).Storable)
      (tenant : world.store.database.hasTenant (incoming request).call.tenantId = true)
      (fits : world.store.database.usageEvents.Fits (rowOf incoming request cost)) :
      Moves incoming (.insert request) world (world.become request (.recorded (rowOf incoming request cost) info true))
  | conflicted {world request info cost event} (phase : world.phase request = .admitted info cost)
      (taken : world.store.database.eventOf? (incoming request).call.key = some event) :
      Moves incoming (.insert request) world (world.become request (.conflicted info))
  | rejected {world request info cost exc} (phase : world.phase request = .admitted info cost)
      (refused : ¬ (rowOf incoming request cost).Storable ∨
        world.store.database.eventOf? (incoming request).call.key = none) :
      Moves incoming (.insert request) world (world.become request (.finished (.error exc)))
  | found {world request info event} (phase : world.phase request = .conflicted info)
      (stored : world.store.database.eventOf? (incoming request).call.key = some event) :
      Moves incoming (.select request) world (world.become request (.recorded event info false))
  | lost {world request info exc} (phase : world.phase request = .conflicted info)
      (absent : world.store.database.eventOf? (incoming request).call.key = none) :
      Moves incoming (.select request) world (world.become request (.finished (.error exc)))
  | responded {world request event info fresh answered} (phase : world.phase request = .recorded event info fresh)
      (reached : answered = world.become request (.answered (responseOf incoming request event info) event fresh)) :
      Moves incoming (.respond request) world { answered with
        store := { world.store with
          redis := respondStep incoming request (responseOf incoming request event info) world } }
  | committed {world request response event finished} (phase : world.phase request = .answered response event true)
      (fits : world.store.database.usageEvents.Fits event)
      (reached : finished = world.become request (.finished (.ok response))) :
      Moves incoming (.commit request) world { finished with
        store := { world.store with database := { world.store.database with
          usageEvents := world.store.database.usageEvents.add event fits } } }
  | returned {world request response event} (phase : world.phase request = .answered response event false) :
      Moves incoming (.commit request) world (world.become request (.finished (.ok response)))
  | aborted {world request reply} (unfinished : (world.phase request).aborted = some reply) :
      Moves incoming (.abort request) world (world.become request (.finished reply))
  | evicted {world key} : Moves incoming (.evict key) world { world with
        store := { world.store with redis := Function.update world.store.redis key none } }
  | reconfigured {world tenants plans subscriptions} :
      Moves incoming (.reconfigure tenants plans subscriptions) world { world with
        store := { world.store with database := { world.store.database with tenants, plans, subscriptions } } }

section

variable {env : Env} {store : Store}

theorem answer_authorize (env : Env) (store : Store) (call : RecordCall) :
    match call.admission? env.settings env.monthStart store.database with
    | some admitted => store.answer env (MeterService.authorize call) = .ok admitted
    | none => ∃ exc, store.answer env (MeterService.authorize call) = .error exc := by
  have computed := authorize_quiet (Env.calm_quiet (env.retry 0)) rfl (show store.open.aborted = false from rfl) call
  change match call.admission? env.settings env.monthStart store.database with
    | some admitted => MeterService.authorize call (env.retry 0).calm store.open = (.ok admitted, store.open)
    | none => ∃ exc, MeterService.authorize call (env.retry 0).calm store.open = (.error exc, store.open) ∧
        isTransientError exc = false at computed
  cases admission : call.admission? env.settings env.monthStart store.database with
  | some admitted =>
    rw [admission] at computed
    exact congrArg Prod.fst computed
  | none =>
    rw [admission] at computed
    obtain ⟨exc, raised, _⟩ := computed
    exact ⟨exc, congrArg Prod.fst raised⟩

theorem answer_insert (event : UsageEvent) :
    store.answer env (statement .insertUsageEvent (Database.insertUsageEvent event)) =
      (Database.insertUsageEvent event store.database).map Prod.fst := by
  have ran := statement_quiet (Env.calm_quiet (env.retry 0)) (show store.open.aborted = false from rfl)
    .insertUsageEvent (Database.insertUsageEvent event)
  have opened : store.open.working = store.database := rfl
  rw [Store.answer, ran, opened]
  cases Database.insertUsageEvent event store.database <;> rfl

theorem answer_select (key : UsageKey) :
    store.answer env (do scalarOneOrNone (← query .selectUsageEvent (·.eventsOf key))) =
      .ok (store.database.eventOf? key) := by
  rw [Store.answer, Effect.bind_ok (query_quiet (Env.calm_quiet _) rfl _ _), eventsOf_eq, scalarOneOrNone_toList]
  rfl

end

variable {incoming : ι → Incoming} {world next : World ι} {request : ι}

omit [DecidableEq ι] in
theorem insertStep_cases (incoming : ι → Incoming) (world : World ι) (request : ι) (info : QuotaInfo) (cost : Int) :
    (∃ event, (rowOf incoming request cost).Storable ∧
      world.store.database.eventOf? (incoming request).call.key = some event ∧
      insertStep incoming request info cost world = .conflicted info) ∨
    ((rowOf incoming request cost).Storable ∧ world.store.database.eventOf? (incoming request).call.key = none ∧
      world.store.database.hasTenant (incoming request).call.tenantId = true ∧
      world.store.database.usageEvents.Fits (rowOf incoming request cost) ∧
      insertStep incoming request info cost world = .recorded (rowOf incoming request cost) info true) ∨
    ((¬ (rowOf incoming request cost).Storable ∨ world.store.database.eventOf? (incoming request).call.key = none ∧
      ¬ (world.store.database.hasTenant (incoming request).call.tenantId = true ∧
        world.store.database.usageEvents.Fits (rowOf incoming request cost))) ∧
      ∃ exc, insertStep incoming request info cost world = .finished (.error exc)) := by
  have taken := eventOf?_isSome world.store.database (rowOf incoming request cost)
  have key : (rowOf incoming request cost).key = (incoming request).call.key := rfl
  have tenant : (rowOf incoming request cost).tenantId = (incoming request).call.tenantId := rfl
  rw [key] at taken
  rw [insertStep, answer_insert, Database.insertUsageEvent, key, taken, tenant]
  by_cases storable : (rowOf incoming request cost).Storable
  case neg => exact Or.inr (Or.inr ⟨Or.inl storable, _, by rw [if_pos storable]; rfl⟩)
  rw [if_neg (not_not_intro storable)]
  cases stored : world.store.database.eventOf? (incoming request).call.key with
  | some event => exact Or.inl ⟨event, storable, rfl, rfl⟩
  | none =>
    cases known : world.store.database.hasTenant (incoming request).call.tenantId with
    | false => exact Or.inr (Or.inr ⟨Or.inr ⟨rfl, fun admits => Bool.noConfusion admits.1⟩, _, rfl⟩)
    | true =>
      by_cases fits : world.store.database.usageEvents.Fits (rowOf incoming request cost)
      · exact Or.inr (Or.inl ⟨storable, rfl, rfl, fits, by rw [Table.insert?_of_fits fits]; rfl⟩)
      · exact Or.inr (Or.inr ⟨Or.inr ⟨rfl, fun admits => fits admits.2⟩, _, by rw [Table.insert?_eq_none.mpr fits]; rfl⟩)

variable [Fintype ι]

omit [Fintype ι] in
theorem lookup_moves (phase : world.phase request = .arrived) :
    Moves incoming (.lookup request) world (world.become request (lookupStep incoming request world)) := by
  rw [lookupStep, Store.answer, checkIdempotencyKey, cacheGet]
  dsimp only
  split
  · next cached _ => exact .hit phase
  · exact .missed phase
  · next absurd => cases absurd

omit [Fintype ι] in
theorem check_moves (phase : world.phase request = .missed) :
    Moves incoming (.check request) world (world.become request (checkStep incoming request world)) := by
  have answer := answer_authorize (incoming request).env world.store (incoming request).call.record
  rw [checkStep]
  cases admission : admissionOf incoming request world with
  | some admitted =>
    rw [admissionOf] at admission
    rw [admission] at answer
    rw [answer]
    exact .admitted phase admission
  | none =>
    rw [admissionOf] at admission
    rw [admission] at answer
    obtain ⟨exc, answer⟩ := answer
    rw [answer]
    exact .refused phase admission

omit [Fintype ι] in
theorem insert_moves {info : QuotaInfo} {cost : Int} (phase : world.phase request = .admitted info cost)
    (unblocked : Unblocked request (rowOf incoming request cost) world) :
    Moves incoming (.insert request) world (world.become request (insertStep incoming request info cost world)) := by
  rcases insertStep_cases incoming world request info cost with
    ⟨event, _, stored, reached⟩ | ⟨storable, _, tenant, fits, reached⟩ | ⟨refused, exc, reached⟩
  · rw [reached]
    exact .conflicted phase stored
  · rw [reached]
    exact .inserted phase unblocked storable tenant fits
  · rw [reached]
    exact .rejected phase (refused.imp id And.left)

omit [Fintype ι] in
theorem select_moves {info : QuotaInfo} (phase : world.phase request = .conflicted info) :
    Moves incoming (.select request) world (world.become request (selectStep incoming request info world)) := by
  rw [selectStep, answer_select]
  cases stored : world.store.database.eventOf? (incoming request).call.key with
  | some event => exact .found phase stored
  | none => exact .lost phase stored

/-- Every step is one of the moves, with what its guard has established. -/
theorem step_moves {action : Action ι} (taken : (concurrent incoming).step action world = some next) :
    Moves incoming action world next := by
  cases action with
  | lookup request =>
    simp only [concurrent] at taken
    split at taken
    · next phase =>
      obtain rfl := Option.some.inj taken
      exact lookup_moves phase
    · cases taken
  | check request =>
    simp only [concurrent] at taken
    split at taken
    · next phase =>
      obtain rfl := Option.some.inj taken
      exact check_moves phase
    · cases taken
  | insert request =>
    simp only [concurrent] at taken
    split at taken
    · next phase =>
      split at taken
      · next unblocked =>
        obtain rfl := Option.some.inj taken
        exact insert_moves phase unblocked
      · cases taken
    · cases taken
  | select request =>
    simp only [concurrent] at taken
    split at taken
    · next phase =>
      obtain rfl := Option.some.inj taken
      exact select_moves phase
    · cases taken
  | respond request =>
    simp only [concurrent] at taken
    split at taken
    · next phase =>
      obtain rfl := Option.some.inj taken
      exact .responded phase rfl
    · cases taken
  | commit request =>
    simp only [concurrent] at taken
    split at taken
    · next event phase =>
      obtain ⟨usageEvents, added, rfl⟩ := Option.map_eq_some_iff.mp taken
      by_cases fits : world.store.database.usageEvents.Fits event
      · rw [Table.insert?_of_fits fits, Option.some.injEq] at added
        subst added
        exact .committed phase fits rfl
      · rw [Table.insert?_eq_none.mpr fits] at added
        cases added
    · next phase =>
      obtain rfl := Option.some.inj taken
      exact .returned phase
    · cases taken
  | abort request =>
    obtain ⟨reply, unfinished, rfl⟩ := Option.map_eq_some_iff.mp taken
    exact .aborted unfinished
  | evict key =>
    obtain rfl := Option.some.inj taken
    exact .evicted
  | reconfigure tenants plans subscriptions =>
    obtain rfl := Option.some.inj taken
    exact .reconfigured

theorem check_step {info : QuotaInfo} {cost : Int} (phase : world.phase request = .missed)
    (admission : admissionOf incoming request world = some (info, cost)) :
    (concurrent incoming).step (.check request) world = some (world.become request (.admitted info cost)) := by
  have answer := answer_authorize (incoming request).env world.store (incoming request).call.record
  rw [admissionOf] at admission
  rw [admission] at answer
  simp only [concurrent, phase, checkStep, answer]

theorem insert_step {info : QuotaInfo} {cost : Int} (phase : world.phase request = .admitted info cost)
    (unblocked : Unblocked request (rowOf incoming request cost) world) (storable : (rowOf incoming request cost).Storable)
    (tenant : world.store.database.hasTenant (incoming request).call.tenantId = true)
    (fits : world.store.database.usageEvents.Fits (rowOf incoming request cost)) :
    (concurrent incoming).step (.insert request) world =
      some (world.become request (.recorded (rowOf incoming request cost) info true)) := by
  have free := eventOf?_eq_none_of_fits fits
  have taken := eventOf?_isSome world.store.database (rowOf incoming request cost)
  have known : world.store.database.hasTenant (rowOf incoming request cost).tenantId = true := tenant
  rw [free] at taken
  have written : Database.insertUsageEvent (rowOf incoming request cost) world.store.database =
      .ok (some (rowOf incoming request cost),
        { world.store.database with usageEvents := world.store.database.usageEvents.add _ fits }) := by
    simp only [Database.insertUsageEvent, storable, not_true_eq_false, taken, Option.isSome_none, Bool.false_eq_true,
      if_false, known, Bool.not_true, Table.insert?_of_fits fits]
  simp only [concurrent, phase, if_pos unblocked, insertStep, answer_insert, written, Except.map]

def World.complete (incoming : ι → Incoming) (world : World ι) (request : ι) (info : QuotaInfo) (row : UsageEvent)
    (fits : world.store.database.usageEvents.Fits row) : World ι :=
  let response := responseOf incoming request row info
  { world.become request (.finished (.ok response)) with
    store := {
      database := { world.store.database with usageEvents := world.store.database.usageEvents.add row fits }
      redis := respondStep incoming request response world } }

theorem complete_run {info : QuotaInfo} {cost : Int} (phase : world.phase request = .admitted info cost)
    (unblocked : Unblocked request (rowOf incoming request cost) world) (storable : (rowOf incoming request cost).Storable)
    (tenant : world.store.database.hasTenant (incoming request).call.tenantId = true)
    (fits : world.store.database.usageEvents.Fits (rowOf incoming request cost)) :
    (concurrent incoming).run [.insert request, .respond request, .commit request] world =
      some (world.complete incoming request info (rowOf incoming request cost) fits) := by
  apply Machine.run_step (insert_step phase unblocked storable tenant fits)
  simp only [Machine.run_cons, Machine.run_nil, concurrent, World.become_phase, Option.bind_some,
    Table.insert?_of_fits fits, Option.map_some, World.become_store]
  simp only [World.complete, World.become, Function.update_idem, respondStep]

end MeteringBilling
