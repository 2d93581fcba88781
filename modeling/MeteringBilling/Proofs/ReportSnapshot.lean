import MeteringBilling.Proofs.ConcurrentSteps
import MeteringBilling.Proofs.ReportReads
import MeteringBilling.Seed

/-! A report that is read in three statements while other requests commit: what it is put together
from, and when that is one set of tables. -/

namespace MeteringBilling.ReportSnapshot

open Effect

variable {ι : Type} [DecidableEq ι] {incoming : ι → Incoming} {reader : Env} {tenantId : UUID} {store : Store}
  {report : UsageResponse}

def Sized (world : World ι) : Prop := ∀ request, ∀ event ∈ (world.phase request).pending, 0 < event.quantity

theorem Sized.become {world : World ι} (sized : Sized world) {request : ι} {phase : Phase}
    (positive : ∀ event ∈ phase.pending, 0 < event.quantity) : Sized (world.become request phase) := by
  intro other event member
  by_cases same : other = request
  · subst same
    rw [World.become_phase] at member
    exact positive event member
  · rw [World.become_other same] at member
    exact sized other event member

theorem moves_later {action : Action ι} {world next : World ι} (metering : action.Metering)
    (moves : Moves incoming action world next) (sized : Sized world) :
    Later world.store.database next.store.database ∧ Sized next := by
  have idle {request : ι} {phase : Phase} (none : phase.pending = none) : Sized (world.become request phase) :=
    sized.become (by simp [none])
  cases moves with
  | hit | missed | admitted | refused | conflicted | rejected | found | lost | returned | aborted =>
    exact ⟨.refl _, idle rfl⟩
  | @inserted _ request info cost phase unblocked storable tenant fits =>
    refine ⟨.refl _, sized.become ?_⟩
    intro event member
    obtain rfl := Option.some.inj member
    exact (incoming request).call.request.valid.1
  | @responded _ request event info fresh _ phase reached =>
    subst reached
    refine ⟨.refl _, (sized.become ?_ : Sized (world.become request _))⟩
    intro held member
    have own := sized request held
    rw [phase] at own
    cases fresh <;> exact own member
  | @committed _ request response event _ phase fits reached =>
    subst reached
    have own := sized request event
    rw [phase] at own
    refine ⟨⟨rfl, rfl, [event], rfl, ?_⟩, (idle rfl : Sized (world.become request _))⟩
    intro added member
    rw [List.mem_singleton.mp member]
    exact own rfl
  | evicted => exact ⟨.refl _, sized⟩
  | reconfigured => exact metering.elim

def Grown (before : Database) (desk : Desk ι) : Prop := Later before desk.world.store.database ∧ Sized desk.world

theorem quotasStep_eq : quotasStep reader tenantId store = match store.database.reportedPlan tenantId with
    | .ok plan => .planned (QuotaService.allQuotas plan
        (store.database.monthlyUsageBreakdown tenantId (quotaStart reader)))
    | .error message => .finished (.error (.http 404 (.str message) [])) := by
  have quiet := Env.calm_quiet (reader.retry 0)
  unfold quotasStep Store.answer
  cases planned : store.database.reportedPlan tenantId with
  | error message => rw [getAllQuotas_refused quiet (by exact rfl) (by exact planned)]
  | ok plan =>
    obtain ⟨subscription, active, stored⟩ := reportedPlan_ok.mp planned
    rw [getAllQuotas_quiet quiet (by exact rfl) (by exact active) (by exact stored)]
    rfl

theorem costStep_eq (quotas : QuotaService.AllQuotas) : costStep reader tenantId quotas store =
    .costed quotas (period reader) (store.database.monthlyCost tenantId (period reader).timestamp) := by
  unfold costStep Store.answer
  rw [bind_ok (now_apply _), UsageRepository.getMonthlyCost,
    bind_ok (query_quiet (Env.calm_quiet (reader.retry 0)) (by exact rfl) _ _)]
  rfl

theorem breakdownStep_eq (quotas : QuotaService.AllQuotas) (startOfMonth : DateTime) (cost : Int) :
    breakdownStep reader tenantId quotas startOfMonth cost store =
      match usageResponse reader.settings quotas startOfMonth cost
        (store.database.monthlyUsageBreakdown tenantId startOfMonth.timestamp) with
      | .ok report => (.ok (.response report), (reader.retry 0).reported tenantId report store.redis)
      | .error exc => (.error exc, store.redis) := by
  unfold breakdownStep finishReport
  rw [UsageRepository.getMonthlyUsageBreakdown,
    bind_ok (query_quiet (Env.calm_quiet (reader.retry 0)) (by exact rfl) _ _), bind_ok (ask_apply _ _ _)]
  have applied {reply : Except PyError UsageResponse} (built : usageResponse reader.settings quotas startOfMonth cost
      (store.database.monthlyUsageBreakdown tenantId startOfMonth.timestamp) = reply) :
      Effect.ofExcept (usageResponse (reader.retry 0).calm.settings quotas startOfMonth cost
        (store.open.working.monthlyUsageBreakdown tenantId startOfMonth.timestamp)) (reader.retry 0).calm store.open =
        (reply, store.open) := by
    subst built
    exact ofExcept_apply _ _ _
  cases built : usageResponse reader.settings quotas startOfMonth cost
      (store.database.monthlyUsageBreakdown tenantId startOfMonth.timestamp) with
  | error exc =>
    rw [bind_error (applied built)]
    rfl
  | ok report =>
    rw [bind_ok (applied built), bind_ok (now_apply _)]
    have stored : cacheSet (usageCacheKey tenantId ((reader.retry 0).calm.now (reader.retry 0).calm.attempt .usageCacheKey))
        report.modelDump usageCacheTtl (reader.retry 0).calm store.open =
          (.ok (), { store.open with redis := (reader.retry 0).reported tenantId report store.redis }) :=
      storeReport_apply report
    rw [bind_ok stored]
    rfl

section

variable [Fintype ι] {schedule : List (ReportAction ι)} {action : ReportAction ι} {desk next start final : Desk ι}

theorem grown_invariant (before : Database) :
    (reporting reader tenantId incoming).Invariant ReportAction.Metering (Grown before) := by
  intro action desk next metering grown taken
  cases action with
  | meter action =>
    obtain ⟨world, moved, rfl⟩ := Option.map_eq_some_iff.mp taken
    obtain ⟨later, sized⟩ := moves_later metering (step_moves moved) grown.2
    exact ⟨grown.1.trans later, sized⟩
  | quotas =>
    simp only [reporting] at taken
    split at taken
    · obtain rfl := Option.some.inj taken
      exact grown
    · cases taken
  | cost =>
    simp only [reporting] at taken
    split at taken
    · obtain rfl := Option.some.inj taken
      exact grown
    · cases taken
  | breakdown =>
    simp only [reporting] at taken
    split at taken
    · obtain rfl := Option.some.inj taken
      exact grown
    · cases taken

theorem leaves_missed (taken : (reporting reader tenantId incoming).step action desk = some next)
    (missed : desk.progress = .missed) (left : next.progress ≠ .missed) :
    action = .quotas ∧ next = { desk with progress := quotasStep reader tenantId desk.world.store } := by
  cases action with
  | meter action =>
    obtain ⟨world, _, rfl⟩ := Option.map_eq_some_iff.mp taken
    exact (left missed).elim
  | quotas =>
    simp only [reporting, missed, Option.some.injEq] at taken
    exact ⟨rfl, taken.symm⟩
  | cost | breakdown =>
    simp only [reporting, missed] at taken
    cases taken

theorem leaves_planned {quotas : QuotaService.AllQuotas}
    (taken : (reporting reader tenantId incoming).step action desk = some next)
    (planned : desk.progress = .planned quotas) (left : next.progress ≠ .planned quotas) :
    action = .cost ∧ next = { desk with progress := costStep reader tenantId quotas desk.world.store } := by
  cases action with
  | meter action =>
    obtain ⟨world, _, rfl⟩ := Option.map_eq_some_iff.mp taken
    exact (left planned).elim
  | cost =>
    simp only [reporting, planned, Option.some.injEq] at taken
    exact ⟨rfl, taken.symm⟩
  | quotas | breakdown =>
    simp only [reporting, planned] at taken
    cases taken

theorem leaves_costed {quotas : QuotaService.AllQuotas} {startOfMonth : DateTime} {cost : Int}
    (taken : (reporting reader tenantId incoming).step action desk = some next)
    (costed : desk.progress = .costed quotas startOfMonth cost) (left : next.progress ≠ .costed quotas startOfMonth cost) :
    action = .breakdown ∧ next.progress =
      .finished (breakdownStep reader tenantId quotas startOfMonth cost desk.world.store).1 := by
  cases action with
  | meter action =>
    obtain ⟨world, _, rfl⟩ := Option.map_eq_some_iff.mp taken
    exact (left costed).elim
  | breakdown =>
    simp only [reporting, costed, Option.some.injEq] at taken
    subst taken
    exact ⟨rfl, rfl⟩
  | quotas | cost =>
    simp only [reporting, costed] at taken
    cases taken

theorem finished_invariant (reply : Except PyError UsageReply) :
    (reporting reader tenantId incoming).Invariant (fun _ => True) fun desk => desk.progress = .finished reply := by
  intro action desk next _ finished taken
  cases action with
  | meter action =>
    obtain ⟨world, _, rfl⟩ := Option.map_eq_some_iff.mp taken
    exact finished
  | quotas | cost | breakdown =>
    simp only [reporting, finished] at taken
    cases taken

/-- A report that nobody interrupts is the endpoint, served on a session of its own. -/
theorem report_alone {world : World ι} (quiet : reader.Quiet) (initial : reader.attempt = 0)
    (missed : reader.cachedReport? tenantId world.store.redis = none) :
    ∃ schedule final, (reporting reader tenantId incoming).run schedule ⟨world, .missed⟩ = some final ∧
      final.progress = .finished (serve (getUsage tenantId) reader world.store).1 ∧
      final.world.store = (serve (getUsage tenantId) reader world.store).2 := by
  have attempt : reader.retry 0 = reader := by rw [Env.retry, ← initial]
  rcases ran : getUsage tenantId reader world.store.open with ⟨reply, session⟩
  have after : (serve (getUsage tenantId) reader world.store).2 = ⟨world.store.database, session.redis⟩ := by
    rw [← serve_redis ran, ← (reported_cases tenantId reader world.store).1]
  rw [(serve_database ran).1, after]
  rw [getUsage_quiet quiet (by exact rfl) (by exact missed)] at ran
  change (match world.store.database.usageReport reader tenantId with
    | .ok report => (Except.ok (UsageReply.response report),
        { world.store.open with redis := reader.reported tenantId report world.store.redis })
    | .error exc => (.error exc, world.store.open)) = _ at ran
  rw [Database.usageReport] at ran
  cases planned : world.store.database.reportedPlan tenantId with
  | error message =>
    rw [planned] at ran
    obtain ⟨rfl, rfl⟩ := Prod.mk.inj ran
    refine ⟨[.quotas], ⟨world, _⟩, rfl, ?_, rfl⟩
    rw [quotasStep_eq, planned]
  | ok plan =>
    rw [planned] at ran
    dsimp only at ran
    rw [initial, Database.rollup] at ran
    have computed : breakdownStep reader tenantId (QuotaService.allQuotas plan
        (world.store.database.monthlyUsageBreakdown tenantId (quotaStart reader))) (period reader)
        (world.store.database.monthlyCost tenantId (period reader).timestamp) world.store = (reply, session.redis) := by
      rw [breakdownStep_eq, attempt]
      unfold quotaStart period
      generalize usageResponse _ _ _ _ _ = response at ran ⊢
      cases response with
      | error exc =>
        obtain ⟨rfl, rfl⟩ := Prod.mk.inj ran
        rfl
      | ok report =>
        obtain ⟨rfl, rfl⟩ := Prod.mk.inj ran
        rfl
    refine ⟨[.quotas, .cost, .breakdown],
      ⟨{ world with store := ⟨world.store.database, session.redis⟩ }, .finished reply⟩, ?_, rfl, rfl⟩
    simp only [Machine.run_cons, Machine.run_nil, reporting, quotasStep_eq, planned, Option.bind_some, costStep_eq, computed]

/-- The desks at which a run makes the three reads. -/
def ReadsAt (reader : Env) (tenantId : UUID) (incoming : ι → Incoming) (schedule : List (ReportAction ι))
    (start first second third : Desk ι) : Prop :=
  ∃ before between later rest, schedule = before ++ .quotas :: (between ++ .cost :: (later ++ .breakdown :: rest)) ∧
    (reporting reader tenantId incoming).run before start = some first ∧
    (reporting reader tenantId incoming).run (before ++ .quotas :: between) start = some second ∧
    (reporting reader tenantId incoming).run (before ++ .quotas :: (between ++ .cost :: later)) start = some third

/-- The committed tables at some moment of a run. -/
def Visits (reader : Env) (tenantId : UUID) (incoming : ι → Incoming) (schedule : List (ReportAction ι)) (start : Desk ι)
    (database : Database) : Prop :=
  ∃ before rest desk, schedule = before ++ rest ∧ (reporting reader tenantId incoming).run before start = some desk ∧
    desk.world.store.database = database

theorem reads_of_report (ran : (reporting reader tenantId incoming).run schedule start = some final)
    (missed : start.progress = .missed) (answered : final.progress = .finished (.ok (.response report))) :
    ∃ first second third, ReadsAt reader tenantId incoming schedule start first second third ∧
      Assembled reader tenantId report first.world.store.database second.world.store.database
        third.world.store.database := by
  have settled {reply : Except PyError UsageReply} {rest : List (ReportAction ι)} {desk : Desk ι}
      (finished : desk.progress = .finished reply) (went : (reporting reader tenantId incoming).run rest desk = some final) :
      reply = .ok (.response report) := by
    have kept := (finished_invariant reply).run (fun _ _ => trivial) finished went
    rw [answered] at kept
    exact (Progress.finished.inj kept).symm
  obtain ⟨before, _, rest, first, _, rfl, reached, waiting, taken, left, went⟩ :=
    @Machine.run_leaves _ _ _ (fun desk => desk.progress = .missed) _ _ _ ran missed (by rw [answered]; exact nofun)
  obtain ⟨rfl, rfl⟩ := leaves_missed taken waiting left
  cases planned : first.world.store.database.reportedPlan tenantId with
  | error message =>
    have refused := @settled (.error (.http 404 (.str message) [])) _ _ (by rw [quotasStep_eq, planned]) went
    cases refused
  | ok plan =>
    obtain ⟨quotas, counted, begun⟩ : ∃ quotas, QuotaService.allQuotas plan
        (first.world.store.database.monthlyUsageBreakdown tenantId (quotaStart reader)) = quotas ∧
        quotasStep reader tenantId first.world.store = .planned quotas := ⟨_, rfl, by rw [quotasStep_eq, planned]⟩
    rw [begun] at went taken
    obtain ⟨between, _, rest, second, _, rfl, onward, waiting, next, left, went⟩ :=
      @Machine.run_leaves _ _ _ (fun desk => desk.progress = .planned quotas) _ _ _ went rfl (by rw [answered]; exact nofun)
    obtain ⟨rfl, rfl⟩ := leaves_planned next waiting left
    rw [costStep_eq] at went next
    obtain ⟨later, _, rest, third, _, rfl, further, waiting, last, left, ended⟩ :=
      @Machine.run_leaves _ _ _ (fun desk => desk.progress = .costed quotas (period reader)
        (second.world.store.database.monthlyCost tenantId (period reader).timestamp)) _ _ _ went rfl
        (by rw [answered]; exact nofun)
    obtain ⟨rfl, reply⟩ := leaves_costed last waiting left
    have built := settled reply ended
    rw [breakdownStep_eq, ← counted] at built
    refine ⟨first, second, third, ⟨before, between, later, rest, rfl, reached, ?_, ?_⟩, plan, planned, ?_⟩
    · exact Machine.run_trans reached (Machine.run_step taken onward)
    · exact Machine.run_trans reached (Machine.run_step taken (Machine.run_trans onward (Machine.run_step next further)))
    · generalize usageResponse _ _ _ _ _ = response at built ⊢
      cases response with
      | error exc => cases built
      | ok other => exact congrArg Except.ok (UsageReply.response.inj (Except.ok.inj built))

theorem later_of_run {before rest : List (ReportAction ι)} {middle : Desk ι}
    (metering : ∀ action ∈ before ++ rest, action.Metering) (sized : Sized start.world)
    (reached : (reporting reader tenantId incoming).run before start = some middle)
    (went : (reporting reader tenantId incoming).run (before ++ rest) start = some final) :
    Later middle.world.store.database final.world.store.database := by
  have grown := (grown_invariant start.world.store.database).run
    (fun action member => metering action (List.mem_append_left _ member)) ⟨.refl _, sized⟩ reached
  rw [Machine.run_append, reached] at went
  exact ((grown_invariant middle.world.store.database).run
    (fun action member => metering action (List.mem_append_right _ member)) ⟨.refl _, grown.2⟩ went).1

section

variable {first second third : Desk ι} (metering : ∀ action ∈ schedule, action.Metering) (sized : Sized start.world)

include metering sized

theorem ReadsAt.later (reads : ReadsAt reader tenantId incoming schedule start first second third) :
    Later first.world.store.database second.world.store.database ∧
      Later second.world.store.database third.world.store.database := by
  obtain ⟨before, between, later, rest, rfl, reached, onward, further⟩ := reads
  constructor
  · refine @later_of_run _ _ _ _ _ _ _ _ before (.quotas :: between) _ ?_ sized reached onward
    intro action member
    apply metering action
    simp only [List.mem_append, List.mem_cons] at member ⊢
    tauto
  · refine @later_of_run _ _ _ _ _ _ _ _ (before ++ .quotas :: between) (.cost :: later) _ ?_ sized onward ?_
    · intro action member
      apply metering action
      simp only [List.mem_append, List.mem_cons] at member ⊢
      tauto
    · rw [List.append_assoc, List.cons_append]
      exact further

theorem Visits.later {database : Database} (visits : Visits reader tenantId incoming schedule start database)
    (reads : ReadsAt reader tenantId incoming schedule start first second third) :
    Later first.world.store.database database ∨ Later database first.world.store.database := by
  obtain ⟨before, between, later, rest, rfl, reached, _⟩ := reads
  obtain ⟨ahead, remaining, desk, split, arrived, rfl⟩ := visits
  rcases List.prefix_or_prefix_of_prefix (List.prefix_append before _) (split ▸ List.prefix_append ahead remaining) with
    ⟨more, rfl⟩ | ⟨more, rfl⟩
  · left
    refine later_of_run ?_ sized reached arrived
    exact fun action member => metering action (split ▸ List.mem_append_left _ member)
  · right
    refine later_of_run ?_ sized arrived reached
    exact fun action member => metering action (List.mem_append_left _ member)

end

/-- Whatever others commit meanwhile, a report is put together from three committed sets of
tables, each with all the events of the one before it. With both clock readings in one month it is
the report of one set exactly if the reads were not disturbed. -/
theorem report_snapshot_iff (metering : ∀ action ∈ schedule, action.Metering)
    (ran : (reporting reader tenantId incoming).run schedule ⟨⟨store, fun _ => .arrived⟩, .missed⟩ = some final)
    (answered : final.progress = .finished (.ok (.response report))) :
    ∃ first second third, ReadsAt reader tenantId incoming schedule ⟨⟨store, fun _ => .arrived⟩, .missed⟩ first second third ∧
      Later first.world.store.database second.world.store.database ∧
      Later second.world.store.database third.world.store.database ∧
      Assembled reader tenantId report first.world.store.database second.world.store.database
        third.world.store.database ∧
      ((reader.now 0 .getAllQuotas).SameMonth (reader.now 0 .usagePeriod) →
        ((∃ database, Visits reader tenantId incoming schedule ⟨⟨store, fun _ => .arrived⟩, .missed⟩ database ∧
            Snapshot reader tenantId report database) ↔
          Undisturbed tenantId (period reader).timestamp first.world.store.database second.world.store.database
            third.world.store.database)) := by
  have sized : Sized (⟨store, fun _ => .arrived⟩ : World ι) := fun _ _ member => by cases member
  obtain ⟨first, second, third, reads, assembled⟩ := reads_of_report ran rfl answered
  obtain ⟨toSecond, toThird⟩ := ReadsAt.later metering sized reads
  refine ⟨first, second, third, reads, toSecond, toThird, assembled, ?_⟩
  intro within
  constructor
  · intro ⟨_, visited, snapshot⟩
    exact undisturbed_of_snapshot within assembled (toSecond.trans toThird) (Visits.later metering sized visited reads)
      snapshot
  · intro undisturbed
    obtain ⟨before, between, later, rest, rfl, reached, _⟩ := reads
    exact ⟨_, ⟨before, _, first, rfl, reached, rfl⟩, snapshot_of_undisturbed within assembled undisturbed⟩

end

theorem Snapshot.tokens {database : Database} (snapshot : Snapshot reader tenantId report database) :
    ∃ breakdown, report.aiTokens.breakdown = some breakdown ∧
      breakdown.inputTokens + breakdown.cachedInputTokens + breakdown.outputTokens = report.aiTokens.used := by
  obtain ⟨plan, time, _, rolled⟩ := snapshot
  obtain ⟨_, _, _, _, shows⟩ := usageResponse_ok rolled
  obtain ⟨breakdown, shown, sum⟩ := shown_tokens shows
  refine ⟨breakdown, shown, sum.trans ?_⟩
  rw [shows.tokensUsed, allQuotas_tokens]
  rfl

def posting (_ : Unit) : Incoming := ⟨Seed.env 20, ⟨Seed.tenant.id, "key", ⟨.inputTokens, 5, by decide⟩, none, none⟩⟩

def torn : List (ReportAction Unit) :=
  [.meter (.lookup ()), .meter (.check ()), .meter (.insert ()), .meter (.respond ()), .quotas, .meter (.commit ()),
    .cost, .breakdown]

theorem torn_metering : ∀ action ∈ torn, action.Metering := by
  intro action member
  simp only [torn, List.mem_cons, List.not_mem_nil, or_false] at member
  rcases member with rfl | rfl | rfl | rfl | rfl | rfl | rfl | rfl <;> trivial

def answer? (desk : Desk Unit) : Option UsageResponse :=
  match desk.progress with
  | .finished (.ok (.response report)) => some report
  | _ => none

theorem torn_answered : ∃ final report,
    (reporting (Seed.env 30) Seed.tenant.id posting).run torn ⟨⟨Seed.store, fun _ => .arrived⟩, .missed⟩ = some final ∧
      final.progress = .finished (.ok (.response report)) ∧ report.aiTokens.used = 0 ∧
      ∃ breakdown, report.aiTokens.breakdown = some breakdown ∧
        breakdown.inputTokens + breakdown.cachedInputTokens + breakdown.outputTokens = 5 := by
  have shown : (((reporting (Seed.env 30) Seed.tenant.id posting).run torn
      ⟨⟨Seed.store, fun _ => .arrived⟩, .missed⟩).bind answer?).map (fun report => (report.aiTokens.used,
        report.aiTokens.breakdown.map fun breakdown =>
          breakdown.inputTokens + breakdown.cachedInputTokens + breakdown.outputTokens)) = some (0, some 5) := by
    decide
  obtain ⟨report, answered, numbers⟩ := Option.map_eq_some_iff.mp shown
  obtain ⟨final, ran, answered⟩ := Option.bind_eq_some_iff.mp answered
  obtain ⟨used, tokens⟩ := Prod.mk.inj numbers
  obtain ⟨breakdown, listed, sum⟩ := Option.map_eq_some_iff.mp tokens
  refine ⟨final, report, ran, ?_, used, breakdown, listed, sum⟩
  unfold answer? at answered
  split at answered
  · next same => rw [same, Option.some.inj answered]
  · cases answered

/-- The quotas have none of the five tokens and the breakdown has them all, which no tables show. -/
theorem torn_report : (∀ action ∈ torn, action.Metering) ∧ ∃ final report,
    (reporting (Seed.env 30) Seed.tenant.id posting).run torn ⟨⟨Seed.store, fun _ => .arrived⟩, .missed⟩ = some final ∧
      final.progress = .finished (.ok (.response report)) ∧
      ∀ database, ¬ Snapshot (Seed.env 30) Seed.tenant.id report database := by
  refine ⟨torn_metering, ?_⟩
  obtain ⟨final, report, ran, answered, used, breakdown, listed, sum⟩ := torn_answered
  refine ⟨final, report, ran, answered, ?_⟩
  intro database snapshot
  obtain ⟨other, also, tokens⟩ := snapshot.tokens
  obtain rfl := Option.some.inj (listed.symm.trans also)
  omega

theorem torn_snapshot_iff : ∃ report, ∃ first second third : Desk Unit, ReadsAt (Seed.env 30) Seed.tenant.id posting torn
      ⟨⟨Seed.store, fun _ => .arrived⟩, .missed⟩ first second third ∧
    ((∃ database, Visits (Seed.env 30) Seed.tenant.id posting torn ⟨⟨Seed.store, fun _ => .arrived⟩, .missed⟩ database ∧
        Snapshot (Seed.env 30) Seed.tenant.id report database) ↔
      Undisturbed Seed.tenant.id (period (Seed.env 30)).timestamp first.world.store.database second.world.store.database
        third.world.store.database) := by
  obtain ⟨final, report, ran, answered, _⟩ := torn_answered
  obtain ⟨first, second, third, reads, _, _, _, exactly⟩ := report_snapshot_iff torn_metering ran answered
  exact ⟨report, first, second, third, reads, exactly ⟨rfl, rfl⟩⟩

end MeteringBilling.ReportSnapshot
