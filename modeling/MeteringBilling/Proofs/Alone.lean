import MeteringBilling.Proofs.ConcurrentInvariant
import MeteringBilling.Proofs.Endpoint

/-! A request that nobody interrupts: the steps of concurrent metering, taken one after the
other, are the endpoint served on a session of its own. -/

namespace MeteringBilling

open Effect

variable {ι : Type} [DecidableEq ι] {incoming : ι → Incoming} {world : World ι} {request : ι}

structure Served {ι : Type} (request : ι) (result : Except PyError MeterResponse × Store) (final : World ι) : Prop where
  store : final.store = result.2
  reply : ∃ reply, final.phase request = .finished reply ∧ reply.toOption = result.1.toOption

private theorem answer_lookup (call : MeterCall) (env : Env) (store : Store) :
    store.answer env (checkIdempotencyKey call.key) = .ok (call.cached? env store.redis) := rfl

omit [DecidableEq ι] in
theorem respondStep_stored (response : MeterResponse) :
    respondStep incoming request response world =
      (incoming request).call.stored (incoming request).env world.store.redis response := by
  rw [respondStep, storeIdempotencyResponse_apply]
  rfl

section

variable [Fintype ι]

private theorem lookup_miss (arrived : world.phase request = .arrived)
    (miss : (incoming request).call.cached? (incoming request).env world.store.redis = none) :
    (concurrent incoming).step (.lookup request) world = some (world.become request .missed) := by
  simp only [concurrent, arrived, lookupStep, answer_lookup, miss]

private theorem lookup_hit (arrived : world.phase request = .arrived) {cached : Json}
    (hit : (incoming request).call.cached? (incoming request).env world.store.redis = some cached) :
    (concurrent incoming).step (.lookup request) world =
      some (world.become request (.finished (cachedToResponse cached))) := by
  simp only [concurrent, arrived, lookupStep, answer_lookup, hit]

private theorem check_refused (missed : world.phase request = .missed)
    (refused : admissionOf incoming request world = none) :
    ∃ exc, (concurrent incoming).step (.check request) world = some (world.become request (.finished (.error exc))) := by
  have answer := answer_authorize (incoming request).env world.store (incoming request).call.record
  rw [admissionOf] at refused
  rw [refused] at answer
  obtain ⟨exc, answer⟩ := answer
  exact ⟨meterError exc, by simp only [concurrent, missed, checkStep, answer]⟩

private theorem found_run {info : QuotaInfo} {event : UsageEvent} (conflicted : world.phase request = .conflicted info)
    (stored : world.store.database.eventOf? (incoming request).call.key = some event) :
    ∃ final, (concurrent incoming).run [.select request, .respond request, .commit request] world = some final ∧
      Served request (.ok ((incoming request).call.responseTo event info), ⟨world.store.database,
        (incoming request).call.stored (incoming request).env world.store.redis
          ((incoming request).call.responseTo event info)⟩) final := by
  let response := responseOf incoming request event info
  let final : World ι := { world.become request (.finished (.ok response)) with
    store := { world.store with redis := respondStep incoming request response world } }
  refine ⟨final, ?_, congrArg (Store.mk world.store.database) (respondStep_stored response), .ok response,
    World.become_phase _, rfl⟩
  simp only [Machine.run_cons, Machine.run_nil, concurrent, conflicted, selectStep, answer_select, stored,
    Option.bind_some, World.become, Function.update_self, Function.update_idem]
  rfl

private theorem insert_unblocked {info : QuotaInfo} {cost : Int} (phase : world.phase request = .admitted info cost)
    (unblocked : Unblocked request (rowOf incoming request cost) world) :
    (concurrent incoming).step (.insert request) world =
      some (world.become request (insertStep incoming request info cost world)) := by
  simp only [concurrent, phase, if_pos unblocked]

private theorem admitted_run {info : QuotaInfo} {cost : Int} (phase : world.phase request = .admitted info cost)
    (unblocked : Unblocked request (rowOf incoming request cost) world) :
    match world.store.database.recordAdmitted (incoming request).env (incoming request).call.record cost with
    | some (event, after) => ∃ schedule final, (concurrent incoming).run schedule world = some final ∧
        Served request (.ok ((incoming request).call.responseTo event info), ⟨after,
          (incoming request).call.stored (incoming request).env world.store.redis
            ((incoming request).call.responseTo event info)⟩) final
    | none => ∀ exc, ∃ schedule final, (concurrent incoming).run schedule world = some final ∧
        Served request (.error exc, world.store) final := by
  have inserting := insert_unblocked phase unblocked
  rcases insertStep_cases incoming world request info cost with
    ⟨event, storable, stored, reached⟩ | ⟨storable, _, tenant, fits, _⟩ | ⟨refused, error, reached⟩
  · have taken : world.store.database.eventOf? (incoming request).call.record.key = some event := stored
    have fresh : ((incoming request).call.record.fresh (incoming request).env cost).Storable := storable
    simp only [Database.recordAdmitted, fresh, not_true_eq_false, if_false, taken]
    rw [reached] at inserting
    have conflicted : (world.become request (.conflicted info)).phase request = .conflicted info := World.become_phase _
    obtain ⟨final, ran, ended⟩ := found_run conflicted stored
    exact ⟨_, final, Machine.run_step inserting ran, ended⟩
  · have recorded := recordAdmitted_of_fits (incoming request).env (incoming request).call.record storable tenant fits
    rw [recorded]
    refine ⟨_, _, complete_run phase unblocked storable tenant fits, ?_, _, World.become_phase _, rfl⟩
    exact congrArg (Store.mk _) (respondStep_stored _)
  · cases recorded : world.store.database.recordAdmitted (incoming request).env (incoming request).call.record cost with
    | some result =>
      obtain ⟨free, refused⟩ := refused.resolve_left (not_not_intro (recordAdmitted_storable recorded))
      rcases recordAdmitted_cases recorded with ⟨stored, _⟩ | ⟨_, tenant, _, fits, _⟩
      · have taken : world.store.database.eventOf? (incoming request).call.key = some result.1 := stored
        rw [free] at taken
        cases taken
      · exact (refused ⟨tenant, fits⟩).elim
    | none =>
      intro exc
      rw [reached] at inserting
      exact ⟨_, _, Machine.run_step inserting (Machine.run_nil _), rfl, _, World.become_phase _, rfl⟩

/-- Whatever the stores hold, some run of the request's own steps ends as serving it does. -/
theorem serve_run (quiet : (incoming request).env.Quiet) (arrived : world.phase request = .arrived)
    (idle : ∀ other, (world.phase other).pending = none) :
    ∃ schedule final, (concurrent incoming).run schedule world = some final ∧
      Served request (serve (recordUsage (incoming request).call) (incoming request).env world.store) final := by
  cases looked : (incoming request).call.cached? (incoming request).env world.store.redis with
  | some cached =>
    refine ⟨[.lookup request], _, Machine.run_step (lookup_hit arrived looked) (Machine.run_nil _), ?_⟩
    have returned : recordUsage (incoming request).call (incoming request).env world.store.open =
        (cachedToResponse cached, world.store.open) := recordUsage_hit looked
    cases response : cachedToResponse cached with
    | ok response' =>
      rw [response] at returned
      rw [serve_ok quiet returned rfl]
      exact ⟨rfl, _, World.become_phase _, rfl⟩
    | error exc =>
      rw [response] at returned
      rw [serve_error returned rfl]
      exact ⟨rfl, _, World.become_phase _, rfl⟩
  | none =>
    have served := serve_recordUsage_miss world.store quiet looked
    have missed := lookup_miss arrived looked
    have unblocked (info : QuotaInfo) (cost : Int) : Unblocked request (rowOf incoming request cost)
        ((world.become request .missed).become request (.admitted info cost)) := by
      intro other different held holding
      rw [World.become_other different, World.become_other different, idle other] at holding
      cases holding
    cases admission : admissionOf incoming request (world.become request .missed) with
    | none =>
      have refused : (incoming request).call.record.admission? (incoming request).env.settings
          (incoming request).env.monthStart world.store.database = none := admission
      rw [Database.record, refused] at served
      obtain ⟨exc, served⟩ := served
      obtain ⟨error, checked⟩ := check_refused (World.become_phase _) admission
      rw [served]
      exact ⟨[.lookup request, .check request], _, Machine.run_step missed (Machine.run_step checked (Machine.run_nil _)),
        rfl, _, World.become_phase _, rfl⟩
    | some pair =>
      obtain ⟨info, cost⟩ := pair
      have admitted : (incoming request).call.record.admission? (incoming request).env.settings
          (incoming request).env.monthStart world.store.database = some (info, cost) := admission
      have checked := check_step (World.become_phase _) admission
      have started := Machine.run_step missed (Machine.run_step checked (Machine.run_nil _))
      have ran := admitted_run (World.become_phase _) (unblocked info cost)
      simp only [Database.record, admitted, Option.bind_eq_bind, Option.bind_some, World.become_store] at served ran
      cases recorded : world.store.database.recordAdmitted (incoming request).env (incoming request).call.record cost with
      | some result =>
        simp only [recorded, Option.bind_some, Option.pure_def] at served ran
        obtain ⟨schedule, final, ran, ended⟩ := ran
        rw [served]
        exact ⟨_, final, Machine.run_trans started ran, ended⟩
      | none =>
        simp only [recorded, Option.bind_none] at served ran
        obtain ⟨exc, served⟩ := served
        obtain ⟨schedule, final, ran, ended⟩ := ran exc
        rw [served]
        exact ⟨_, final, Machine.run_trans started ran, ended⟩

end

end MeteringBilling
