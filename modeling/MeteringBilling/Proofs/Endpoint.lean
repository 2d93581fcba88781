import MeteringBilling.Proofs.ConcurrentSteps

/-! The endpoint on a session of its own: the reply from the cache, and the reply from the
tables behind it. -/

namespace MeteringBilling

open Effect

variable {env : Env} {store : Store} {session : Session} {call : MeterCall}

private theorem quotaEntries?_map (entries : List (String × Int)) :
    quotaEntries? (.obj (entries.map fun entry => (entry.1, Json.num entry.2))) = some entries := by
  rw [quotaEntries?]
  induction entries with
  | nil => rfl
  | cons entry entries ih =>
    rw [List.map_cons, List.mapM_cons, ih]
    rfl

theorem cachedToResponse_modelDump (response : MeterResponse) :
    cachedToResponse response.modelDump = .ok response := by
  simp [cachedToResponse, MeterResponse.modelDump, Json.get?, List.lookup_cons, Json.str?, Json.num?, Json.bool?,
    UUID.parse?_str, UsageType.ofValue?_value, quotaEntries?_map]

def MeterCall.cached? (call : MeterCall) (env : Env) (redis : Redis) : Option Json :=
  if env.redisUp .get (idempotencyCacheKey call.key) then (redis (idempotencyCacheKey call.key)).map CacheEntry.value
  else none

def MeterCall.stored (call : MeterCall) (env : Env) (redis : Redis) (response : MeterResponse) : Redis :=
  if env.redisUp .set (idempotencyCacheKey call.key) then
    Function.update redis (idempotencyCacheKey call.key) (some ⟨response.modelDump, idempotencyTtlSeconds⟩)
  else redis

theorem checkIdempotencyKey_apply :
    checkIdempotencyKey call.key env session = (.ok (call.cached? env session.redis), session) := rfl

theorem storeIdempotencyResponse_apply (response : MeterResponse) :
    storeIdempotencyResponse call.key response.modelDump env session =
      (.ok (), { session with redis := call.stored env session.redis response }) := by
  rw [storeIdempotencyResponse, cacheSet, MeterCall.stored]
  split <;> rfl

theorem recordUsage_hit {cached : Json} (hit : call.cached? env session.redis = some cached) :
    recordUsage call env session = (cachedToResponse cached, session) := by
  rw [recordUsage, bind_ok checkIdempotencyKey_apply, hit]
  rfl

def MeterCall.responseTo (call : MeterCall) (event : UsageEvent) (info : QuotaInfo) : MeterResponse :=
  meterResponse event (MeterService.updatedQuotaInfo call.record info) call.request.usageType

/-- A request answers from Redis, or passes on what raised in its call, or stores the response of its event. -/
theorem recordUsage_cases {reply : Except PyError MeterResponse} {after : Session}
    (ran : recordUsage call env session = (reply, after)) :
    after = session ∨ (after.saved = session.saved ∧ ∃ exc, reply = .error exc) ∨
      ∃ event info middle response, MeterService.record call.record env session = (.ok (event, info), middle) ∧
        reply = .ok response ∧ after = { middle with redis := call.stored env session.redis response } := by
  rw [recordUsage, bind_ok checkIdempotencyKey_apply] at ran
  cases looked : call.cached? env session.redis with
  | some cached =>
    rw [looked] at ran
    exact Or.inl (Prod.mk.inj ran).2.symm
  | none =>
    rw [looked] at ran
    have saved := record_keeps call.record env session
    rcases recorded : MeterService.record call.record env session with ⟨exc | ⟨event, info⟩, middle⟩
    · have raised : handle (MeterService.record call.record) (fun exc => raise (meterError exc)) env session =
          (.error (meterError exc), middle) := by
        rw [handle, recorded]
        rfl
      rw [recorded] at saved
      obtain ⟨rfl, rfl⟩ := Prod.mk.inj ((bind_error raised).symm.trans ran)
      exact Or.inr (Or.inl ⟨saved, _, rfl⟩)
    · have returned : handle (MeterService.record call.record) (fun exc => raise (meterError exc)) env session =
          (.ok (event, info), middle) := by
        rw [handle, recorded]
      rw [recorded] at saved
      obtain ⟨rfl, rfl⟩ := Prod.mk.inj (((bind_ok returned).trans (bind_ok (storeIdempotencyResponse_apply _))).symm.trans ran)
      have redis : middle.redis = session.redis := (Prod.mk.inj saved).2
      exact Or.inr (Or.inr ⟨event, info, middle, _, rfl, rfl, by rw [redis]⟩)

theorem recordUsage_miss (quiet : env.Quiet) (live : session.aborted = false)
    (miss : call.cached? env session.redis = none) :
    match session.working.record env call.record with
    | some ((event, info), after) => recordUsage call env session =
        (.ok (call.responseTo event info),
          { session with working := after, redis := call.stored env session.redis (call.responseTo event info) })
    | none => ∃ exc after, recordUsage call env session = (.error exc, after) ∧ after.saved = session.saved := by
  have computed := record_quiet quiet live call.record
  rw [recordUsage, bind_ok checkIdempotencyKey_apply, miss]
  cases recorded : session.working.record env call.record with
  | none =>
    rw [recorded] at computed
    obtain ⟨exc, after, raised⟩ := computed
    have kept := record_keeps call.record env session
    rw [raised] at kept
    refine ⟨meterError exc, after, bind_error ?_, kept⟩
    rw [handle, raised]
    rfl
  | some result =>
    obtain ⟨⟨event, info⟩, after⟩ := result
    rw [recorded] at computed
    have returned : handle (MeterService.record call.record) (fun exc => raise (meterError exc)) env session =
        (.ok (event, MeterService.updatedQuotaInfo call.record info), { session with working := after }) := by
      rw [handle, computed]
    exact (bind_ok returned).trans (bind_ok (storeIdempotencyResponse_apply (call.responseTo event info)))

theorem serve_recordUsage_hit (quiet : env.Quiet) {response : MeterResponse}
    (hit : call.cached? env store.redis = some response.modelDump) :
    serve (recordUsage call) env store = (.ok response, store) := by
  have returned : recordUsage call env store.open = (.ok response, store.open) := by
    rw [recordUsage_hit (by exact hit), cachedToResponse_modelDump]
  rw [serve_ok quiet returned rfl]
  rfl

theorem serve_recordUsage_miss (store : Store) (quiet : env.Quiet) (miss : call.cached? env store.redis = none) :
    match store.database.record env call.record with
    | some ((event, info), after) => serve (recordUsage call) env store =
        (.ok (call.responseTo event info), ⟨after, call.stored env store.redis (call.responseTo event info)⟩)
    | none => ∃ exc, serve (recordUsage call) env store = (.error exc, store) := by
  have computed : match store.database.record env call.record with
      | some ((event, info), after) => recordUsage call env store.open =
          (.ok (call.responseTo event info), { store.open with
            working := after, redis := call.stored env store.redis (call.responseTo event info) })
      | none => ∃ exc after, recordUsage call env store.open = (.error exc, after) ∧ after.saved = store.open.saved :=
    @recordUsage_miss env store.open call quiet rfl miss
  cases recorded : store.database.record env call.record with
  | some result =>
    rw [recorded] at computed
    exact serve_ok quiet computed rfl
  | none =>
    rw [recorded] at computed
    obtain ⟨exc, after, raised, kept⟩ := computed
    obtain ⟨committed, redis⟩ := Prod.mk.inj kept
    refine ⟨exc, ?_⟩
    rw [serve_error raised committed, redis]
    rfl

end MeteringBilling
