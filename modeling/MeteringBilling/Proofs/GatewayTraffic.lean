import MeteringBilling.Gateway
import MeteringBilling.Library.History
import MeteringBilling.Proofs.ExactLimiter

/-! What gets through the middleware: the limiter of every key works as if it were alone, and counts only
requests that have passed the check of their idempotency key. -/

namespace MeteringBilling.GatewayTraffic

open RateWindow RetryAfter ExactLimiter RateLimitMiddleware

variable {σ : Type} {limiter : RedisRateLimiter} {router : HttpRequest → σ → Option HttpResponse × σ}
  {past rest : List Arrival} {arrival : Arrival} {state : GatewayState σ} {key : String}

def Passes (arrival : Arrival) : Prop := IdempotencyMiddleware.dispatch arrival.request.head = .callNext

instance (arrival : Arrival) : Decidable (Passes arrival) := inferInstanceAs (Decidable (_ = _))

def Counted (key : String) (arrival : Arrival) : Prop :=
  Passes arrival ∧ arrival.redisUp = true ∧ rateKey arrival.request = key

instance (key : String) (arrival : Arrival) : Decidable (Counted key arrival) := inferInstanceAs (Decidable (_ ∧ _))

def readings (key : String) (past : List Arrival) : List ℚ := (past.filter (Counted key)).map Arrival.now

/-- The request gets to the routes: its idempotency key is accepted, and its window has room, if Redis tells. -/
def Reaches (limiter : RedisRateLimiter) (past : List Arrival) (arrival : Arrival) : Prop :=
  Passes arrival ∧ (arrival.redisUp = true →
    (recent limiter (readings (rateKey arrival.request) past) arrival.now).length < limiter.maxRequests)

instance (limiter : RedisRateLimiter) (past : List Arrival) (arrival : Arrival) : Decidable (Reaches limiter past arrival) :=
  inferInstanceAs (Decidable (_ ∧ (_ → _)))

def reaching (limiter : RedisRateLimiter) : List Arrival → List Arrival → List Arrival
  | _, [] => []
  | past, arrival :: rest =>
    if Reaches limiter past arrival then arrival :: reaching limiter (past ++ [arrival]) rest
    else reaching limiter (past ++ [arrival]) rest

def handled (router : HttpRequest → σ → Option HttpResponse × σ) (routes : σ) (arrivals : List Arrival) : σ :=
  arrivals.foldl (fun routes arrival => (router arrival.request routes).2) routes

/-- How a request is answered, and what it leaves of the routes. -/
inductive Answers (limiter : RedisRateLimiter) (router : HttpRequest → σ → Option HttpResponse × σ) (past : List Arrival)
    (arrival : Arrival) (routes : σ) : HttpResponse → σ → Prop
  | refused {status : Nat} {detail : String}
      (answer : IdempotencyMiddleware.dispatch arrival.request.head = .respond status detail) :
      Answers limiter router past arrival routes
        (HttpResponse.setHeader "X-Request-ID" (RequestIDMiddleware.requestId arrival) ⟨status, .obj [("detail", .str detail)], []⟩)
        routes
  | limited {retryAfter : Int} (passes : Passes arrival) (full : ¬ Reaches limiter past arrival) (least : 1 ≤ retryAfter)
      (most : retryAfter ≤ limiter.windowSeconds + 1) :
      Answers limiter router past arrival routes
        (HttpResponse.setHeader "X-Request-ID" (RequestIDMiddleware.requestId arrival) (rateLimited retryAfter)) routes
  | reached (reaches : Reaches limiter past arrival) :
      Answers limiter router past arrival routes
        (((router arrival.request routes).1.map
          (HttpResponse.setHeader "X-Request-ID" (RequestIDMiddleware.requestId arrival))).getD internalError)
        (router arrival.request routes).2

/-- Under every key is what its counted arrivals have left. -/
def Tracks (limiter : RedisRateLimiter) (past : List Arrival) (rates : String → RateKey) : Prop :=
  ∀ key, Holds limiter (readings key past) (rates key)

theorem mem_readings {time : ℚ} (member : time ∈ readings key past) : ∃ arrival ∈ past, arrival.now = time := by
  obtain ⟨arrival, counted, same⟩ := List.mem_map.mp member
  exact ⟨arrival, (List.mem_filter.mp counted).1, same⟩

theorem readings_append (key : String) (past : List Arrival) (arrival : Arrival) : readings key (past ++ [arrival]) =
    readings key past ++ if Counted key arrival then [arrival.now] else [] := by
  rw [readings, List.filter_append, List.map_append]
  congr 1
  by_cases counted : Counted key arrival
  · rw [if_pos counted, List.filter_cons_of_pos (by simpa using counted)]
    rfl
  · rw [if_neg counted, List.filter_cons_of_neg (by simpa using counted)]
    rfl

/-- The arrivals come one after another, none before the epoch. -/
structure Ordered (arrivals : List Arrival) : Prop where
  increasing : arrivals.Pairwise fun first second => first.now < second.now
  started : ∀ arrival ∈ arrivals, 0 ≤ arrival.now

theorem Ordered.before {later : List Arrival} (ordered : Ordered (past ++ later)) : Ordered past :=
  ⟨(List.pairwise_append.mp ordered.increasing).1, fun other member => ordered.started other (List.mem_append_left _ member)⟩

theorem Ordered.latest (ordered : Ordered (past ++ [arrival])) : ∀ time ∈ readings key past, time < arrival.now := by
  intro time member
  obtain ⟨other, among, rfl⟩ := mem_readings member
  exact (List.pairwise_append.mp ordered.increasing).2.2 other among arrival (List.mem_singleton_self _)

theorem Ordered.positive (ordered : Ordered past) : ∀ time ∈ readings key past, 0 ≤ time := by
  intro time member
  obtain ⟨other, among, rfl⟩ := mem_readings member
  exact ordered.started other among

theorem Ordered.readings (ordered : Ordered past) (key : String) : (readings key past).Pairwise (· < ·) :=
  List.pairwise_map.mpr (ordered.increasing.sublist List.filter_sublist)

theorem Tracks.uncounted {rates : String → RateKey} (tracks : Tracks limiter past rates)
    (uncounted : ∀ key, ¬ Counted key arrival) : Tracks limiter (past ++ [arrival]) rates := by
  intro key
  rw [readings_append, if_neg (uncounted key), List.append_nil]
  exact tracks key

theorem Tracks.counted {rates : String → RateKey} (tracks : Tracks limiter past rates) (ordered : Ordered (past ++ [arrival]))
    (passes : Passes arrival) (up : arrival.redisUp = true) :
    Tracks limiter (past ++ [arrival]) (Function.update rates (rateKey arrival.request)
      (limiter.isAllowed true arrival.now (rates (rateKey arrival.request))).2) := by
  intro key
  rw [readings_append]
  by_cases own : key = rateKey arrival.request
  · obtain rfl := own
    rw [if_pos (show Counted _ arrival from ⟨passes, up, rfl⟩), Function.update_self]
    apply @Holds.after limiter _ ⟨rates (rateKey arrival.request), none, []⟩ _ (tracks _) ordered.latest
    intro time member
    rcases List.mem_append.mp member with before | last
    · exact ordered.before.positive time before
    · obtain rfl := List.mem_singleton.mp last
      exact ordered.started arrival (List.mem_append_right _ (List.mem_singleton_self _))
  · rw [if_neg fun counted => own counted.2.2.symm, List.append_nil, Function.update_of_ne own]
    exact tracks key

structure Serves (limiter : RedisRateLimiter) (router : HttpRequest → σ → Option HttpResponse × σ) (past : List Arrival)
    (arrival : Arrival) (state : GatewayState σ) (response : HttpResponse) (next : GatewayState σ) : Prop where
  answers : Answers limiter router past arrival state.routes response next.routes
  tracks : Tracks limiter (past ++ [arrival]) next.rates

theorem serves_refused {status : Nat} {detail : String} (tracks : Tracks limiter past state.rates)
    (answer : IdempotencyMiddleware.dispatch arrival.request.head = .respond status detail) :
    Serves limiter router past arrival state (createApp limiter router arrival state).1 (createApp limiter router arrival state).2 := by
  have served : createApp limiter router arrival state = (HttpResponse.setHeader "X-Request-ID"
      (RequestIDMiddleware.requestId arrival) ⟨status, .obj [("detail", .str detail)], []⟩, state) := by
    simp only [createApp, RequestIDMiddleware.dispatch, IdempotencyMiddleware.handle, answer, Option.map_some, Option.getD_some]
  rw [served]
  refine ⟨.refused answer, tracks.uncounted fun key counted => ?_⟩
  cases answer.symm.trans counted.1

theorem createApp_passed (passes : Passes arrival) : createApp limiter router arrival state =
    let (response, after) := RateLimitMiddleware.dispatch limiter (routed router) arrival state
    ((response.map (HttpResponse.setHeader "X-Request-ID" (RequestIDMiddleware.requestId arrival))).getD internalError, after) := by
  have calls : IdempotencyMiddleware.handle (RateLimitMiddleware.dispatch limiter (routed router)) arrival state =
      RateLimitMiddleware.dispatch limiter (routed router) arrival state := by
    rw [IdempotencyMiddleware.handle, show IdempotencyMiddleware.dispatch arrival.request.head = .callNext from passes]
  simp only [createApp, RequestIDMiddleware.dispatch, calls]

theorem serves_down (tracks : Tracks limiter past state.rates) (passes : Passes arrival) (down : arrival.redisUp = false) :
    Serves limiter router past arrival state (createApp limiter router arrival state).1 (createApp limiter router arrival state).2 := by
  have unlimited : RateLimitMiddleware.dispatch limiter (routed router) arrival state = routed router arrival state := by
    simp only [RateLimitMiddleware.dispatch, RedisRateLimiter.isAllowed, down, Bool.not_false, if_true, Bool.not_true,
      Bool.false_eq_true, if_false, Function.update_eq_self]
  rw [createApp_passed passes, unlimited]
  refine ⟨.reached ⟨passes, fun up => ?_⟩, tracks.uncounted fun key counted => ?_⟩
  · cases down.symm.trans up
  · cases down.symm.trans counted.2.1

theorem serves_up (positive : 0 < limiter.maxRequests) (tracks : Tracks limiter past state.rates)
    (ordered : Ordered (past ++ [arrival])) (passes : Passes arrival) (up : arrival.redisUp = true) :
    Serves limiter router past arrival state (createApp limiter router arrival state).1 (createApp limiter router arrival state).2 := by
  have readings : (readings (rateKey arrival.request) past ++ [arrival.now]).Pairwise (· < ·) := by
    have counted := ordered.readings (rateKey arrival.request)
    rwa [readings_append, if_pos (show Counted _ arrival from ⟨passes, up, rfl⟩)] at counted
  have specified := @answer_specified limiter _ ⟨state.rates (rateKey arrival.request), none, []⟩ _ positive (tracks _) readings
  rcases answered : limiter.isAllowed true arrival.now (state.rates (rateKey arrival.request)) with ⟨⟨allowed, retryAfter⟩, after⟩
  rw [show (Traffic.mk (state.rates (rateKey arrival.request)) none []).key = state.rates (rateKey arrival.request) from rfl,
    answered] at specified
  have counted := tracks.counted ordered passes up
  rw [answered] at counted
  rw [createApp_passed passes]
  simp only [RateLimitMiddleware.dispatch, up, answered]
  have reaches : Reaches limiter past arrival ↔ allowed = true :=
    (and_iff_right passes).trans ((forall_prop_of_true up).trans specified.allowed.symm)
  cases allowed with
  | true =>
    simp only [Bool.not_true, Bool.false_eq_true, if_false]
    exact ⟨.reached (reaches.mpr rfl), counted⟩
  | false =>
    simp only [Bool.not_false, if_true, Option.map_some, Option.getD_some]
    obtain ⟨least, most⟩ := specified.wait rfl
    exact ⟨.limited passes (fun free => Bool.false_ne_true (reaches.mp free)) least most, counted⟩

theorem serves_arrival (positive : 0 < limiter.maxRequests) (tracks : Tracks limiter past state.rates)
    (ordered : Ordered (past ++ [arrival])) :
    Serves limiter router past arrival state (createApp limiter router arrival state).1 (createApp limiter router arrival state).2 := by
  cases answer : IdempotencyMiddleware.dispatch arrival.request.head with
  | respond status detail => exact serves_refused tracks answer
  | callNext =>
    cases up : arrival.redisUp with
    | false => exact serves_down tracks answer up
    | true => exact serves_up positive tracks ordered answer up

theorem reaching_append (before past : List Arrival) (arrival : Arrival) : reaching limiter before (past ++ [arrival]) =
    reaching limiter before past ++ if Reaches limiter (before ++ past) arrival then [arrival] else [] := by
  induction past generalizing before with
  | nil =>
    rw [List.append_nil]
    rfl
  | cons first past ih =>
    have later := ih (before ++ [first])
    rw [List.append_assoc, List.singleton_append] at later
    rw [List.cons_append, reaching, reaching, later]
    by_cases reaches : Reaches limiter before first
    · rw [if_pos reaches, if_pos reaches, List.cons_append]
    · rw [if_neg reaches, if_neg reaches]

/-- The routes work on exactly the requests that get to them. -/
theorem Answers.routes_eq {routes left : σ} {response : HttpResponse}
    (answers : Answers limiter router past arrival routes response left) :
    left = if Reaches limiter past arrival then (router arrival.request routes).2 else routes := by
  cases answers with
  | refused answer =>
    refine (if_neg fun reaches => ?_).symm
    cases answer.symm.trans reaches.1
  | limited _ full _ _ => exact (if_neg full).symm
  | reached reaches => exact (if_pos reaches).symm

structure Follows (limiter : RedisRateLimiter) (router : HttpRequest → σ → Option HttpResponse × σ) (routes : σ)
    (past : List Arrival) (state : GatewayState σ) : Prop where
  tracks : Tracks limiter past state.rates
  routes_eq : state.routes = handled router routes (reaching limiter [] past)

theorem Follows.arrives {routes : σ} (follows : Follows limiter router routes past state) (positive : 0 < limiter.maxRequests)
    (ordered : Ordered (past ++ [arrival])) :
    Follows limiter router routes (past ++ [arrival]) (createApp limiter router arrival state).2 := by
  have serves := @serves_arrival _ _ router _ _ _ positive follows.tracks ordered
  refine ⟨serves.tracks, ?_⟩
  rw [serves.answers.routes_eq, reaching_append, List.nil_append, follows.routes_eq]
  by_cases reaches : Reaches limiter past arrival
  · rw [if_pos reaches, if_pos reaches, handled, handled, List.foldl_append]
    rfl
  · rw [if_neg reaches, if_neg reaches, List.append_nil]

theorem follows_run {routes : σ} (positive : 0 < limiter.maxRequests) (ordered : Ordered past)
    (ran : (gateway limiter router).run past ⟨fun _ => .absent, routes⟩ = some state) :
    Follows limiter router routes past state := by
  have kept (past : List Arrival) (arrival : Arrival) (state next : GatewayState σ) (_ : True)
      (follows : Ordered past → Follows limiter router routes past state)
      (taken : (gateway limiter router).step arrival state = some next) (ordered : Ordered (past ++ [arrival])) :
      Follows limiter router routes (past ++ [arrival]) next := by
    obtain rfl := Option.some.inj taken
    exact (follows ordered.before).arrives positive ordered
  have start (_ : Ordered []) : Follows limiter router routes [] ⟨fun _ => .absent, routes⟩ :=
    ⟨fun _ => holds_absent, rfl⟩
  exact Machine.run_history kept (fun _ _ => trivial) start ran ordered

theorem gateway_serves (arrivals : List Arrival) (state : GatewayState σ) :
    ∃ final, (gateway limiter router).run arrivals state = some final := by
  induction arrivals generalizing state with
  | nil => exact ⟨state, rfl⟩
  | cons arrival rest ih =>
    obtain ⟨final, ran⟩ := ih (createApp limiter router arrival state).2
    exact ⟨final, Machine.run_step rfl ran⟩

/-- Whatever came before, a request is refused for its key, limited for the traffic on its own rate key, or handed to
the routes, and the routes have seen exactly the requests that got through before it. -/
theorem gateway_exact (positive : 0 < limiter.maxRequests) {schedule : List Arrival} (ordered : Ordered schedule)
    (history : schedule = past ++ arrival :: rest) (routes : σ) :
    ∃ state, (gateway limiter router).run past ⟨fun _ => .absent, routes⟩ = some state ∧
      state.routes = handled router routes (reaching limiter [] past) ∧
      Answers limiter router past arrival state.routes (createApp limiter router arrival state).1
        (createApp limiter router arrival state).2.routes := by
  rw [history, List.append_cons] at ordered
  have upToNow := ordered.before
  obtain ⟨state, ran⟩ := @gateway_serves _ limiter router past ⟨fun _ => .absent, routes⟩
  have follows := follows_run positive upToNow.before ran
  exact ⟨state, ran, follows.routes_eq, (serves_arrival positive follows.tracks upToNow).answers⟩

def polling (now : ℚ) : Arrival where
  request := ⟨⟨"/api/v1/usage/me", "GET", none⟩, none, none, some "client"⟩
  now := now
  redisUp := true
  uuid4 := .ofInt 0

def tally (_ : HttpRequest) (served : Nat) : Option HttpResponse × Nat := (some ⟨200, .null, []⟩, served + 1)

/-- One request in ten seconds. The third one is limited by the second, which was limited itself. -/
theorem polling_exact : ∃ state, (gateway single tally).run [polling 0, polling 2] ⟨fun _ => .absent, 0⟩ = some state ∧
    state.routes = handled tally 0 (reaching single [] [polling 0, polling 2]) ∧
    Answers single tally [polling 0, polling 2] (polling 11) state.routes (createApp single tally (polling 11) state).1
      (createApp single tally (polling 11) state).2.routes := by
  have increasing : [0, 2, 11].Pairwise ((· < ·) : ℚ → ℚ → Prop) := by decide +kernel
  have started : ∀ now ∈ [0, 2, 11], (0 : ℚ) ≤ now := by decide +kernel
  exact @gateway_exact _ single tally _ [] _ (by decide) ([0, 2, 11].map polling)
    ⟨List.pairwise_map.mpr increasing, List.forall_mem_map.mpr started⟩ rfl 0

/-- Where every request comes under a key of its own, the limiter keeps none back. -/
theorem reaching_apart (positive : 0 < limiter.maxRequests) (schedule : List Arrival)
    (fresh : ∀ arrival ∈ schedule, ∀ earlier ∈ past, rateKey earlier.request ≠ rateKey arrival.request)
    (apart : schedule.Pairwise fun first second => rateKey first.request ≠ rateKey second.request) :
    reaching limiter past schedule = schedule.filter Passes := by
  induction schedule generalizing past with
  | nil => rfl
  | cons arrival rest ih =>
    obtain ⟨first, later⟩ := List.forall_mem_cons.mp fresh
    obtain ⟨others, apart⟩ := List.pairwise_cons.mp apart
    have alone : readings (rateKey arrival.request) past = [] := by
      rw [readings, List.map_eq_nil_iff, List.filter_eq_nil_iff]
      intro earlier member counted
      exact first earlier member (of_decide_eq_true counted).2.2
    have reaches : Reaches limiter past arrival ↔ Passes arrival := by
      refine and_iff_left fun _ => ?_
      rw [alone]
      exact positive
    have unmet : ∀ other ∈ rest, ∀ earlier ∈ past ++ [arrival], rateKey earlier.request ≠ rateKey other.request := by
      intro other member earlier among
      rcases List.mem_append.mp among with before | last
      · exact later other member earlier before
      · obtain rfl := List.mem_singleton.mp last
        exact others other member
    rw [reaching, ih unmet apart]
    by_cases passes : Passes arrival
    · rw [if_pos (reaches.mpr passes), List.filter_cons_of_pos (by simpa using passes)]
    · rw [if_neg (mt reaches.mp passes), List.filter_cons_of_neg (by simpa using passes)]

def claimed (arrival : Arrival) : String := arrival.request.xTenantId.getD "anonymous"

theorem rateKey_apart {first second : Arrival} (client : first.request.client = second.request.client)
    (apart : claimed first ≠ claimed second) : rateKey first.request ≠ rateKey second.request := by
  intro same
  rw [rateKey, rateKey, client, String.append_left_inj, String.append_left_inj, String.append_right_inj] at same
  exact apart same

/-- The limiter holds nobody up who claims to be another tenant in every request: all of them get to the routes, as many
as they are, unless their idempotency key is refused. -/
theorem spread_unlimited (positive : 0 < limiter.maxRequests) {schedule : List Arrival} (ordered : Ordered schedule)
    {client : Option String} (same : ∀ arrival ∈ schedule, arrival.request.client = client)
    (apart : schedule.Pairwise fun first second => claimed first ≠ claimed second) (routes : σ) :
    ∃ final, (gateway limiter router).run schedule ⟨fun _ => .absent, routes⟩ = some final ∧
      final.routes = handled router routes (schedule.filter Passes) := by
  obtain ⟨final, ran⟩ := @gateway_serves _ limiter router schedule ⟨fun _ => .absent, routes⟩
  have keys : schedule.Pairwise fun first second => rateKey first.request ≠ rateKey second.request :=
    apart.imp_of_mem fun first second => rateKey_apart ((same _ first).trans (same _ second).symm)
  refine ⟨final, ran, ?_⟩
  rw [(follows_run positive ordered ran).routes_eq, reaching_apart positive schedule (fun _ _ => List.forall_mem_nil _) keys]

def wandering (now : ℚ) (tenant : String) : Arrival :=
  { polling now with request := { (polling now).request with xTenantId := some tenant } }

def wander : List Arrival := [wandering 0 "a", wandering 1 "b", wandering 2 "c"]

theorem wander_unlimited : ∃ final, (gateway single tally).run wander ⟨fun _ => .absent, 0⟩ = some final ∧
    final.routes = handled tally 0 (wander.filter Passes) := by
  have increasing : wander.Pairwise fun first second => first.now < second.now := by decide +kernel
  have same : ∀ arrival ∈ wander, arrival.request.client = some "client" := by decide
  exact spread_unlimited (by decide) ⟨increasing, by decide +kernel⟩ same (by decide) 0

end MeteringBilling.GatewayTraffic
