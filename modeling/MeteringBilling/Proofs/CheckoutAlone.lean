import MeteringBilling.ConcurrentCheckouts
import MeteringBilling.Proofs.BillingSteps

/-! A checkout that nobody interrupts: its steps, taken one after the other, are the route served on a session of
its own. -/

namespace MeteringBilling.CheckoutAlone

open Effect StripeCustomer

variable {ι : Type} [DecidableEq ι] {verifyApiKey : String → String → Bool} {calls : ι → CheckoutCall}
  {counter : Counter ι} {request : ι} {tenant current : CurrentTenant} {redis : Redis} {env : Env} {store : Store}

theorem start_ready (call : CheckoutRequest) (held : ¬ Lacking tenant.stripeCustomerId) : call.start tenant = .ready tenant := by
  obtain ⟨customerId, present⟩ := Option.ne_none_iff_exists'.mp held
  rw [CheckoutRequest.start, if_neg (planTier_known call), present]

theorem start_lacking (call : CheckoutRequest) (lacking : Lacking tenant.stripeCustomerId) :
    call.start tenant = .lacking tenant := by
  have unset : tenant.stripeCustomerId.filter (· ≠ "") = none := lacking
  rw [CheckoutRequest.start, if_neg (planTier_known call), unset]

structure Served (request : ι) (counter : Counter ι) (result : Except PyError CheckoutReply × Store × List StripeCall)
    (final : Counter ι) : Prop where
  reply : final.phase request = .finished result.1
  store : final.store = result.2.1
  calls : final.calls = counter.calls ++ result.2.2.map fun call => (request, call)

def openedReply (answer : Except String CreatedSession) : Except PyError CheckoutReply :=
  match answer with
  | .ok session => .ok ⟨session.id, session.url⟩
  | .error _ => .error checkoutFailed

theorem createCheckoutSession_opens {call : CheckoutCall} {session authenticated : Session} {after : StripeSession}
    (accepted : getCurrentTenant verifyApiKey call.credentials call.env session = (.ok tenant, authenticated))
    (ensured : ensureCustomer tenant call.answers call.env ⟨authenticated, []⟩ = (.ok current, after)) :
    createCheckoutSession verifyApiKey call.credentials call.request call.answers call.env ⟨session, []⟩ =
      (openedReply call.answers.session,
        { after with calls := after.calls ++ [call.request.call call.env.settings current] }) := by
  rw [createCheckoutSession, bind_ok (onDatabase_ok accepted), if_neg (planTier_known call.request), bind_ok ensured,
    bind_ok (ask_apply _ _ _)]
  cases call.answers.session <;> rfl

theorem openStep_eq : openStep calls request tenant counter =
    { counter.become request (.finished (openedReply (calls request).answers.session)) with
      calls := counter.calls ++ [(request, (calls request).request.call (calls request).env.settings tenant)] } := by
  cases answered : (calls request).answers.session with
  | ok session => simp only [openStep, answered, openedReply, Counter.become]
  | error message => simp only [openStep, answered, openedReply, Counter.become]

/-- The route leaves what is committed when it ends. -/
theorem serve_ended {call : CheckoutCall} {reply : Except PyError CheckoutReply} {after : StripeSession}
    (ran : createCheckoutSession verifyApiKey call.credentials call.request call.answers call.env ⟨store.open, []⟩ = (reply, after))
    (settled : ∀ value, reply = .ok value → after.session.working = after.session.committed) :
    call.serve verifyApiKey store = (reply, ⟨after.session.committed, after.session.redis⟩, after.calls) := by
  obtain ⟨committed, redis⟩ := @getDb_settled call.env after.session CheckoutReply reply settled
  simp only [CheckoutCall.serve, ran]
  rw [committed, redis]

theorem commitCustomer_returned {customerId : String} {after : Session}
    (ran : commitCustomer tenant customerId env store.open = (.ok (), after)) :
    after = (Store.mk after.committed after.redis).open := by
  unfold commitCustomer at ran
  cases own : tenant.id with
  | text value =>
    rw [own] at ran
    obtain ⟨_, ⟨⟨_, never⟩, _⟩ | ⟨_, rfl⟩⟩ := commit_settles .commitTenant ran
    · cases never
    · rfl
  | uuid id =>
    rw [own] at ran
    dsimp only at ran
    obtain ⟨_, middle, wrote, ran⟩ := bind_returned ran
    obtain ⟨working, _, rfl⟩ := execute_returned wrote
    obtain ⟨_, ⟨⟨_, never⟩, _⟩ | ⟨_, rfl⟩⟩ := commit_settles .commitTenant ran
    · cases never
    · rfl

theorem ready_run (ready : counter.phase request = .ready tenant) :
    (concurrentCheckouts verifyApiKey calls).run [.open request] counter =
      some { counter.become request (.finished (openedReply (calls request).answers.session)) with
        calls := counter.calls ++ [(request, (calls request).request.call (calls request).env.settings tenant)] } := by
  rw [Machine.run_cons]
  simp only [concurrentCheckouts, ready, openStep_eq, Machine.run_nil, Option.bind_some]

/-- The checkout stands where making sure of the customer has led. -/
structure Ensured (request : ι) (counter : Counter ι) (result : Except PyError CurrentTenant × StripeSession)
    (next : Counter ι) : Prop where
  phase : next.phase request = match result.1 with
    | .ok current => .ready current
    | .error exc => .finished (.error exc)
  store : next.store = ⟨result.2.session.committed, result.2.session.redis⟩
  calls : next.calls = counter.calls ++ result.2.calls.map fun call => (request, call)

theorem committed_run {customer : Customer} {middle : Session} (ready : counter.phase request = .created tenant customer)
    (committed : commitCustomer tenant customer.id (calls request).env counter.store.open = (.ok (), middle)) :
    ∃ next, (concurrentCheckouts verifyApiKey calls).run [.commit request, .refresh request] counter = some next ∧
      next.store = ⟨middle.committed, middle.redis⟩ ∧ next.calls = counter.calls ∧
      next.phase request = match (refreshTenant tenant (calls request).env middle).1 with
        | .ok current => .ready current
        | .error exc => .finished (.error exc) := by
  have same := commitCustomer_returned committed
  let written := commitStep calls request tenant customer counter
  have wrote : (concurrentCheckouts verifyApiKey calls).step (.commit request) counter = some written := by
    simp only [concurrentCheckouts, ready]
    rfl
  have waiting : written.phase request = .committed tenant := by
    simp only [written, commitStep, committed, Counter.become, Function.update_self]
  have stores : written.store = ⟨middle.committed, middle.redis⟩ := by
    simp only [written, commitStep, committed, Counter.become]
  have asked : written.calls = counter.calls := by
    simp only [written, commitStep, committed, Counter.become]
  have took : (concurrentCheckouts verifyApiKey calls).step (.refresh request) written =
      some (refreshStep calls request tenant written) := by
    simp only [concurrentCheckouts, waiting]
  refine ⟨_, Machine.run_step wrote (Machine.run_step took (Machine.run_nil _)), ?_⟩
  rw [refreshStep, stores, ← same]
  rcases (refreshTenant tenant (calls request).env middle).1 with exc | current
  · exact ⟨stores, asked, Function.update_self ..⟩
  · exact ⟨stores, asked, Function.update_self ..⟩

theorem lacking_run (waiting : counter.phase request = .lacking tenant) (lacking : Lacking tenant.stripeCustomerId) :
    ∃ schedule next, (concurrentCheckouts verifyApiKey calls).run schedule counter = some next ∧
      Ensured request counter (ensureCustomer tenant (calls request).answers (calls request).env ⟨counter.store.open, []⟩) next := by
  have unset : tenant.stripeCustomerId.filter (· ≠ "") = none := lacking
  cases answered : (calls request).answers.customer with
  | error message =>
    have created : (concurrentCheckouts verifyApiKey calls).run [.create request] counter =
        some (createStep calls request tenant counter) := by
      simp only [Machine.run_cons, concurrentCheckouts, waiting, Machine.run_nil, Option.bind_some]
    refine ⟨_, _, created, ?_⟩
    rw [ensureCustomer, unset, answered]
    simp only [createStep, answered]
    exact ⟨Function.update_self .., rfl, rfl⟩
  | ok customer =>
    let created := createStep calls request tenant counter
    have took : (concurrentCheckouts verifyApiKey calls).step (.create request) counter = some created := by
      simp only [concurrentCheckouts, waiting]
      rfl
    have ready : created.phase request = .created tenant customer := by
      simp only [created, createStep, answered, Counter.become, Function.update_self]
    have store : created.store = counter.store := by
      simp only [created, createStep, answered, Counter.become]
    have asked : created.calls = counter.calls ++ [(request, .createCustomer tenant.email tenant.id.str)] := by
      simp only [created, createStep, answered, Counter.become]
    rw [ensureCustomer, unset, answered]
    dsimp only
    rw [bind_ok (askStripe_ok _ _ _ _), bind_apply, onDatabase_apply]
    rcases committed : commitCustomer tenant customer.id (calls request).env counter.store.open with ⟨exc | _, middle⟩
    · refine ⟨[.create request, .commit request], commitStep calls request tenant customer created, ?_, ?_⟩
      · apply Machine.run_step took
        simp only [Machine.run_cons, concurrentCheckouts, ready, Machine.run_nil, Option.bind_some]
      · simp only [commitStep, store, committed]
        exact ⟨Function.update_self .., rfl, asked⟩
    · obtain ⟨next, ran, left, kept, phase⟩ := committed_run ready (by rw [store]; exact committed)
      refine ⟨_, next, Machine.run_step took ran, ?_⟩
      dsimp only
      rw [onDatabase_apply]
      obtain ⟨sameCommitted, rest⟩ := Prod.mk.inj (refreshTenant_keeps tenant (calls request).env middle)
      exact ⟨phase, left.trans (by rw [sameCommitted, (Prod.mk.inj rest).2]), kept.trans asked⟩

theorem accepted_run {schedule : List (CounterAction ι)} {started next : Counter ι} {tenantId : UUID}
    (accepted : getCurrentTenant verifyApiKey (calls request).credentials (calls request).env counter.store.open =
      (.ok tenant, { counter.store.open with redis }))
    (handed : Handed (calls request).env counter.store tenantId tenant redis) (same : started.calls = counter.calls)
    (ran : (concurrentCheckouts verifyApiKey calls).run schedule counter = some next)
    (ensured : Ensured request started
      (ensureCustomer tenant (calls request).answers (calls request).env ⟨{ counter.store.open with redis }, []⟩) next) :
    ∃ schedule final, (concurrentCheckouts verifyApiKey calls).run schedule counter = some final ∧
      Served request counter ((calls request).serve verifyApiKey counter.store) final := by
  rcases sure : ensureCustomer tenant (calls request).answers (calls request).env
    ⟨{ counter.store.open with redis }, []⟩ with ⟨exc | current, after⟩
  · rw [sure] at ensured
    have failed : createCheckoutSession verifyApiKey (calls request).credentials (calls request).request (calls request).answers
        (calls request).env ⟨counter.store.open, []⟩ = (.error exc, after) := by
      rw [createCheckoutSession, bind_ok (onDatabase_ok (by exact accepted)), if_neg (planTier_known _), bind_error sure]
    refine ⟨_, next, ran, ?_⟩
    rw [serve_ended failed fun _ never => by cases never]
    exact ⟨ensured.phase, ensured.store, same ▸ ensured.calls⟩
  · rw [sure] at ensured
    refine ⟨_, _, Machine.run_trans ran (ready_run ensured.phase), ?_⟩
    rw [serve_ended (createCheckoutSession_opens accepted sure) fun _ _ => ((ensureCustomer_cases handed sure).returned current rfl).1]
    refine ⟨Function.update_self .., ensured.store, ?_⟩
    dsimp only
    rw [ensured.calls, same, List.map_append, List.append_assoc]
    rfl

/-- Whatever the stores hold and whatever fails, some run of the request's own steps ends as serving it does. -/
theorem serve_run (arrived : counter.phase request = .arrived) :
    ∃ schedule final, (concurrentCheckouts verifyApiKey calls).run schedule counter = some final ∧
      Served request counter ((calls request).serve verifyApiKey counter.store) final := by
  have took : (concurrentCheckouts verifyApiKey calls).step (.authenticate request) counter =
      some (authenticateStep verifyApiKey calls request counter) := by
    simp only [concurrentCheckouts, arrived]
  rcases ran : getCurrentTenant verifyApiKey (calls request).credentials (calls request).env counter.store.open with ⟨reply, session⟩
  rcases handed_cases ran with ⟨⟨exc, rfl⟩, kept⟩ | ⟨tenantId, tenant, redis, _, rfl, rfl, handed⟩
  · refine ⟨_, _, Machine.run_step took (Machine.run_nil _), ?_⟩
    rw [serve_rejected ran kept]
    simp only [authenticateStep, ran]
    refine ⟨Function.update_self .., ?_, (List.append_nil _).symm⟩
    rw [Counter.become, (Prod.mk.inj kept).2]
    rfl
  · let started := { counter.become request ((calls request).request.start tenant) with store := ⟨counter.store.database, redis⟩ }
    have behind : authenticateStep verifyApiKey calls request counter = started := by
      simp only [authenticateStep, ran]
      rfl
    rw [behind] at took
    have phase : started.phase request = (calls request).request.start tenant := Function.update_self ..
    by_cases lacking : Lacking tenant.stripeCustomerId
    · rw [start_lacking _ lacking] at phase
      obtain ⟨schedule, next, later, ensured⟩ := @lacking_run ι _ verifyApiKey calls started request tenant phase lacking
      exact accepted_run ran handed (by rfl) (Machine.run_step took later) ensured
    · rw [start_ready _ lacking] at phase
      have held := ensureCustomer_held lacking (calls request).answers (calls request).env
        ⟨{ counter.store.open with redis }, []⟩
      refine accepted_run ran handed (by rfl) (Machine.run_step took (Machine.run_nil started)) ?_
      rw [held]
      exact ⟨phase, rfl, (List.append_nil _).symm⟩

end MeteringBilling.CheckoutAlone
