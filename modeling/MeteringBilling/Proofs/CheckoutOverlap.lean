import MeteringBilling.Library.History
import MeteringBilling.Proofs.CheckoutAlone

/-! Checkouts of one tenant that race for its customer. Once the first of them has committed, no later one is handed
the tenant without a customer, so that those that overwrite it were all under way by then. -/

namespace MeteringBilling.CheckoutOverlap

open Effect StripeCustomer

variable {ι : Type} [DecidableEq ι] {verifyApiKey : String → String → Bool} {calls : ι → CheckoutCall}
  {counter next start : Counter ι} {tenantId : UUID} {request : ι} {store : Store} {env : Env}

def Pending (tenantId : UUID) : CheckoutPhase → Prop
  | .lacking tenant | .created tenant _ => tenant.id = .uuid tenantId
  | _ => False

def Stored (counter : Counter ι) (tenantId : UUID) (request : ι) : Prop :=
  ∃ customerId, (request, tenantId, customerId) ∈ counter.stored

def Holds (tenantId : UUID) (database : Database) : Prop :=
  ∃ row, database.tenant? tenantId = some row ∧ ¬ Lacking row.stripeCustomerId

theorem updated_finds {database after : Database} {customerId : String} {id : UUID}
    (updated : database.updateTenant id customerId = .ok after) : after.tenant? tenantId =
      (database.tenant? tenantId).map fun row => if row.id == id then withCustomer row customerId else row := by
  unfold Database.updateTenant at updated
  split at updated
  · next tenants rewritten =>
    obtain rfl := Except.ok.inj updated
    exact Table.find?_rewrite rewritten fun _ => rfl
  · cases updated

theorem Holds.updated {database after : Database} {customerId : String} {id : UUID} (holds : Holds tenantId database)
    (present : customerId ≠ "") (updated : database.updateTenant id customerId = .ok after) : Holds tenantId after := by
  obtain ⟨row, found, held⟩ := holds
  refine ⟨_, by rw [updated_finds updated, found, Option.map_some], ?_⟩
  split
  · exact not_lacking present
  · exact held

theorem holds_updated {database after : Database} {customerId : String} {row : Tenant} (present : customerId ≠ "")
    (updated : database.updateTenant tenantId customerId = .ok after) (found : database.tenant? tenantId = some row) :
    Holds tenantId after := by
  refine ⟨_, by rw [updated_finds updated, found, Option.map_some], ?_⟩
  rw [if_pos (Table.find?_mem found).2]
  exact not_lacking present

theorem commitCustomer_outcome {tenant : CurrentTenant} {customerId : String} {reply : Except PyError Unit} {after : Session}
    (ran : commitCustomer tenant customerId env store.open = (reply, after)) : after.redis = store.redis ∧
      ((∃ exc, reply = .error exc) ∧ after.committed = store.database ∨ reply = .ok () ∧
        ((∃ value, tenant.id = .text value) ∧ after.committed = store.database ∨
          ∃ id, tenant.id = .uuid id ∧ store.database.updateTenant id customerId = .ok after.committed)) := by
  unfold commitCustomer at ran
  cases own : tenant.id with
  | text value =>
    rw [own] at ran
    obtain ⟨redis, ⟨failed, kept⟩ | ⟨returned, rfl⟩⟩ := commit_settles .commitTenant ran
    · exact ⟨redis, .inl ⟨failed, kept⟩⟩
    · exact ⟨redis, .inr ⟨returned, .inl ⟨⟨value, rfl⟩, rfl⟩⟩⟩
  | uuid id =>
    rw [own] at ran
    dsimp only at ran
    rcases wrote : execute .updateTenant (Database.updateTenant id customerId) env store.open with ⟨exc | _, middle⟩
    · have saved := @execute_keeps _ Session.saved (fun _ _ _ => rfl) .updateTenant (Database.updateTenant id customerId) env store.open
      rw [wrote] at saved
      rw [bind_error wrote] at ran
      obtain ⟨rfl, rfl⟩ := Prod.mk.inj ran
      obtain ⟨committed, redis⟩ := Prod.mk.inj saved
      exact ⟨redis, .inl ⟨⟨exc, rfl⟩, committed⟩⟩
    · obtain ⟨working, updated, rfl⟩ := execute_returned wrote
      rw [bind_ok wrote] at ran
      obtain ⟨redis, ⟨failed, kept⟩ | ⟨returned, rfl⟩⟩ := commit_settles .commitTenant ran
      · exact ⟨redis, .inl ⟨failed, kept⟩⟩
      · exact ⟨redis, .inr ⟨returned, .inr ⟨id, rfl, updated⟩⟩⟩

/-- A step writes nothing, and hands a tenant at most as it is stored. -/
structure Proceeds (calls : ι → CheckoutCall) (before after : Counter ι) : Prop where
  database : after.store.database = before.store.database
  stored : after.stored = before.stored
  created : ∀ request tenant customer, after.phase request = .created tenant customer →
    before.phase request = .created tenant customer ∨ (calls request).answers.customer = .ok customer
  pending : ∀ tenantId request, Pending tenantId (after.phase request) → Pending tenantId (before.phase request) ∨
    ∃ row, before.store.database.tenant? tenantId = some row ∧ Lacking row.stripeCustomerId

inductive Steps (calls : ι → CheckoutCall) (before : Counter ι) : Counter ι → Prop
  | proceeds {after : Counter ι} (proceeds : Proceeds calls before after) : Steps calls before after
  | stores {request : ι} {tenantId : UUID} {tenant : CurrentTenant} {customer : Customer} {after : Counter ι}
      (ready : before.phase request = .created tenant customer) (id : tenant.id = .uuid tenantId)
      (updated : before.store.database.updateTenant tenantId customer.id = .ok after.store.database)
      (stored : after.stored = before.stored ++ [(request, tenantId, customer.id)])
      (phases : after.phase = Function.update before.phase request (.committed tenant)) : Steps calls before after
  | other {store : Store} (kept : before.store.KeepsCustomers store) : Steps calls before { before with store }

theorem become_pending {phase : CheckoutPhase} (clear : ∀ tenantId, Pending tenantId phase →
      Pending tenantId (counter.phase request) ∨ ∃ row, counter.store.database.tenant? tenantId = some row ∧ Lacking row.stripeCustomerId)
    (tenantId : UUID) (other : ι) (pending : Pending tenantId (Function.update counter.phase request phase other)) :
    Pending tenantId (counter.phase other) ∨
      ∃ row, counter.store.database.tenant? tenantId = some row ∧ Lacking row.stripeCustomerId := by
  by_cases own : other = request
  · obtain rfl := own
    rw [Function.update_self] at pending
    exact clear tenantId pending
  · rw [Function.update_of_ne own] at pending
    exact .inl pending

theorem become_created {phase : CheckoutPhase} (known : ∀ tenant customer, phase = .created tenant customer →
      (calls request).answers.customer = .ok customer)
    (other : ι) (tenant : CurrentTenant) (customer : Customer)
    (created : Function.update counter.phase request phase other = .created tenant customer) :
    counter.phase other = .created tenant customer ∨ (calls other).answers.customer = .ok customer := by
  by_cases own : other = request
  · obtain rfl := own
    rw [Function.update_self] at created
    exact .inr (known tenant customer created)
  · rw [Function.update_of_ne own] at created
    exact .inl created

theorem become_proceeds {phase : CheckoutPhase} (phases : next.phase = Function.update counter.phase request phase)
    (database : next.store.database = counter.store.database) (stored : next.stored = counter.stored)
    (clear : ∀ tenantId, Pending tenantId phase →
      Pending tenantId (counter.phase request) ∨ ∃ row, counter.store.database.tenant? tenantId = some row ∧ Lacking row.stripeCustomerId)
    (known : ∀ tenant customer, phase = .created tenant customer → (calls request).answers.customer = .ok customer) :
    Steps calls counter next := by
  refine .proceeds ⟨database, stored, ?_, ?_⟩
  · rw [phases]
    exact become_created known
  · rw [phases]
    exact become_pending clear

theorem authenticateStep_steps : Steps calls counter (authenticateStep verifyApiKey calls request counter) := by
  rcases ran : getCurrentTenant verifyApiKey (calls request).credentials (calls request).env counter.store.open with ⟨reply, session⟩
  rcases handed_cases ran with ⟨⟨exc, rfl⟩, _⟩ | ⟨tenantId, tenant, redis, _, rfl, rfl, handed⟩
  · simp only [authenticateStep, ran]
    exact become_proceeds rfl rfl rfl (fun _ never => never.elim) (fun _ _ never => by cases never)
  · simp only [authenticateStep, ran]
    by_cases lacking : Lacking tenant.stripeCustomerId
    · rw [CheckoutAlone.start_lacking _ lacking]
      refine become_proceeds rfl rfl rfl (fun id pending => .inr ?_) (fun _ _ never => by cases never)
      cases handed with
      | cached hit built =>
        obtain ⟨value, text⟩ := tenantOfCache_text built
        cases text.symm.trans pending
      | @stored row _ found _ =>
        obtain rfl := TenantId.uuid.inj pending
        rw [eq_of_beq (Table.find?_mem found).2]
        exact ⟨row, found, lacking⟩
    · rw [CheckoutAlone.start_ready _ lacking]
      exact become_proceeds rfl rfl rfl (fun _ never => never.elim) (fun _ _ never => by cases never)

theorem createStep_steps {tenant : CurrentTenant} (ready : counter.phase request = .lacking tenant) :
    Steps calls counter (createStep calls request tenant counter) := by
  cases answered : (calls request).answers.customer with
  | ok customer =>
    simp only [createStep, answered]
    refine become_proceeds rfl rfl rfl (fun id pending => .inl ?_) fun _ _ same => ?_
    · rw [ready]
      exact pending
    · cases same
      exact answered
  | error message =>
    simp only [createStep, answered]
    exact become_proceeds rfl rfl rfl (fun _ never => never.elim) (fun _ _ never => by cases never)

theorem commitStep_steps {tenant : CurrentTenant} {customer : Customer} (ready : counter.phase request = .created tenant customer) :
    Steps calls counter (commitStep calls request tenant customer counter) := by
  rcases ran : commitCustomer tenant customer.id (calls request).env counter.store.open with ⟨reply, session⟩
  obtain ⟨redis, ⟨⟨exc, rfl⟩, kept⟩ | ⟨rfl, ⟨⟨value, text⟩, kept⟩ | ⟨id, own, updated⟩⟩⟩ := commitCustomer_outcome ran
  · simp only [commitStep, ran]
    exact become_proceeds rfl kept rfl (fun _ never => never.elim) (fun _ _ never => by cases never)
  · simp only [commitStep, ran, CurrentTenant.written, text, List.map_nil, List.append_nil]
    exact become_proceeds rfl kept rfl (fun _ never => never.elim) (fun _ _ never => by cases never)
  · simp only [commitStep, ran, CurrentTenant.written, own, List.map_cons, List.map_nil]
    exact .stores ready own updated rfl rfl

theorem refreshStep_steps {tenant : CurrentTenant} : Steps calls counter (refreshStep calls request tenant counter) := by
  unfold refreshStep
  split
  all_goals exact become_proceeds rfl rfl rfl (fun _ never => never.elim) (fun _ _ never => by cases never)

theorem openStep_steps {tenant : CurrentTenant} : Steps calls counter (openStep calls request tenant counter) := by
  unfold openStep
  dsimp only
  split
  all_goals exact become_proceeds rfl rfl rfl (fun _ never => never.elim) (fun _ _ never => by cases never)

theorem step_cases {action : CounterAction ι}
    (taken : (concurrentCheckouts verifyApiKey calls).step action counter = some next) : Steps calls counter next := by
  cases action with
  | authenticate request =>
    simp only [concurrentCheckouts] at taken
    split at taken
    · obtain rfl := Option.some.inj taken
      exact authenticateStep_steps
    · cases taken
  | create request =>
    simp only [concurrentCheckouts] at taken
    split at taken
    · next ready =>
      obtain rfl := Option.some.inj taken
      exact createStep_steps ready
    · cases taken
  | commit request =>
    simp only [concurrentCheckouts] at taken
    split at taken
    · next ready =>
      obtain rfl := Option.some.inj taken
      exact commitStep_steps ready
    · cases taken
  | refresh request =>
    simp only [concurrentCheckouts] at taken
    split at taken
    · obtain rfl := Option.some.inj taken
      exact refreshStep_steps
    · cases taken
  | «open» request =>
    simp only [concurrentCheckouts] at taken
    split at taken
    · obtain rfl := Option.some.inj taken
      exact openStep_steps
    · cases taken
  | other store =>
    obtain ⟨kept, taken⟩ := Option.ite_none_right_eq_some.mp taken
    obtain rfl := Option.some.inj taken
    exact .other kept

/-- Nobody has stored a customer for the tenant yet, or it has one and there was a moment at which everyone who has
stored one or still may was about to. -/
def Gathered (machine : Machine (CounterAction ι) (Counter ι)) (start : Counter ι) (past : List (CounterAction ι))
    (counter : Counter ι) (tenantId : UUID) : Prop :=
  (∀ request, ¬ Stored counter tenantId request) ∨ Holds tenantId counter.store.database ∧
    ∃ before rest middle, past = before ++ rest ∧ machine.run before start = some middle ∧
      ∀ request, Stored counter tenantId request ∨ Pending tenantId (counter.phase request) →
        Pending tenantId (middle.phase request)

def customers (counter : Counter ι) (tenantId : UUID) : List String :=
  (counter.stored.filter (·.2.1 = tenantId)).map (·.2.2)

def Latest (counter : Counter ι) (tenantId : UUID) : Prop :=
  ∀ customerId ∈ (customers counter tenantId).getLast?,
    ∃ row, counter.store.database.tenant? tenantId = some row ∧ row.stripeCustomerId = some customerId

omit [DecidableEq ι] in
theorem Latest.kept (latest : Latest counter tenantId) (stored : customers next tenantId = customers counter tenantId)
    (kept : ∀ row, counter.store.database.tenant? tenantId = some row →
      ∃ later, next.store.database.tenant? tenantId = some later ∧ later.stripeCustomerId = row.stripeCustomerId) :
    Latest next tenantId := by
  intro customerId last
  rw [stored] at last
  obtain ⟨row, found, same⟩ := latest customerId last
  obtain ⟨later, stays, equal⟩ := kept row found
  exact ⟨later, stays, equal.trans same⟩

structure Races (machine : Machine (CounterAction ι) (Counter ι)) (calls : ι → CheckoutCall) (start : Counter ι)
    (past : List (CounterAction ι)) (counter : Counter ι) : Prop where
  ran : machine.run past start = some counter
  created : ∀ request tenant customer, counter.phase request = .created tenant customer →
    (calls request).answers.customer = .ok customer
  loaded : ∀ tenantId request, Pending tenantId (counter.phase request) →
    ∃ row, counter.store.database.tenant? tenantId = some row
  gathered : ∀ tenantId, Gathered machine start past counter tenantId
  latest : ∀ tenantId, Latest counter tenantId

omit [DecidableEq ι] in
theorem Gathered.extend {machine : Machine (CounterAction ι) (Counter ι)} {past : List (CounterAction ι)}
    (gathered : Gathered machine start past counter tenantId) (action : CounterAction ι)
    (stored : ∀ request, Stored next tenantId request → Stored counter tenantId request)
    (joined : Holds tenantId counter.store.database → Holds tenantId next.store.database ∧
      ∀ request, Pending tenantId (next.phase request) → Pending tenantId (counter.phase request)) :
    Gathered machine start (past ++ [action]) next tenantId := by
  rcases gathered with nobody | ⟨holds, before, rest, middle, rfl, ran, racing⟩
  · exact .inl fun request has => nobody request (stored request has)
  · obtain ⟨held, pending⟩ := joined holds
    refine .inr ⟨held, before, rest ++ [action], middle, List.append_assoc .., ran, fun request => ?_⟩
    rintro (has | waits)
    · exact racing request (.inl (stored request has))
    · exact racing request (.inr (pending request waits))

omit [DecidableEq ι] in
theorem Gathered.commit {machine : Machine (CounterAction ι) (Counter ι)} {past : List (CounterAction ι)}
    (gathered : Gathered machine start past counter tenantId) (ran : machine.run past start = some counter)
    (action : CounterAction ι) (waiting : Pending tenantId (counter.phase request))
    (holds : Holds tenantId next.store.database)
    (stored : ∀ other, Stored next tenantId other → Stored counter tenantId other ∨ other = request)
    (pending : ∀ other, Pending tenantId (next.phase other) → Pending tenantId (counter.phase other)) :
    Gathered machine start (past ++ [action]) next tenantId := by
  rcases gathered with nobody | ⟨_, before, rest, middle, rfl, reached, racing⟩
  · refine .inr ⟨holds, past, [action], counter, rfl, ran, fun other => ?_⟩
    rintro (has | waits)
    · rcases stored other has with earlier | rfl
      · exact (nobody other earlier).elim
      · exact waiting
    · exact pending other waits
  · refine .inr ⟨holds, before, rest ++ [action], middle, List.append_assoc .., reached, fun other => ?_⟩
    rintro (has | waits)
    · rcases stored other has with earlier | rfl
      · exact racing other (.inl earlier)
      · exact racing other (.inr waiting)
    · exact racing other (.inr (pending other waits))

/-- Stripe gives customers identifiers. -/
def Named (calls : ι → CheckoutCall) : Prop :=
  ∀ request customer, (calls request).answers.customer = .ok customer → customer.id ≠ ""

theorem races_step {past : List (CounterAction ι)} {action : CounterAction ι} (named : Named calls)
    (races : Races (concurrentCheckouts verifyApiKey calls) calls start past counter)
    (taken : (concurrentCheckouts verifyApiKey calls).step action counter = some next) :
    Races (concurrentCheckouts verifyApiKey calls) calls start (past ++ [action]) next := by
  have ran := Machine.run_trans races.ran (Machine.run_step taken (Machine.run_nil next))
  cases step_cases taken with
  | proceeds proceeds =>
    refine ⟨ran, fun request tenant customer same => ?_, fun tenantId request pending => ?_, fun tenantId => ?_, fun tenantId => ?_⟩
    · rcases proceeds.created request tenant customer same with before | answered
      · exact races.created request tenant customer before
      · exact answered
    · rw [proceeds.database]
      rcases proceeds.pending tenantId request pending with before | ⟨row, found, _⟩
      · exact races.loaded tenantId request before
      · exact ⟨row, found⟩
    · apply (races.gathered tenantId).extend action
      · intro request stored
        rw [Stored, proceeds.stored] at stored
        exact stored
      · intro holds
        refine ⟨proceeds.database ▸ holds, fun request pending => ?_⟩
        rcases proceeds.pending tenantId request pending with before | ⟨row, found, lacking⟩
        · exact before
        · obtain ⟨other, same, held⟩ := holds
          obtain rfl := Option.some.inj (found.symm.trans same)
          exact (held lacking).elim
    · apply (races.latest tenantId).kept
      · rw [customers, proceeds.stored]
        rfl
      · intro row found
        rw [proceeds.database]
        exact ⟨row, found, rfl⟩
  | @stores request storing tenant customer _ ready own updated stored phases =>
    have present : customer.id ≠ "" := named request customer (races.created request tenant customer ready)
    have waiting : Pending storing (counter.phase request) := by
      rw [ready]
      exact own
    have pending (tenantId : UUID) (other : ι) (waits : Pending tenantId (next.phase other)) :
        Pending tenantId (counter.phase other) := by
      rw [phases] at waits
      by_cases same : other = request
      · rw [same, Function.update_self] at waits
        exact waits.elim
      · rw [Function.update_of_ne same] at waits
        exact waits
    have storers (tenantId : UUID) (other : ι) (has : Stored next tenantId other) :
        Stored counter tenantId other ∨ other = request ∧ tenantId = storing := by
      obtain ⟨customerId, member⟩ := has
      rw [stored] at member
      rcases List.mem_append.mp member with before | last
      · exact .inl ⟨customerId, before⟩
      · obtain ⟨rfl, rest⟩ := Prod.mk.inj (List.mem_singleton.mp last)
        exact .inr ⟨rfl, (Prod.mk.inj rest).1⟩
    refine ⟨ran, fun other tenant customer same => ?_, fun tenantId other waits => ?_, fun tenantId => ?_, fun tenantId => ?_⟩
    · rw [phases] at same
      by_cases itself : other = request
      · rw [itself, Function.update_self] at same
        cases same
      · rw [Function.update_of_ne itself] at same
        exact races.created other tenant customer same
    · obtain ⟨row, found⟩ := races.loaded tenantId other (pending tenantId other waits)
      exact ⟨_, by rw [updated_finds updated, found, Option.map_some]⟩
    · by_cases same : tenantId = storing
      · obtain rfl := same
        obtain ⟨row, found⟩ := races.loaded tenantId request waiting
        exact (races.gathered tenantId).commit races.ran action waiting (holds_updated present updated found)
          (fun other has => (storers tenantId other has).imp_right And.left) (pending tenantId)
      · apply (races.gathered tenantId).extend action
        · intro other has
          exact (storers tenantId other has).resolve_right fun own => same own.2
        · exact fun holds => ⟨holds.updated present updated, pending tenantId⟩
    · by_cases same : tenantId = storing
      · obtain rfl := same
        obtain ⟨row, found⟩ := races.loaded tenantId request waiting
        intro customerId last
        rw [customers, stored, List.filter_append, List.map_append, List.filter_cons_of_pos (by simp), List.filter_nil,
          List.map_singleton, List.getLast?_concat] at last
        obtain rfl := Option.some.inj last
        refine ⟨_, by rw [updated_finds updated, found, Option.map_some], ?_⟩
        rw [if_pos (Table.find?_mem found).2]
        rfl
      · apply (races.latest tenantId).kept
        · rw [customers, stored, List.filter_append, List.filter_cons_of_neg (by simpa using Ne.symm same), List.filter_nil,
            List.append_nil]
          rfl
        · intro row found
          have other : ¬ (row.id == storing) = true := fun own =>
            same ((eq_of_beq (Table.find?_mem found).2).symm.trans (eq_of_beq own))
          exact ⟨row, by rw [updated_finds updated, found, Option.map_some, if_neg other], rfl⟩
  | @other store kept =>
    have stays (tenantId : UUID) (row : Tenant) (found : counter.store.database.tenant? tenantId = some row) :
        ∃ later, store.database.tenant? tenantId = some later ∧ later.stripeCustomerId = row.stripeCustomerId := by
      obtain ⟨member, own⟩ := Table.find?_mem found
      obtain ⟨later, same, equal⟩ := Option.map_eq_some_iff.mp (kept row member)
      rw [eq_of_beq own] at same
      exact ⟨later, same, equal⟩
    refine ⟨ran, races.created, fun tenantId request waits => ?_, fun tenantId => ?_, fun tenantId => ?_⟩
    · obtain ⟨row, found⟩ := races.loaded tenantId request waits
      obtain ⟨later, same, _⟩ := stays tenantId row found
      exact ⟨later, same⟩
    · refine (races.gathered tenantId).extend action (fun _ has => has) ?_
      rintro ⟨row, found, held⟩
      obtain ⟨later, same, equal⟩ := stays tenantId row found
      exact ⟨⟨later, same, equal ▸ held⟩, fun _ => id⟩
    · exact (races.latest tenantId).kept rfl (stays tenantId)

def idle (store : Store) : Counter ι := ⟨store, fun _ => .arrived, [], []⟩

theorem races_idle (store : Store) :
    Races (concurrentCheckouts verifyApiKey calls) calls (idle store) [] (idle store) where
  ran := rfl
  created _ _ _ never := by cases never
  loaded _ _ never := never.elim
  gathered _ := .inl fun _ ⟨_, member⟩ => List.not_mem_nil member
  latest _ _ never := by cases never

/-- Checkouts that have given one tenant its customer overlap: there was a moment at which each of them had loaded the
tenant without one and had not committed its own. The tenant is left with the one that was stored last. -/
theorem storers_overlap {actions : List (CounterAction ι)} (named : Named calls)
    (ran : (concurrentCheckouts verifyApiKey calls).run actions (idle store) = some counter) (tenantId : UUID) :
    (∃ before rest middle, actions = before ++ rest ∧
      (concurrentCheckouts verifyApiKey calls).run before (idle store) = some middle ∧
      ∀ request, Stored counter tenantId request → Pending tenantId (middle.phase request)) ∧
    Latest counter tenantId := by
  have kept (past : List (CounterAction ι)) (action : CounterAction ι) (counter next : Counter ι) (_ : True)
      (races : Races (concurrentCheckouts verifyApiKey calls) calls (idle store) past counter)
      (taken : (concurrentCheckouts verifyApiKey calls).step action counter = some next) :
      Races (concurrentCheckouts verifyApiKey calls) calls (idle store) (past ++ [action]) next :=
    races_step named races taken
  have races := Machine.run_history kept (fun _ _ => trivial) (races_idle store) ran
  refine ⟨?_, races.latest tenantId⟩
  rcases races.gathered tenantId with nobody | ⟨_, before, rest, middle, split, reached, racing⟩
  · exact ⟨actions, [], counter, (List.append_nil actions).symm, ran, fun request has => (nobody request has).elim⟩
  · exact ⟨before, rest, middle, split, reached, fun request has => racing request (.inl has)⟩

def racers (second : Bool) : CheckoutCall := if second then upgrade "cus_2" "cs_2" else upgrade "cus_1" "cs_1"

/-- The second one comes when the first has not committed, and does not find the tenant in Redis. -/
def race : List (CounterAction Bool) :=
  [.authenticate false, .create false, .other Seed.store, .authenticate true, .create true, .commit false, .refresh false,
    .commit true, .refresh true, .open false, .open true]

def raced : Counter Bool := ((concurrentCheckouts unchecked racers).run race (idle Seed.store)).get rfl

theorem racers_named : Named racers := by
  intro second customer answered
  cases second <;> (obtain rfl := Except.ok.inj answered; decide)

theorem race_overlap : customers raced Seed.tenant.id = ["cus_1", "cus_2"] ∧
    (∃ before rest middle, race = before ++ rest ∧
      (concurrentCheckouts unchecked racers).run before (idle Seed.store) = some middle ∧
      ∀ request, Stored raced Seed.tenant.id request → Pending Seed.tenant.id (middle.phase request)) ∧
    Latest raced Seed.tenant.id := by
  have ran : (concurrentCheckouts unchecked racers).run race (idle Seed.store) = some raced := (Option.some_get _).symm
  exact ⟨by decide +kernel, storers_overlap racers_named ran Seed.tenant.id⟩

end MeteringBilling.CheckoutOverlap
