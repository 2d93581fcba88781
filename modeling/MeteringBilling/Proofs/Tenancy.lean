import MeteringBilling.Proofs.CacheKeys
import MeteringBilling.Proofs.Serving

/-! What a tenant can see of a session: the shared tables, its own usage events and its own
cache keys. Its requests depend on nothing else. -/

namespace MeteringBilling.Tenancy

open Effect

/-- The tables as a tenant sees them. Of the events of others it can only meet an identifier
that one of its own requests draws. -/
structure TableView where
  tenants : Table Tenant
  plans : Table Plan
  subscriptions : Table Subscription
  events : List UsageEvent
  taken : UUID → Prop

/-- A session as a tenant sees it. -/
structure SessionView where
  committed : TableView
  working : TableView
  aborted : Bool
  redis : String → Option CacheEntry

variable (tenantId : UUID) (drawn : UUID → Prop)

def ownRedis (redis : Redis) : Redis := fun key => if ownKey tenantId key then redis key else none

def tables (database : Database) : TableView where
  tenants := database.tenants
  plans := database.plans
  subscriptions := database.subscriptions
  events := database.usageEvents.select (·.tenantId == tenantId)
  taken id := drawn id ∧ ∃ row ∈ database.usageEvents, row.tenantId ≠ tenantId ∧ row.id = id

def sees (session : Session) : SessionView where
  committed := tables tenantId drawn session.committed
  working := tables tenantId drawn session.working
  aborted := session.aborted
  redis := ownRedis tenantId session.redis

def seesStore (store : Store) : TableView × Redis := (tables tenantId drawn store.database, ownRedis tenantId store.redis)

variable {tenantId drawn} {α : Type} {env : Env}

/-- Two runs of a statement that agree for the tenant. -/
inductive Alike : Except PyError (α × Database) → Except PyError (α × Database) → Prop where
  | ok {value : α} {first second : Database} (same : tables tenantId drawn first = tables tenantId drawn second) :
    Alike (.ok (value, first)) (.ok (value, second))
  | error (exc : PyError) : Alike (.error exc) (.error exc)

theorem statement_respects {place : Statement} {run : Database → Except PyError (α × Database)}
    (alike : ∀ first second, tables tenantId drawn first = tables tenantId drawn second →
      @Alike tenantId drawn α (run first) (run second)) :
    Respects (sees tenantId drawn) env (statement place run) := by
  intro first second same
  obtain ⟨committed, working, aborted, redis⟩ := SessionView.mk.inj same
  have outcome := alike _ _ working
  unfold statement
  rw [aborted]
  by_cases failed : second.aborted = true
  · rw [if_pos failed, if_pos failed]
    exact ⟨rfl, same⟩
  · rw [if_neg failed, if_neg failed]
    cases env.fault env.attempt place with
    | some message => exact ⟨rfl, by simp only [sees, committed, working, redis]⟩
    | none =>
      dsimp only
      generalize run first.working = left at outcome
      generalize run second.working = right at outcome
      cases outcome with
      | ok written => exact ⟨rfl, by simp only [sees, committed, written, redis]⟩
      | error exc => exact ⟨rfl, by simp only [sees, committed, working, redis]⟩

theorem query_respects {place : Statement} {read : Database → α}
    (same : ∀ first second, tables tenantId drawn first = tables tenantId drawn second → read first = read second) :
    Respects (sees tenantId drawn) env (query place read) := by
  apply statement_respects
  intro first second alike
  rw [same first second alike]
  exact .ok alike

theorem scalarOneOrNone_respects (rows : List α) : Respects (sees tenantId drawn) env (scalarOneOrNone rows) := by
  match rows with
  | [] => exact .pure _
  | [_] => exact .pure _
  | _ :: _ :: _ => exact .raise _

theorem commit_respects (place : Statement) : Respects (sees tenantId drawn) env (commit place) := by
  intro first second same
  obtain ⟨committed, working, aborted, redis⟩ := SessionView.mk.inj same
  unfold commit
  rw [aborted]
  by_cases failed : second.aborted = true
  · rw [if_pos failed, if_pos failed]
    exact ⟨rfl, same⟩
  · rw [if_neg failed, if_neg failed]
    cases env.fault env.attempt place with
    | some message => exact ⟨rfl, by simp only [sees, committed, working, redis]⟩
    | none => exact ⟨rfl, by simp only [sees, working, redis]⟩

theorem rollback_respects : Respects (sees tenantId drawn) env rollback := by
  intro first second same
  obtain ⟨committed, _, _, redis⟩ := SessionView.mk.inj same
  exact ⟨rfl, by simp only [rollback, modify_apply, sees, committed, redis]⟩

theorem cacheGet_respects {key : String} (own : ownKey tenantId key = true) :
    Respects (sees tenantId drawn) env (cacheGet key) := by
  intro first second same
  have redis := congrFun (SessionView.mk.inj same).2.2.2 key
  simp only [ownRedis, own, if_true] at redis
  exact ⟨by simp only [cacheGet, redis], same⟩

theorem ownRedis_update (redis : Redis) (key : String) (entry : Option CacheEntry) :
    ownRedis tenantId (Function.update redis key entry) =
      if ownKey tenantId key then Function.update (ownRedis tenantId redis) key entry else ownRedis tenantId redis := by
  funext other
  by_cases same : other = key
  · subst same
    by_cases own : ownKey tenantId other = true <;> simp [ownRedis, own]
  · by_cases own : ownKey tenantId key = true <;> simp [ownRedis, own, same]

theorem cacheSet_respects (key : String) (value : Json) (ttlSeconds : Nat) :
    Respects (sees tenantId drawn) env (cacheSet key value ttlSeconds) := by
  intro first second same
  obtain ⟨committed, working, aborted, redis⟩ := SessionView.mk.inj same
  refine ⟨rfl, ?_⟩
  unfold cacheSet
  dsimp only
  split
  · simp only [sees, committed, working, aborted, ownRedis_update, redis]
  · exact same

/-- A request that respects the view of a tenant is answered alike, and leaves stores that look
alike to it. -/
theorem serve_respects {endpoint : Request α} (respects : Respects (sees tenantId drawn) env endpoint) {first second : Store}
    (same : seesStore tenantId drawn first = seesStore tenantId drawn second) :
    (serve endpoint env first).1 = (serve endpoint env second).1 ∧
      seesStore tenantId drawn (serve endpoint env first).2 = seesStore tenantId drawn (serve endpoint env second).2 := by
  obtain ⟨tables, redis⟩ := Prod.mk.inj same
  have opened : sees tenantId drawn first.open = sees tenantId drawn second.open := by
    simp only [sees, Store.open, tables, redis]
  obtain ⟨answered, left⟩ := respects first.open second.open opened
  have closing (reply : Except PyError Unit) : Respects (sees tenantId drawn) env (getDb reply) := by
    cases reply with
    | ok value => exact .handle (commit_respects _) fun _ => .bind rollback_respects fun _ => .raise _
    | error exc => exact .bind rollback_respects fun _ => .raise _
  have closed := (closing ((endpoint env first.open).1.map fun _ => ()) _ _ left).2
  unfold serve
  rcases one : endpoint env first.open with ⟨reply, session⟩
  rcases two : endpoint env second.open with ⟨other, final⟩
  rw [one, two] at answered
  rw [one, two] at closed
  obtain rfl : reply = other := answered
  dsimp only at closed ⊢
  rcases endOne : getDb (reply.map fun _ => ()) env session with ⟨_, before⟩
  rcases endTwo : getDb (reply.map fun _ => ()) env final with ⟨_, after⟩
  rw [endOne, endTwo] at closed
  obtain ⟨committed, _, _, kept⟩ := SessionView.mk.inj closed
  dsimp only at committed kept ⊢
  exact ⟨rfl, congrArg₂ Prod.mk committed kept⟩

theorem tables_own {database : Database} {event : UsageEvent} (own : event.tenantId = tenantId)
    (fits : database.usageEvents.Fits event) :
    tables tenantId drawn { database with usageEvents := database.usageEvents.add event fits } =
      { tables tenantId drawn database with events := (tables tenantId drawn database).events ++ [event] } := by
  have events : (database.usageEvents.add event fits).select (·.tenantId == tenantId) =
      database.usageEvents.select (·.tenantId == tenantId) ++ [event] := by
    rw [Table.select, Table.add_rows, List.filter_append, List.filter_singleton, beq_iff_eq.mpr own]
    rfl
  have taken (id : UUID) : (∃ row ∈ database.usageEvents.add event fits, row.tenantId ≠ tenantId ∧ row.id = id) ↔
      ∃ row ∈ database.usageEvents, row.tenantId ≠ tenantId ∧ row.id = id := by
    constructor
    · intro found
      obtain ⟨row, member, other, same⟩ := found
      rcases List.mem_append.mp member with old | added
      · exact ⟨row, old, other, same⟩
      · exact (other ((List.mem_singleton.mp added) ▸ own)).elim
    · intro found
      obtain ⟨row, member, other, same⟩ := found
      exact ⟨row, List.mem_append_left _ member, other, same⟩
  simp only [tables, events, taken]

theorem tables_other {database : Database} {event : UsageEvent} (other : event.tenantId ≠ tenantId)
    (undrawn : ¬ drawn event.id) (fits : database.usageEvents.Fits event) :
    tables tenantId drawn { database with usageEvents := database.usageEvents.add event fits } =
      tables tenantId drawn database := by
  have events : (database.usageEvents.add event fits).select (·.tenantId == tenantId) =
      database.usageEvents.select (·.tenantId == tenantId) := by
    rw [Table.select, Table.add_rows, List.filter_append, List.filter_singleton, beq_eq_false_iff_ne.mpr other]
    exact List.append_nil _
  have taken (id : UUID) : (drawn id ∧ ∃ row ∈ database.usageEvents.add event fits, row.tenantId ≠ tenantId ∧ row.id = id) ↔
      drawn id ∧ ∃ row ∈ database.usageEvents, row.tenantId ≠ tenantId ∧ row.id = id := by
    refine and_congr_right fun used => ?_
    constructor
    · intro found
      obtain ⟨row, member, foreign, same⟩ := found
      rcases List.mem_append.mp member with old | added
      · exact ⟨row, old, foreign, same⟩
      · rw [List.mem_singleton.mp added] at same
        exact (undrawn (same ▸ used)).elim
    · intro found
      obtain ⟨row, member, foreign, same⟩ := found
      exact ⟨row, List.mem_append_left _ member, foreign, same⟩
  simp only [tables, events, taken]

section

variable {first second : Database} (same : tables tenantId drawn first = tables tenantId drawn second)

include same

theorem monthlyEvents_same (start : Int) : first.monthlyEvents tenantId start = second.monthlyEvents tenantId start := by
  have events := congrArg TableView.events same
  have own (database : Database) : database.monthlyEvents tenantId start =
      ((tables tenantId drawn database).events.filter fun row => decide (start ≤ row.createdAt)) := by
    rw [Database.monthlyEvents, Table.select, tables, Table.select, List.filter_filter]
    exact List.filter_congr fun row _ => Bool.and_comm ..
  rw [own, own, same]

theorem monthlyUsage_same (usageType : UsageType) (start : Int) :
    first.monthlyUsage tenantId usageType start = second.monthlyUsage tenantId usageType start := by
  rw [Database.monthlyUsage, Database.monthlyUsage, monthlyEvents_same same]

theorem monthlyUsageBreakdown_same (start : Int) :
    first.monthlyUsageBreakdown tenantId start = second.monthlyUsageBreakdown tenantId start := by
  simp only [Database.monthlyUsageBreakdown, monthlyEvents_same same, monthlyUsage_same same]

theorem monthlyCost_same (start : Int) : first.monthlyCost tenantId start = second.monthlyCost tenantId start := by
  rw [Database.monthlyCost, Database.monthlyCost, monthlyEvents_same same]

theorem activeSubscriptions_same : first.activeSubscriptions tenantId = second.activeSubscriptions tenantId := by
  rw [Database.activeSubscriptions, Database.activeSubscriptions,
    show first.subscriptions = second.subscriptions from congrArg TableView.subscriptions same]

theorem eventsOf_same {key : UsageKey} (own : key.tenantId = tenantId) : first.eventsOf key = second.eventsOf key := by
  have events (database : Database) : database.eventsOf key = ((tables tenantId drawn database).events.filter (·.key == key)) := by
    rw [Database.eventsOf, Table.select, tables, Table.select, List.filter_filter]
    apply List.filter_congr
    intro row _
    cases selected : row.key == key with
    | false => rfl
    | true =>
      have owner : row.tenantId = tenantId := (congrArg UsageKey.tenantId (eq_of_beq selected)).trans own
      rw [Bool.true_and, owner, beq_self_eq_true]
  rw [events, events, same]

theorem fits_same {event : UsageEvent} (own : event.tenantId = tenantId) (id : drawn event.id) :
    first.usageEvents.Fits event ↔ second.usageEvents.Fits event := by
  have fits (database : Database) : database.usageEvents.Fits event ↔
      (∀ stored ∈ (tables tenantId drawn database).events, ¬ Keyed.Clash stored event) ∧
        ¬ (tables tenantId drawn database).taken event.id := by
    constructor
    · intro free
      refine ⟨fun stored member => free stored (List.mem_of_mem_filter member), ?_⟩
      intro taken
      obtain ⟨_, row, member, _, clash⟩ := taken
      exact free row member (Or.inl clash)
    · intro free stored member clash
      obtain ⟨unclashed, untaken⟩ := free
      by_cases owner : stored.tenantId = tenantId
      · exact unclashed stored (List.mem_filter.mpr ⟨member, beq_iff_eq.mpr owner⟩) clash
      · rcases clash with clash | clash
        · exact untaken ⟨id, stored, member, owner, clash⟩
        · exact owner ((congrArg UsageKey.tenantId clash).trans own)
  rw [fits, fits, same]

theorem conflict_same {key : UsageKey} (own : key.tenantId = tenantId) :
    first.usageEvents.rows.any (·.key == key) = second.usageEvents.rows.any (·.key == key) := by
  have stored (database : Database) : database.usageEvents.rows.any (·.key == key) = true ↔ database.eventsOf key ≠ [] := by
    rw [List.any_eq_true, Database.eventsOf, Table.select, Ne, List.filter_eq_nil_iff]
    simp only [not_forall, not_not, exists_prop]
  rw [Bool.eq_iff_iff, stored, stored, eventsOf_same same own]

theorem insertUsageEvent_alike {event : UsageEvent} (own : event.tenantId = tenantId) (id : drawn event.id) :
    @Alike tenantId drawn _ (first.insertUsageEvent event) (second.insertUsageEvent event) := by
  have tenants : first.tenants = second.tenants := congrArg TableView.tenants same
  have hasTenant : first.hasTenant event.tenantId = second.hasTenant event.tenantId := by
    rw [Database.hasTenant, Database.hasTenant, tenants]
  have conflict := conflict_same same (show event.key.tenantId = tenantId from own)
  unfold Database.insertUsageEvent
  rw [conflict, hasTenant]
  split
  · exact .error _
  split
  · exact .ok same
  · split
    · exact .error _
    · by_cases fits : first.usageEvents.Fits event
      · have also := (fits_same same own id).mp fits
        rw [Table.insert?_of_fits fits, Table.insert?_of_fits also]
        refine .ok ?_
        rw [tables_own own fits, tables_own own also, same]
      · have also := fun other => fits ((fits_same same own id).mpr other)
        rw [Table.insert?_eq_none.mpr fits, Table.insert?_eq_none.mpr also]
        exact .error _

end

end MeteringBilling.Tenancy
