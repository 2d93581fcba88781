import MeteringBilling.Session

/-! Redis as `src/config/cache.py` uses it: every failure reads as a miss and loses a write. -/

namespace MeteringBilling

def cacheGet (key : String) : Request (Option Json) := fun env session =>
  (.ok (if env.redisUp .get key then (session.redis key).map CacheEntry.value else none), session)

def cacheSet (key : String) (value : Json) (ttlSeconds : Nat) : Request Unit := fun env session =>
  (.ok (), if env.redisUp .set key then
    { session with redis := Function.update session.redis key (some ⟨value, ttlSeconds⟩) } else session)

def cacheDelete (key : String) : Request Unit := fun env session =>
  (.ok (), if env.redisUp .delete key then
    { session with redis := Function.update session.redis key none } else session)

def idempotencyTtlSeconds : Nat := 86400

def idempotencyCacheKey (key : UsageKey) : String :=
  "idem:" ++ key.tenantId.str ++ ":" ++ key.idempotencyKey ++ ":" ++ key.usageType.value

def checkIdempotencyKey (key : UsageKey) : Request (Option Json) := cacheGet (idempotencyCacheKey key)

def storeIdempotencyResponse (key : UsageKey) (response : Json) : Request Unit :=
  cacheSet (idempotencyCacheKey key) response idempotencyTtlSeconds

private theorem split_at_last {first second tail rest : List Char} (plain : ':' ∉ tail) (bare : ':' ∉ rest)
    (same : first ++ ':' :: tail = second ++ ':' :: rest) : first = second ∧ tail = rest := by
  have reversed := congrArg List.reverse same
  simp only [List.reverse_append, List.reverse_cons, List.append_assoc, List.singleton_append] at reversed
  have front {left right : List Char} (inside : ':' ∉ left) (outside : ':' ∉ right) {before after : List Char}
      (equal : left ++ ':' :: before = right ++ ':' :: after) : left = right ∧ before = after := by
    induction left generalizing right with
    | nil =>
      cases right with
      | nil => exact ⟨rfl, (List.cons.inj equal).2⟩
      | cons char right => exact (outside (by rw [← (List.cons.inj equal).1]; exact List.mem_cons_self)).elim
    | cons char left ih =>
      cases right with
      | nil => exact (inside (by rw [(List.cons.inj equal).1]; exact List.mem_cons_self)).elim
      | cons other right =>
        obtain ⟨rfl, remaining⟩ := List.cons.inj equal
        obtain ⟨rfl, rfl⟩ := ih (fun colon => inside (List.mem_cons_of_mem _ colon))
          (fun colon => outside (List.mem_cons_of_mem _ colon)) remaining
        exact ⟨rfl, rfl⟩
  obtain ⟨tails, heads⟩ := front (fun colon => plain (List.mem_reverse.mp colon))
    (fun colon => bare (List.mem_reverse.mp colon)) reversed
  exact ⟨List.reverse_injective heads, List.reverse_injective tails⟩

theorem UsageType.value_plain (type : UsageType) : ':' ∉ type.value.toList := by cases type <;> decide

/-- Different triples have different cache keys, also when idempotency keys contain colons. -/
theorem idempotencyCacheKey_injective : Function.Injective idempotencyCacheKey := by
  intro first second same
  have text := congrArg String.toList same
  have colon : ":".toList = [':'] := by decide
  simp only [idempotencyCacheKey, String.toList_append, List.append_assoc, UUID.str, String.toList_ofList, colon,
    List.append_cancel_left_eq, List.singleton_append] at text
  obtain ⟨tenants, rest⟩ := List.append_inj text (first.tenantId.chars_length.trans second.tenantId.chars_length.symm)
  obtain ⟨keys, types⟩ :=
    split_at_last first.usageType.value_plain second.usageType.value_plain (List.cons.inj rest).2
  have tenantId : first.tenantId = second.tenantId :=
    UUID.str_injective (by rw [UUID.str, UUID.str, tenants])
  have idempotencyKey : first.idempotencyKey = second.idempotencyKey := String.toList_injective keys
  have usageType : first.usageType = second.usageType := UsageType.value_injective (String.toList_injective types)
  cases first; cases second
  simp_all

end MeteringBilling
