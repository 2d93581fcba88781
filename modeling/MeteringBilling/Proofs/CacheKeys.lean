import MeteringBilling.Api

/-! The keys under which the endpoints keep things in Redis: no two purposes share a key, and no
two tenants. -/

namespace MeteringBilling

/-- How the cache keys begin that the requests of a tenant use. -/
def keySpaces : List String := ["tenant:", "usage:", "idem:"]

def ownKey (tenantId : UUID) (key : String) : Bool :=
  keySpaces.any fun space => (space ++ tenantId.str).toList.isPrefixOf key.toList

theorem ownKey_own {space : String} (member : space ∈ keySpaces) (tenantId : UUID) (rest : String) :
    ownKey tenantId (space ++ tenantId.str ++ rest) = true := by
  refine List.any_eq_true.mpr ⟨space, member, ?_⟩
  simp only [List.isPrefixOf_iff_prefix, String.toList_append]
  exact List.prefix_append _ _

theorem keySpace_unique {first second : String} (left : first ∈ keySpaces) (right : second ∈ keySpaces) {rest tail : List Char}
    (same : first.toList ++ rest = second.toList ++ tail) : first = second := by
  have heads : ∀ first ∈ keySpaces, ∀ second ∈ keySpaces,
      first.toList.head? = second.toList.head? → first = second := by decide
  have nonempty : ∀ first ∈ keySpaces, first.toList ≠ [] := by decide
  have head := congrArg List.head? same
  rw [List.head?_append_of_ne_nil _ (nonempty first left), List.head?_append_of_ne_nil _ (nonempty second right)] at head
  exact heads first left second right head

/-- Identifiers have one length, so no key belongs to two tenants. -/
theorem ownKey_other {space : String} (member : space ∈ keySpaces) {tenantId other : UUID} (apart : other ≠ tenantId)
    (rest : String) : ownKey tenantId (space ++ other.str ++ rest) = false := by
  rw [Bool.eq_false_iff]
  intro owned
  obtain ⟨own, spaces, begins⟩ := List.any_eq_true.mp owned
  obtain ⟨tail, same⟩ := List.isPrefixOf_iff_prefix.mp begins
  simp only [String.toList_append, List.append_assoc] at same
  obtain rfl := keySpace_unique spaces member same
  rw [List.append_cancel_left_eq] at same
  simp only [UUID.str, String.toList_ofList] at same
  obtain ⟨chars, _⟩ := List.append_inj same (tenantId.chars_length.trans other.chars_length.symm)
  exact apart (UUID.str_injective (by rw [UUID.str, UUID.str, chars]))

theorem ownKey_tenant (tenantId : UUID) : ownKey tenantId (tenantCacheKey tenantId) = true := by
  have own := ownKey_own (by decide : "tenant:" ∈ keySpaces) tenantId ""
  rwa [String.append_empty] at own

theorem ownKey_usage (tenantId : UUID) (time : DateTime) : ownKey tenantId (usageCacheKey tenantId time) = true := by
  rw [usageCacheKey, String.append_assoc]
  exact ownKey_own (by decide) tenantId _

theorem ownKey_idempotency (key : UsageKey) : ownKey key.tenantId (idempotencyCacheKey key) = true := by
  simp only [idempotencyCacheKey, String.append_assoc]
  rw [← String.append_assoc]
  exact ownKey_own (by decide) key.tenantId _

theorem tenantCacheKey_injective : Function.Injective tenantCacheKey := by
  intro first second same
  have text := congrArg String.toList same
  simp only [tenantCacheKey, String.toList_append, List.append_cancel_left_eq] at text
  exact UUID.str_injective (String.toList_injective text)

theorem usageCacheKey_ne_tenant (tenantId other : UUID) (time : DateTime) :
    usageCacheKey tenantId time ≠ tenantCacheKey other := by
  intro same
  have text := congrArg String.toList same
  simp only [usageCacheKey, tenantCacheKey, String.toList_append, List.append_assoc] at text
  exact absurd (keySpace_unique (by decide) (by decide) text) (by decide)

theorem idempotencyCacheKey_ne_tenant (key : UsageKey) (other : UUID) :
    idempotencyCacheKey key ≠ tenantCacheKey other := by
  intro same
  have text := congrArg String.toList same
  simp only [idempotencyCacheKey, tenantCacheKey, String.toList_append, List.append_assoc] at text
  exact absurd (keySpace_unique (by decide) (by decide) text) (by decide)

theorem idempotencyCacheKey_ne_usage (key : UsageKey) (tenantId : UUID) (time : DateTime) :
    idempotencyCacheKey key ≠ usageCacheKey tenantId time := by
  intro same
  have text := congrArg String.toList same
  simp only [idempotencyCacheKey, usageCacheKey, String.toList_append, List.append_assoc] at text
  exact absurd (keySpace_unique (by decide) (by decide) text) (by decide)

section

variable {tenantId other : UUID} (apart : other ≠ tenantId)

include apart

theorem foreign_tenant : ownKey tenantId (tenantCacheKey other) = false := by
  have foreign := ownKey_other (by decide : "tenant:" ∈ keySpaces) apart ""
  rwa [String.append_empty] at foreign

theorem foreign_usage (time : DateTime) : ownKey tenantId (usageCacheKey other time) = false := by
  rw [usageCacheKey, String.append_assoc]
  exact ownKey_other (by decide) apart _

theorem foreign_idempotency {key : UsageKey} (owner : key.tenantId = other) :
    ownKey tenantId (idempotencyCacheKey key) = false := by
  subst owner
  simp only [idempotencyCacheKey, String.append_assoc]
  rw [← String.append_assoc]
  exact ownKey_other (by decide) apart _

end

end MeteringBilling
