import Mathlib.Data.List.MinMax
import Mathlib.Data.List.Perm.Subperm

/-! Sorted sets as Redis keeps them: members with scores, each member once. The order in
which entries are listed carries no meaning; ranges are by score. -/

universe u v

structure SortedSet (μ : Type u) (κ : Type v) where
  entries : List (μ × κ)
  distinct : (entries.map Prod.fst).Nodup

namespace SortedSet

variable {μ : Type u} {κ : Type v} [LinearOrder κ]

def empty : SortedSet μ κ := ⟨[], .nil⟩

/-- `ZREMRANGEBYSCORE`, both bounds included. -/
def removeRangeByScore (set : SortedSet μ κ) (low high : κ) : SortedSet μ κ where
  entries := set.entries.filter fun entry => !decide (low ≤ entry.2 ∧ entry.2 ≤ high)
  distinct := set.distinct.sublist (List.filter_sublist.map _)

def card (set : SortedSet μ κ) : Nat := set.entries.length

/-- `ZADD` of one member, which is given a new score if it is there. -/
def add [DecidableEq μ] (set : SortedSet μ κ) (member : μ) (score : κ) : SortedSet μ κ where
  entries := (set.entries.filter fun entry => entry.1 != member) ++ [(member, score)]
  distinct := by
    rw [List.map_append, List.nodup_append]
    refine ⟨set.distinct.sublist (List.filter_sublist.map _), List.pairwise_singleton _ _, ?_⟩
    intro other present last added same
    obtain ⟨entry, kept, rfl⟩ := List.mem_map.mp present
    rw [List.map_singleton, List.mem_singleton] at added
    have apart := (List.mem_filter.mp kept).2
    simp [same.trans added] at apart

/-- The first entry, as `ZRANGE key 0 0 WITHSCORES` reports it. -/
def first? (set : SortedSet μ κ) : Option (μ × κ) := set.entries.argmin Prod.snd

def members (set : SortedSet μ κ) : List μ := set.entries.map Prod.fst

omit [LinearOrder κ] in
@[simp] theorem add_entries [DecidableEq μ] (set : SortedSet μ κ) (member : μ) (score : κ) :
    (set.add member score).entries = (set.entries.filter fun entry => entry.1 != member) ++ [(member, score)] := rfl

@[simp] theorem removeRangeByScore_entries (set : SortedSet μ κ) (low high : κ) :
    (set.removeRangeByScore low high).entries =
      set.entries.filter fun entry => !decide (low ≤ entry.2 ∧ entry.2 ≤ high) := rfl

theorem first?_eq_none {set : SortedSet μ κ} : set.first? = none ↔ set.entries = [] := List.argmin_eq_none

theorem first?_mem {set : SortedSet μ κ} {entry : μ × κ} (first : set.first? = some entry) : entry ∈ set.entries :=
  List.argmin_mem first

theorem first?_le {set : SortedSet μ κ} {entry other : μ × κ} (first : set.first? = some entry)
    (present : other ∈ set.entries) : entry.2 ≤ other.2 :=
  List.le_of_mem_argmin present first

omit [LinearOrder κ] in
theorem length_le_card {set : SortedSet μ κ} {members : List μ} (distinct : members.Nodup)
    (inside : ∀ member ∈ members, member ∈ set.members) : members.length ≤ set.card := by
  rw [card, ← List.length_map Prod.fst]
  exact (List.subperm_of_subset distinct inside).length_le

end SortedSet
