import Mathlib.Data.List.Induction

/-! Memos that keep the values of the keys asked last, as `functools.lru_cache` does. What a memo holds
is told by the history of the questions alone. -/

variable {α β : Type} [DecidableEq α] {capacity : Nat} {compute : α → β} {key : α} {recent history : List α}

/-- The entries, the one asked last in front. -/
structure RecentMemo (capacity : Nat) (compute : α → β) where
  entries : List (α × β)
  sound : ∀ entry ∈ entries, entry.2 = compute entry.1
  bounded : entries.length ≤ capacity

namespace RecentMemo

def empty : RecentMemo capacity compute := ⟨[], List.forall_mem_nil _, Nat.zero_le _⟩

variable (memo : RecentMemo capacity compute)

def keys : List α := memo.entries.map Prod.fst

/-- The value is looked up, or computed where there is none. -/
def value (key : α) : β :=
  match memo.entries.find? (·.1 = key) with
  | some entry => entry.2
  | none => compute key

theorem value_eq (key : α) : memo.value key = compute key := by
  unfold value
  cases found : memo.entries.find? (·.1 = key) with
  | none => rfl
  | some entry =>
    have same : entry.1 = key := by simpa using List.find?_some found
    exact same ▸ memo.sound entry (List.mem_of_find?_eq_some found)

/-- The entry of the key comes in front, and the last one goes where there is no room for it. -/
def ask (key : α) : RecentMemo capacity compute where
  entries := ((key, memo.value key) :: memo.entries.filter (·.1 ≠ key)).take capacity
  sound entry member := by
    rcases List.mem_cons.mp (List.mem_of_mem_take member) with rfl | before
    · exact memo.value_eq key
    · exact memo.sound entry (List.mem_filter.mp before).1
  bounded := List.length_take_le _ _

def touch (recent : List α) (key : α) : List α := key :: recent.filter (· ≠ key)

def recency (history : List α) : List α := history.foldl touch []

theorem recency_append (history : List α) (key : α) : recency (history ++ [key]) = touch (recency history) key :=
  List.foldl_append ..

theorem touch_nodup (nodup : recent.Nodup) : (touch recent key).Nodup := by
  refine List.nodup_cons.mpr ⟨fun member => ?_, nodup.filter _⟩
  simpa using (List.mem_filter.mp member).2

theorem recency_nodup (history : List α) : (recency history).Nodup := by
  induction history using List.reverseRecOn with
  | nil => exact List.nodup_nil
  | append_singleton history key ih =>
    rw [recency_append]
    exact touch_nodup ih

theorem keys_ask (key : α) : (memo.ask key).keys = (touch memo.keys key).take capacity := by
  rw [keys, ask, List.map_take, List.map_cons, touch, keys, List.filter_map]
  rfl

theorem take_filter_take (nodup : recent.Nodup) (kept : Nat) :
    ((recent.take (kept + 1)).filter (· ≠ key)).take kept = (recent.filter (· ≠ key)).take kept := by
  induction recent generalizing kept with
  | nil => rfl
  | cons first rest ih =>
    obtain ⟨apart, nodup⟩ := List.nodup_cons.mp nodup
    rw [List.take_succ_cons]
    by_cases own : first = key
    · obtain rfl := own
      have absent (keys : List α) (among : ∀ other ∈ keys, other ∈ rest) : keys.filter (· ≠ first) = keys := by
        apply List.filter_eq_self.mpr
        intro other member
        exact decide_eq_true fun same => apart (same ▸ among other member)
      rw [List.filter_cons_of_neg (by simp), List.filter_cons_of_neg (by simp), absent _ fun _ member => List.mem_of_mem_take member,
        absent _ fun _ member => member, List.take_take, Nat.min_self]
    · rw [List.filter_cons_of_pos (by simpa using own), List.filter_cons_of_pos (by simpa using own)]
      cases kept with
      | zero => rfl
      | succ kept => rw [List.take_succ_cons, List.take_succ_cons, ih nodup kept]

theorem take_touch_take (nodup : recent.Nodup) (key : α) (capacity : Nat) :
    (touch (recent.take capacity) key).take capacity = (touch recent key).take capacity := by
  cases capacity with
  | zero => rfl
  | succ kept => rw [touch, touch, List.take_succ_cons, List.take_succ_cons, take_filter_take nodup]

/-- The memo holds the keys that the questions have come to last. -/
def Recalls (history : List α) (memo : RecentMemo capacity compute) : Prop := memo.keys = (recency history).take capacity

theorem recalls_empty : Recalls [] (empty : RecentMemo capacity compute) := List.take_nil.symm

variable {memo} in
theorem Recalls.ask (recalls : Recalls history memo) (key : α) : Recalls (history ++ [key]) (memo.ask key) := by
  rw [Recalls, keys_ask, recency_append, recalls, take_touch_take (recency_nodup history)]

end RecentMemo
