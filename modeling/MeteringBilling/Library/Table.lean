import Mathlib.Data.List.Pairwise
import Mathlib.Data.List.Basic

/-! Tables under unique constraints. The constraints are part of the type, so every
table a program can hold satisfies them and no reachability argument is needed. -/

universe u

/-- Two rows clash when the unique constraints of their table do not allow both. -/
class Keyed (α : Type u) where
  Clash : α → α → Prop
  symm : ∀ {first second}, Clash first second → Clash second first
  decidable : DecidableRel Clash

open Keyed

instance {α : Type u} [Keyed α] : DecidableRel (Clash : α → α → Prop) := Keyed.decidable

structure Table (α : Type u) [Keyed α] where
  rows : List α
  distinct : rows.Pairwise fun first second => ¬ Clash first second

namespace Table

variable {α : Type u} [Keyed α]

instance : Membership α (Table α) := ⟨fun table row => row ∈ table.rows⟩

instance [DecidableEq α] (row : α) (table : Table α) : Decidable (row ∈ table) :=
  inferInstanceAs (Decidable (row ∈ table.rows))

theorem mem_rows {table : Table α} {row : α} : row ∈ table ↔ row ∈ table.rows := Iff.rfl

theorem not_mem_of_empty {table : Table α} (empty : table.rows = []) (row : α) : row ∉ table := by
  rw [mem_rows, empty]
  exact List.not_mem_nil

@[ext] theorem ext {first second : Table α} (same : first.rows = second.rows) : first = second := by
  cases first; cases second; cases same; rfl

def empty : Table α := ⟨[], .nil⟩

instance [DecidableEq α] : DecidableEq (Table α) := fun first second =>
  decidable_of_iff (first.rows = second.rows) ⟨ext, congrArg rows⟩

def select (table : Table α) (condition : α → Bool) : List α := table.rows.filter condition

def find? (table : Table α) (condition : α → Bool) : Option α := table.rows.find? condition

def Fits (table : Table α) (row : α) : Prop := ∀ stored ∈ table.rows, ¬ Clash stored row

instance (table : Table α) (row : α) : Decidable (table.Fits row) :=
  inferInstanceAs (Decidable (∀ stored ∈ table.rows, ¬ Clash stored row))

def add (table : Table α) (row : α) (fits : table.Fits row) : Table α where
  rows := table.rows ++ [row]
  distinct := by
    rw [List.pairwise_append]
    refine ⟨table.distinct, List.pairwise_singleton _ _, ?_⟩
    intro stored member added same
    rw [List.mem_singleton.mp same]
    exact fits stored member

def insert? (table : Table α) (row : α) : Option (Table α) :=
  if fits : table.Fits row then some (table.add row fits) else none

/-- Rewrite the selected rows. The rewriting leaves every key column alone, so it
cannot break a constraint. -/
def update (table : Table α) (condition : α → Bool) (change : α → α)
    (keeps : ∀ first second, Clash (change first) second ↔ Clash first second) : Table α where
  rows := table.rows.map fun row => if condition row then change row else row
  distinct := by
    have same (first second : α) : Clash (if condition first then change first else first)
        (if condition second then change second else second) ↔ Clash first second := by
      have left (row : α) : Clash (if condition first then change first else first) row ↔ Clash first row := by
        split
        · exact keeps first row
        · exact Iff.rfl
      rw [left]
      split
      · exact ⟨fun clash => symm ((keeps _ _).mp (symm clash)), fun clash => symm ((keeps _ _).mpr (symm clash))⟩
      · exact Iff.rfl
    rw [List.pairwise_map]
    exact table.distinct.imp fun apart clash => apart ((same _ _).mp clash)

/-- Rewrite the selected rows, or nothing when a rewritten row clashes with another. -/
def rewrite? (table : Table α) (condition : α → Bool) (change : α → α) : Option (Table α) :=
  if distinct : (table.rows.map fun row => if condition row then change row else row).Pairwise
      fun first second => ¬ Clash first second then some ⟨_, distinct⟩ else none

theorem eq_of_clash {table : Table α} {first second : α} (left : first ∈ table) (right : second ∈ table)
    (clash : Clash first second) : first = second := by
  by_contra different
  have : Std.Symm fun first second : α => ¬ Clash first second := ⟨fun _ _ apart clash => apart (symm clash)⟩
  exact table.distinct.forall left right different clash

theorem select_eq (table : Table α) (condition : α → Bool)
    (unique : ∀ first second, condition first → condition second → Clash first second) :
    table.select condition = (table.find? condition).toList := by
  obtain ⟨rows, distinct⟩ := table
  simp only [select, find?]
  induction rows with
  | nil => rfl
  | cons row rows ih =>
    obtain ⟨apart, distinct⟩ := List.pairwise_cons.mp distinct
    by_cases selected : condition row
    · have none : rows.filter condition = [] := by
        rw [List.filter_eq_nil_iff]
        intro other member holds
        exact apart other member (unique row other selected holds)
      simp [selected, none]
    · simpa [List.filter_cons, selected] using ih distinct

@[simp] theorem insert?_eq_none {table : Table α} {row : α} : table.insert? row = none ↔ ¬ table.Fits row := by
  unfold insert?
  split <;> simp_all

theorem insert?_of_fits {table : Table α} {row : α} (fits : table.Fits row) :
    table.insert? row = some (table.add row fits) := dif_pos fits

@[simp] theorem add_rows (table : Table α) (row : α) (fits : table.Fits row) :
    (table.add row fits).rows = table.rows ++ [row] := rfl

@[simp] theorem update_rows (table : Table α) (condition : α → Bool) (change : α → α) (keeps) :
    (table.update condition change keeps).rows =
      table.rows.map fun row => if condition row then change row else row := rfl

theorem rewrite?_rows {table after : Table α} {condition : α → Bool} {change : α → α}
    (rewritten : table.rewrite? condition change = some after) :
    after.rows = table.rows.map fun row => if condition row then change row else row := by
  unfold rewrite? at rewritten
  split at rewritten
  · rw [← Option.some.inj rewritten]
  · cases rewritten

theorem rewrite?_ok {table : Table α} {condition : α → Bool} {change : α → α}
    (apart : ∀ first ∈ table, ∀ second ∈ table, ¬ Clash first second →
      ¬ Clash (if condition first then change first else first) (if condition second then change second else second)) :
    ∃ after, table.rewrite? condition change = some after := by
  refine ⟨_, dif_pos (List.pairwise_map.mpr ?_)⟩
  exact table.distinct.imp_of_mem fun left right => apart _ left _ right

omit [Keyed α] in
theorem find?_mapped {rows : List α} {condition : α → Bool} {change : α → α} {other : α → Bool}
    (same : ∀ row, other (change row) = other row) :
    (rows.map fun row => if condition row then change row else row).find? other =
      (rows.find? other).map fun row => if condition row then change row else row := by
  have kept : (other ∘ fun row => if condition row then change row else row) = other := by
    funext row
    simp only [Function.comp_apply]
    split
    · exact same row
    · rfl
  rw [List.find?_map, kept]

/-- A rewriting that leaves a condition alone is seen through the condition. -/
theorem find?_rewrite {table after : Table α} {condition : α → Bool} {change : α → α}
    (rewritten : table.rewrite? condition change = some after) {other : α → Bool}
    (same : ∀ row, other (change row) = other row) :
    after.find? other = (table.find? other).map fun row => if condition row then change row else row := by
  rw [find?, rewrite?_rows rewritten, find?_mapped same]
  rfl

/-- Where the condition is on a unique key, an update rewrites the one row that meets it. -/
theorem update_split {table : Table α} {condition : α → Bool} {row : α} (change : α → α) (keeps)
    (unique : ∀ first second, condition first → condition second → Clash first second)
    (member : row ∈ table) (selected : condition row = true) :
    ∃ first rest, table.rows = first ++ row :: rest ∧
      (table.update condition change keeps).rows = first ++ change row :: rest := by
  obtain ⟨first, rest, split⟩ := List.append_of_mem member
  have distinct := table.distinct
  rw [split] at distinct
  obtain ⟨_, following, apart⟩ := List.pairwise_append.mp distinct
  have before : ∀ other ∈ first, ¬ condition other = true := fun other inside holds =>
    apart other inside row (List.mem_cons_self ..) (unique other row holds selected)
  have behind : ∀ other ∈ rest, ¬ condition other = true := fun other inside holds =>
    (List.pairwise_cons.mp following).1 other inside (unique row other selected holds)
  refine ⟨first, rest, split, ?_⟩
  rw [update_rows, split, List.map_append, List.map_cons, if_pos selected]
  congr 2
  · exact (List.map_congr_left fun other inside => if_neg (before other inside)).trans (List.map_id' _)
  · exact (List.map_congr_left fun other inside => if_neg (behind other inside)).trans (List.map_id' _)

theorem find?_mem {table : Table α} {condition : α → Bool} {row : α} (found : table.find? condition = some row) :
    row ∈ table ∧ condition row = true :=
  ⟨List.mem_of_find?_eq_some found, List.find?_some found⟩

theorem find?_eq_some {table : Table α} {condition : α → Bool} {row : α}
    (unique : ∀ first second, condition first → condition second → Clash first second) :
    table.find? condition = some row ↔ row ∈ table ∧ condition row = true := by
  refine ⟨find?_mem, ?_⟩
  rintro ⟨member, holds⟩
  cases found : table.find? condition with
  | none => exact (List.find?_eq_none.mp found row member holds).elim
  | some other =>
    obtain ⟨present, selected⟩ := find?_mem found
    rw [eq_of_clash present member (unique other row selected holds)]

theorem find?_add (table : Table α) (row : α) (fits : table.Fits row) (condition : α → Bool) :
    (table.add row fits).find? condition =
      (table.find? condition).or (if condition row then some row else none) := by
  rw [find?, add_rows, List.find?_append, List.find?_singleton]
  rfl

/-- An update that leaves a condition alone is seen through the condition. -/
theorem find?_update (table : Table α) (condition : α → Bool) (change : α → α) (keeps) {other : α → Bool}
    (same : ∀ row, other (change row) = other row) :
    (table.update condition change keeps).find? other =
      (table.find? other).map fun row => if condition row then change row else row := by
  rw [find?, update_rows, find?_mapped same]
  rfl

end Table
