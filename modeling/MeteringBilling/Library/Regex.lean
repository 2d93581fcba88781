import MeteringBilling.Library.Overlap

/-! Regular expressions of symbols and greedy repetitions, and the substitution of all their matches,
as Python's `re.sub` does it from left to right. -/

namespace Regex

open Overlap

variable {α : Type}

/-- One given symbol, or one or more of the symbols that `accepts` takes. -/
inductive Piece (α : Type) where
  | one (symbol : α)
  | many (accepts : α → Bool)

/-- A greedy repetition: the longest run of accepted symbols behind which `next` matches. -/
def run (accepts : α → Bool) (next : List α → Option (List α)) : List α → Option (List α)
  | [] => none
  | head :: text => if accepts head then (run accepts next text).or (next text) else none

variable [DecidableEq α]

/-- What is behind the match at the front of the text. -/
def matchAt : List (Piece α) → List α → Option (List α)
  | [], text => some text
  | .one _ :: _, [] => none
  | .one symbol :: pattern, head :: text => if head = symbol then matchAt pattern text else none
  | .many accepts :: pattern, text => run accepts (matchAt pattern) text

/-- `re.sub(pattern, mask, text)`: `skip` symbols of a match are still to be passed over. -/
def sub (pattern : List (Piece α)) (mask : List α) : Nat → List α → List α
  | _, [] => []
  | skip + 1, _ :: text => sub pattern mask skip text
  | 0, head :: text =>
    match matchAt pattern (head :: text) with
    | some after => mask ++ sub pattern mask (text.length - after.length) text
    | none => head :: sub pattern mask 0 text

def literal (word : List α) : List (Piece α) := word.map .one

/-- The run of accepted symbols does not go on into the text. -/
def Stops (accepts : α → Bool) (text : List α) : Prop := ∀ head, text.head? = some head → accepts head = false

section

variable {accepts : α → Bool} {next : List α → Option (List α)} {pattern : List (Piece α)} {text after : List α}

omit [DecidableEq α] in
theorem run_sound (found : run accepts next text = some after) : ∃ taken tail, text = taken ++ tail ∧ taken ≠ [] ∧
    (∀ symbol ∈ taken, accepts symbol = true) ∧ next tail = some after := by
  induction text with
  | nil => cases found
  | cons head text ih =>
    rw [run] at found
    by_cases accepted : accepts head = true
    · rw [if_pos accepted, Option.or_eq_some_iff] at found
      rcases found with longer | ⟨_, found⟩
      · obtain ⟨taken, tail, rfl, _, others, found⟩ := ih longer
        exact ⟨head :: taken, tail, rfl, List.cons_ne_nil _ _, List.forall_mem_cons.mpr ⟨accepted, others⟩, found⟩
      · exact ⟨[head], text, rfl, List.cons_ne_nil _ _, List.forall_mem_singleton.mpr accepted, found⟩
    · rw [if_neg accepted] at found
      cases found

omit [DecidableEq α] in
theorem run_complete {taken : List α} (nonempty : taken ≠ []) (accepted : ∀ symbol ∈ taken, accepts symbol = true)
    (found : (next text).isSome = true) : (run accepts next (taken ++ text)).isSome = true := by
  induction taken with
  | nil => exact (nonempty rfl).elim
  | cons head taken ih =>
    obtain ⟨accepted, others⟩ := List.forall_mem_cons.mp accepted
    rw [List.cons_append, run, if_pos accepted, Option.isSome_or, Bool.or_eq_true]
    cases taken with
    | nil => exact Or.inr found
    | cons second taken => exact Or.inl (ih (List.cons_ne_nil _ _) others)

omit [DecidableEq α] in
theorem run_some : run accepts some text = some after ↔
    ∃ taken, text = taken ++ after ∧ taken ≠ [] ∧ (∀ symbol ∈ taken, accepts symbol = true) ∧ Stops accepts after := by
  induction text with
  | nil =>
    refine iff_of_false (fun found => by cases found) ?_
    rintro ⟨taken, shape, nonempty, _⟩
    exact nonempty (List.append_eq_nil_iff.mp shape.symm).1
  | cons head text ih =>
    rw [run]
    constructor
    · intro found
      by_cases accepted : accepts head = true
      · rw [if_pos accepted, Option.or_eq_some_iff, ih] at found
        rcases found with ⟨taken, rfl, _, others, stops⟩ | ⟨stopped, same⟩
        · exact ⟨head :: taken, rfl, List.cons_ne_nil _ _, List.forall_mem_cons.mpr ⟨accepted, others⟩, stops⟩
        · obtain rfl := Option.some.inj same
          refine ⟨[head], rfl, List.cons_ne_nil _ _, List.forall_mem_singleton.mpr accepted, fun second first => ?_⟩
          obtain ⟨rest, rfl⟩ := List.head?_eq_some_iff.mp first
          by_contra goes
          rw [run, if_pos (Bool.of_not_eq_false goes), Option.or_eq_none_iff] at stopped
          cases stopped.2
      · rw [if_neg accepted] at found
        cases found
    · rintro ⟨taken, shape, nonempty, accepted, stops⟩
      obtain ⟨symbol, taken, rfl⟩ := List.exists_cons_of_ne_nil nonempty
      obtain ⟨rfl, rfl⟩ := List.cons.inj shape
      obtain ⟨accepted, others⟩ := List.forall_mem_cons.mp accepted
      rw [if_pos accepted, Option.or_eq_some_iff]
      cases taken with
      | cons second taken => exact Or.inl (ih.mpr ⟨second :: taken, rfl, List.cons_ne_nil _ _, others, stops⟩)
      | nil =>
        refine Or.inr ⟨?_, rfl⟩
        cases after with
        | nil => rfl
        | cons second after =>
          change run accepts some (second :: after) = none
          rw [run, stops second rfl, if_neg Bool.false_ne_true]

theorem matchAt_literal {word : List α} : matchAt (literal word ++ pattern) text = some after ↔
    ∃ tail, text = word ++ tail ∧ matchAt pattern tail = some after := by
  induction word generalizing text with
  | nil => exact ⟨fun found => ⟨text, rfl, found⟩, fun ⟨_, shape, found⟩ => shape ▸ found⟩
  | cons symbol word ih =>
    change matchAt (.one symbol :: (literal word ++ pattern)) text = some after ↔ _
    cases text with
    | nil =>
      refine iff_of_false (fun found => by cases found) ?_
      rintro ⟨_, shape, _⟩
      cases shape
    | cons head text =>
      rw [matchAt]
      by_cases same : head = symbol
      · subst same
        rw [if_pos rfl, ih]
        simp
      · rw [if_neg same]
        refine iff_of_false (fun found => by cases found) ?_
        rintro ⟨_, shape, _⟩
        exact same (List.cons.inj shape).1

theorem matchAt_separated {separator : α} (refused : accepts separator = false) :
    matchAt (.many accepts :: .one separator :: pattern) text = some after ↔
      ∃ taken tail, text = taken ++ separator :: tail ∧ taken ≠ [] ∧ (∀ symbol ∈ taken, accepts symbol = true) ∧ matchAt pattern tail = some after := by
  have sound {text after : List α} (found : matchAt (.many accepts :: .one separator :: pattern) text = some after) :
      ∃ taken tail, text = taken ++ separator :: tail ∧
        taken ≠ [] ∧ (∀ symbol ∈ taken, accepts symbol = true) ∧ matchAt pattern tail = some after := by
    obtain ⟨taken, tail, rfl, nonempty, accepted, found⟩ := run_sound found
    obtain ⟨rest, rfl, behind⟩ := matchAt_literal.mp (show matchAt (literal [separator] ++ pattern) tail = _ from found)
    exact ⟨taken, rest, rfl, nonempty, accepted, behind⟩
  refine ⟨sound, ?_⟩
  rintro ⟨taken, tail, rfl, nonempty, accepted, found⟩
  have apart {taken : List α} (accepted : ∀ symbol ∈ taken, accepts symbol = true) : separator ∉ taken := by
    intro member
    rw [accepted separator member] at refused
    cases refused
  have behind : matchAt (.one separator :: pattern) (separator :: tail) = some after :=
    (if_pos rfl).trans found
  obtain ⟨other, matched⟩ := Option.isSome_iff_exists.mp (run_complete nonempty accepted (Option.isSome_of_mem behind))
  obtain ⟨shorter, rest, same, _, others, again⟩ := sound matched
  obtain ⟨rfl, rfl⟩ := before_separator (apart accepted) (apart others) same
  exact matched.trans (again.symm.trans found)

end

end Regex
