import MeteringBilling.Library.Regex

/-! How a substitution passes over a text. A scan keeps what was masked and what was not, so that what stands
in the result can be followed back to the text. -/

namespace Regex

open Overlap

variable {α : Type} [DecidableEq α] {pattern : List (Piece α)} {mask rest text after out : List α}

def Piece.Takes : Piece α → α → Prop
  | .one symbol, head => head = symbol
  | .many accepts, head => accepts head = true

instance : (piece : Piece α) → (head : α) → Decidable (piece.Takes head)
  | .one symbol, head => inferInstanceAs (Decidable (head = symbol))
  | .many accepts, head => inferInstanceAs (Decidable (accepts head = true))

def Avoids (pattern : List (Piece α)) (symbol : α) : Prop := ∀ piece ∈ pattern, ¬ piece.Takes symbol

instance (pattern : List (Piece α)) (symbol : α) : Decidable (Avoids pattern symbol) :=
  inferInstanceAs (Decidable (∀ piece ∈ pattern, ¬ piece.Takes symbol))

theorem matchAt_taken (found : matchAt pattern text = some after) : ∃ taken, text = taken ++ after ∧
    (pattern ≠ [] → taken ≠ []) ∧ ∀ symbol ∈ taken, ∃ piece ∈ pattern, piece.Takes symbol := by
  induction pattern generalizing text with
  | nil =>
    obtain rfl := Option.some.inj found
    exact ⟨[], rfl, fun nonempty => (nonempty rfl).elim, fun _ member => (List.not_mem_nil member).elim⟩
  | cons piece pattern ih =>
    have later {taken : List α} (others : ∀ symbol ∈ taken, ∃ piece ∈ pattern, piece.Takes symbol) (symbol : α)
        (member : symbol ∈ taken) : ∃ other ∈ piece :: pattern, other.Takes symbol := by
      obtain ⟨other, known, takes⟩ := others symbol member
      exact ⟨other, List.mem_cons_of_mem _ known, takes⟩
    cases piece with
    | one symbol =>
      obtain ⟨tail, rfl, behind⟩ := matchAt_literal.mp (show matchAt (literal [symbol] ++ pattern) text = _ from found)
      obtain ⟨taken, rfl, _, others⟩ := ih behind
      exact ⟨symbol :: taken, rfl, fun _ => List.cons_ne_nil _ _,
        List.forall_mem_cons.mpr ⟨⟨.one symbol, List.mem_cons_self, rfl⟩, later others⟩⟩
    | many accepts =>
      obtain ⟨first, tail, rfl, nonempty, accepted, found⟩ := run_sound found
      obtain ⟨taken, rfl, _, others⟩ := ih found
      refine ⟨first ++ taken, (List.append_assoc _ _ _).symm, fun _ => List.append_ne_nil_of_left_ne_nil nonempty _, ?_⟩
      intro symbol member
      rcases List.mem_append.mp member with inside | inside
      · exact ⟨.many accepts, List.mem_cons_self, accepted symbol inside⟩
      · exact later others symbol inside

/-- The substitution passes over the text, with `rest` behind it, and has a step end at its end. -/
inductive Scans (pattern : List (Piece α)) (mask rest : List α) : List α → List α → Prop
  | nil : Scans pattern mask rest [] []
  | kept {head : α} {text out : List α} (missed : matchAt pattern (head :: (text ++ rest)) = none)
      (scan : Scans pattern mask rest text out) : Scans pattern mask rest (head :: text) (head :: out)
  | masked {taken text out : List α} (found : matchAt pattern (taken ++ (text ++ rest)) = some (text ++ rest))
      (scan : Scans pattern mask rest text out) : Scans pattern mask rest (taken ++ text) (mask ++ out)

theorem sub_skip (skip : Nat) (text : List α) : sub pattern mask skip text = sub pattern mask 0 (text.drop skip) := by
  induction text generalizing skip with
  | nil => cases skip <;> rfl
  | cons head text ih =>
    cases skip with
    | zero => rfl
    | succ skip => exact ih skip

theorem sub_scans (nonempty : pattern ≠ []) (text : List α) : Scans pattern mask [] text (sub pattern mask 0 text) := by
  induction size : text.length using Nat.strong_induction_on generalizing text with
  | _ size ih =>
    cases text with
    | nil => exact .nil
    | cons head text =>
      subst size
      rw [sub]
      cases found : matchAt pattern (head :: text) with
      | none => exact .kept ((List.append_nil text).symm ▸ found) (ih _ (Nat.lt_succ_self _) text rfl)
      | some after =>
        obtain ⟨taken, shape, moves, _⟩ := matchAt_taken found
        obtain ⟨symbol, taken, rfl⟩ := List.exists_cons_of_ne_nil (moves nonempty)
        rw [List.cons_append] at shape
        obtain ⟨rfl, rfl⟩ := List.cons.inj shape
        have behind : (taken ++ after).drop ((taken ++ after).length - after.length) = after := by
          rw [List.length_append, Nat.add_sub_cancel, List.drop_left]
        dsimp only
        rw [sub_skip, behind]
        refine @Scans.masked _ _ _ _ _ (head :: taken) _ _ ?_ (ih _ ?_ after rfl)
        · rw [List.append_nil]
          exact found
        · rw [List.length_cons, List.length_append]
          omega

/-- The result has a step end before `back`, or `back` begins inside a mask. -/
theorem Scans.split {front back : List α} (scan : Scans pattern mask rest text out) (shape : out = front ++ back) :
    (∃ first second, text = first ++ second ∧ Scans pattern mask (second ++ rest) first front ∧
      Scans pattern mask rest second back) ∨
    ∃ begun left tail, mask = begun ++ left ∧ begun ≠ [] ∧ left ≠ [] ∧ back = left ++ tail := by
  induction scan generalizing front with
  | nil =>
    obtain ⟨rfl, rfl⟩ := List.append_eq_nil_iff.mp shape.symm
    exact Or.inl ⟨[], [], rfl, .nil, .nil⟩
  | @kept head text out missed scan ih =>
    rcases List.cons_eq_append_iff.mp shape with ⟨rfl, rfl⟩ | ⟨front, rfl, same⟩
    · exact Or.inl ⟨[], head :: text, rfl, .nil, .kept missed scan⟩
    · rcases ih same with ⟨first, second, rfl, before, behind⟩ | inside
      · exact Or.inl ⟨head :: first, second, rfl, .kept (List.append_assoc _ _ _ ▸ missed) before, behind⟩
      · exact Or.inr inside
  | @masked taken text out found scan ih =>
    rcases List.append_eq_append_iff.mp shape with ⟨extra, rfl, same⟩ | ⟨left, begun, rfl⟩
    · rcases ih same with ⟨first, second, rfl, before, behind⟩ | inside
      · rw [List.append_assoc first] at found
        exact Or.inl ⟨taken ++ first, second, (List.append_assoc _ _ _).symm, .masked found before, behind⟩
      · exact Or.inr inside
    · by_cases start : front = []
      · subst start
        obtain rfl : mask = left := begun
        exact Or.inl ⟨[], taken ++ text, rfl, .nil, .masked found scan⟩
      by_cases whole : left = []
      · subst whole
        obtain rfl : mask = front := begun.trans (List.append_nil _)
        refine Or.inl ⟨taken, text, rfl, ?_, scan⟩
        have last : Scans pattern mask (text ++ rest) (taken ++ []) (mask ++ []) := .masked found .nil
        rwa [List.append_nil, List.append_nil] at last
      · exact Or.inr ⟨front, left, out, begun, start, whole, rfl⟩

/-- A word that no mask reaches into begins at a step end. -/
theorem Scans.boundary {word front back : List α} (clear : Apart word mask.tail)
    (scan : Scans pattern mask rest text out) (shape : out = front ++ (word ++ back)) : ∃ first second, text = first ++ second ∧
      Scans pattern mask (second ++ rest) first front ∧ Scans pattern mask rest second (word ++ back) := by
  rcases scan.split shape with outside | ⟨begun, left, tail, whole, start, nonempty, same⟩
  · exact outside
  · have inside : mask.tail = begun.tail ++ left := by
      rw [whole, List.tail_append_of_ne_nil start]
    exact (apart_iff.mp clear _ _ inside nonempty (meets_of_append same.symm)).elim

theorem Scans.source {word back : List α} (apart : Apart mask word) (scan : Scans pattern mask rest text out)
    (shape : out = word ++ back) : ∃ second, text = word ++ second ∧ Scans pattern mask rest second back := by
  induction word generalizing text out with
  | nil =>
    rw [List.nil_append] at shape
    exact ⟨text, rfl, shape ▸ scan⟩
  | cons symbol word ih =>
    cases scan with
    | nil => cases shape
    | kept missed scan =>
      obtain ⟨rfl, rfl⟩ := List.cons.inj shape
      obtain ⟨second, rfl, behind⟩ := ih apart.2 scan rfl
      exact ⟨second, rfl, behind⟩
    | masked found scan => exact (apart.1 (meets_of_append shape.symm)).elim

theorem Scans.absent {word : List α} (clear : Apart word mask.tail) (untouched : Apart mask word)
    (scan : Scans pattern mask rest text out) (absent : ¬ word <:+: text) : ¬ word <:+: out := by
  rintro ⟨front, back, shape⟩
  rw [List.append_assoc] at shape
  obtain ⟨first, second, rfl, _, behind⟩ := scan.boundary clear shape.symm
  obtain ⟨tail, rfl, _⟩ := behind.source untouched rfl
  exact absent ⟨first, tail, List.append_assoc _ _ _⟩

theorem Scans.mem {symbol : α} (scan : Scans pattern mask rest text out) (member : symbol ∈ out) :
    symbol ∈ text ∨ symbol ∈ mask := by
  induction scan with
  | nil => exact Or.inl member
  | kept missed scan ih =>
    rcases List.mem_cons.mp member with rfl | inside
    · exact Or.inl List.mem_cons_self
    · exact (ih inside).imp_left (List.mem_cons_of_mem _)
  | masked found scan ih =>
    rcases List.mem_append.mp member with inside | inside
    · exact Or.inr inside
    · exact (ih inside).imp_left (List.mem_append_right _)

theorem Scans.cut {separator : α} {first second : List α} (avoids : Avoids pattern separator)
    (scan : Scans pattern mask rest text out) (shape : text = first ++ separator :: second) :
    ∃ front back, out = front ++ separator :: back ∧ Scans pattern mask (separator :: second ++ rest) first front ∧
      Scans pattern mask rest second back := by
  induction scan generalizing first with
  | nil => cases first <;> cases shape
  | @kept head text out missed scan ih =>
    rcases List.cons_eq_append_iff.mp shape with ⟨rfl, same⟩ | ⟨first, rfl, rfl⟩
    · obtain ⟨rfl, rfl⟩ := List.cons.inj same
      exact ⟨[], out, rfl, .nil, scan⟩
    · obtain ⟨front, back, rfl, before, behind⟩ := ih rfl
      exact ⟨head :: front, back, rfl, .kept (List.append_assoc _ _ _ ▸ missed) before, behind⟩
  | @masked taken text out found scan ih =>
    have inside : separator ∉ taken := by
      intro member
      obtain ⟨other, same, _, takes⟩ := matchAt_taken found
      obtain rfl := List.append_cancel_right same
      obtain ⟨piece, known, takes⟩ := takes separator member
      exact avoids piece known takes
    have ends : ∃ extra, first = taken ++ extra ∧ text = extra ++ separator :: second := by
      rcases List.append_eq_append_iff.mp shape with ends | ⟨extra, rfl, same⟩
      · exact ends
      · cases extra with
        | nil => exact ⟨[], by simp, same.symm⟩
        | cons head extra =>
          obtain ⟨rfl, _⟩ := List.cons.inj same
          exact (inside (List.mem_append_right _ List.mem_cons_self)).elim
    obtain ⟨extra, rfl, rfl⟩ := ends
    obtain ⟨front, back, rfl, before, behind⟩ := ih rfl
    rw [List.append_assoc extra] at found
    exact ⟨mask ++ front, back, (List.append_assoc _ _ _).symm, .masked found before, behind⟩

end Regex
