import Mathlib.Data.List.Basic
import Mathlib.Data.List.Infix

/-! Words in a text, and when their occurrences overlap. -/

namespace Overlap

variable {α : Type} {text rest : List α}

theorem before_separator {separator : α} {first second rest : List α} (left : separator ∉ first)
    (right : separator ∉ second) (same : first ++ separator :: text = second ++ separator :: rest) : first = second ∧ text = rest := by
  have none_between {short extra tail behind : List α} (absent : separator ∉ short ++ extra)
      (same : separator :: tail = extra ++ separator :: behind) : extra = [] ∧ tail = behind := by
    cases extra with
    | nil => exact ⟨rfl, (List.cons.inj same).2⟩
    | cons head extra =>
      obtain ⟨rfl, _⟩ := List.cons.inj same
      exact (absent (List.mem_append_right _ List.mem_cons_self)).elim
  rcases List.append_eq_append_iff.mp same with ⟨extra, rfl, others⟩ | ⟨extra, rfl, others⟩
  · obtain ⟨rfl, rfl⟩ := none_between right others
    exact ⟨(List.append_nil _).symm, rfl⟩
  · obtain ⟨rfl, rfl⟩ := none_between left others
    exact ⟨List.append_nil _, rfl⟩

def Meets (first second : List α) : Prop := first <+: second ∨ second <+: first

/-- No occurrence of the word begins in the text, not even one that runs over its end. -/
def Apart (word : List α) : List α → Prop
  | [] => True
  | head :: text => ¬ Meets (head :: text) word ∧ Apart word text

instance [DecidableEq α] (first second : List α) : Decidable (Meets first second) := inferInstanceAs (Decidable (_ ∨ _))

instance decidableApart [DecidableEq α] (word : List α) : (text : List α) → Decidable (Apart word text)
  | [] => isTrue trivial
  | _ :: text => @instDecidableAnd _ _ _ (decidableApart word text)

theorem meets_of_append {first second tail : List α} (same : first ++ tail = second ++ rest) : Meets first second :=
  List.prefix_or_prefix_of_prefix ⟨tail, rfl⟩ ⟨rest, same.symm⟩

theorem apart_iff {word text : List α} :
    Apart word text ↔ ∀ before after, text = before ++ after → after ≠ [] → ¬ Meets after word := by
  induction text with
  | nil =>
    refine iff_of_true trivial fun before after shape nonempty => ?_
    exact (nonempty (List.append_eq_nil_iff.mp shape.symm).2).elim
  | cons head text ih =>
    rw [Apart, ih]
    constructor
    · rintro ⟨here, later⟩ before after shape nonempty
      cases before with
      | nil =>
        rw [List.nil_append] at shape
        exact shape ▸ here
      | cons symbol before => exact later before after (List.cons.inj shape).2 nonempty
    · intro apart
      refine ⟨apart [] _ rfl (List.cons_ne_nil _ _), fun before after shape => apart (head :: before) after ?_⟩
      rw [shape, List.cons_append]

theorem apart_tail {word text : List α} (apart : Apart word text) : Apart word text.tail := by
  cases text with
  | nil => exact apart
  | cons head text => exact apart.2

theorem apart_append {word first second : List α} (left : Apart word first) (right : Apart word second) :
    Apart word (first ++ second) := by
  induction first with
  | nil => exact right
  | cons head first ih =>
    refine ⟨fun meets => left.1 ?_, ih left.2⟩
    rcases meets with short | long
    · exact Or.inl ((List.prefix_append (head :: first) second).trans short)
    · exact (List.prefix_or_prefix_of_prefix long (List.prefix_append (head :: first) second)).symm

theorem last_of_append {symbol : α} {body before after : List α} (shape : body ++ [symbol] = before ++ after)
    (nonempty : after ≠ []) : ∃ inner, after = inner ++ [symbol] ∧ body = before ++ inner := by
  rcases List.eq_nil_or_concat after with rfl | ⟨inner, last, rfl⟩
  · exact (nonempty rfl).elim
  · rw [List.concat_eq_append, ← List.append_assoc] at shape
    obtain ⟨rfl, rfl⟩ := List.append_singleton_inj.mp shape
    exact ⟨inner, List.concat_eq_append, rfl⟩

/-- The text ends in the symbol and has it nowhere else. -/
def Closes (symbol : α) (text : List α) : Prop := ∃ body, text = body ++ [symbol] ∧ symbol ∉ body

theorem Closes.suffix {symbol : α} {before after : List α} (closes : Closes symbol (before ++ after))
    (nonempty : after ≠ []) : Closes symbol after := by
  obtain ⟨body, shape, absent⟩ := closes
  obtain ⟨inner, rfl, rfl⟩ := last_of_append shape.symm nonempty
  exact ⟨inner, rfl, fun member => absent (List.mem_append_right _ member)⟩

theorem Closes.eq_of_meets {symbol : α} {first second : List α} (left : Closes symbol first)
    (right : Closes symbol second) (meets : Meets first second) : first = second := by
  obtain ⟨body, rfl, absent⟩ := left
  obtain ⟨other, rfl, free⟩ := right
  have same {body other tail : List α} (absent : symbol ∉ body) (free : symbol ∉ other)
      (shape : body ++ [symbol] ++ tail = other ++ [symbol]) : body = other := by
    rw [List.append_assoc] at shape
    exact (before_separator absent free shape).1
  rcases meets with ⟨tail, shape⟩ | ⟨tail, shape⟩
  · rw [same absent free shape]
  · rw [same free absent shape]

theorem Closes.within_left {symbol : α} {word first second : List α} (closes : Closes symbol word)
    (absent : symbol ∉ second) (inside : word <:+: first ++ second) : word <:+: first := by
  obtain ⟨body, rfl, _⟩ := closes
  obtain ⟨before, after, shape⟩ := inside
  rcases List.append_eq_append_iff.mp shape with ⟨extra, rfl, _⟩ | ⟨extra, same, rfl⟩
  · exact ⟨before, extra, rfl⟩
  · by_cases whole : extra = []
    · subst whole
      exact ⟨before, [], by rw [same]; simp⟩
    · rw [← List.append_assoc] at same
      obtain ⟨inner, rfl, _⟩ := last_of_append same whole
      exact (absent (by simp)).elim

/-- A closed word overlaps with another only if it is a part of it. -/
theorem Closes.apart {symbol : α} {word text : List α} (closes : Closes symbol word) (other : Closes symbol text)
    (outside : ¬ word <:+: text) : Apart word text := by
  refine apart_iff.mpr fun before after shape nonempty meets => outside ?_
  subst shape
  rw [← (other.suffix nonempty).eq_of_meets closes meets]
  exact (List.suffix_append before after).isInfix

theorem apart_absent {head : α} {word text : List α} (absent : head ∉ text) : Apart (head :: word) text := by
  refine apart_iff.mpr fun before after shape nonempty meets => absent ?_
  obtain ⟨symbol, after, rfl⟩ := List.exists_cons_of_ne_nil nonempty
  have same : symbol = head := by
    rcases meets with ⟨tail, same⟩ | ⟨tail, same⟩
    · exact (List.cons.inj same).1
    · exact (List.cons.inj same).1.symm
  simp [shape, same]

theorem Closes.occurrences {symbol : α} {word first second front back : List α} (closes : Closes symbol word)
    (same : first ++ (word ++ second) = front ++ (word ++ back)) :
    first = front ∨ word <:+: front ∨ word <:+: back := by
  have closed := closes
  obtain ⟨body, rfl, absent⟩ := closes
  have shape : (first ++ body) ++ symbol :: second = (front ++ body) ++ symbol :: back := by simpa using same
  rcases List.append_eq_append_iff.mp shape with ⟨extra, earlier, others⟩ | ⟨extra, later, others⟩
  · cases extra with
    | nil => exact Or.inl (List.append_cancel_right (earlier.trans (List.append_nil _))).symm
    | cons head extra =>
      obtain ⟨rfl, rfl⟩ := List.cons.inj others
      exact Or.inr (Or.inl (closed.within_left absent ⟨first, extra, by simp [earlier]⟩))
  · cases extra with
    | nil => exact Or.inl (List.append_cancel_right (later.trans (List.append_nil _)))
    | cons head extra =>
      obtain ⟨rfl, rfl⟩ := List.cons.inj others
      refine Or.inr (Or.inr ?_)
      have ends : first ++ body = (front ++ body ++ [symbol]) ++ extra := by simpa using later
      rcases List.append_eq_append_iff.mp ends with ⟨between, cut, rfl⟩ | ⟨between, rfl, rfl⟩
      · by_cases whole : between = []
        · subst whole
          exact ⟨[], second, by simp⟩
        · obtain ⟨inner, rfl, _⟩ := last_of_append cut whole
          exact (absent (by simp)).elim
      · exact ⟨between, second, by simp⟩

/-- A word without the last symbol of a text stands in front of that symbol or not at all. -/
theorem apart_closed {symbol : α} {word body : List α} (absent : symbol ∉ word) (free : ¬ word <:+: body) :
    Apart word (body ++ [symbol]) := by
  refine apart_iff.mpr fun before after shape nonempty meets => ?_
  obtain ⟨inner, rfl, rfl⟩ := last_of_append shape nonempty
  rcases meets with ⟨tail, rfl⟩ | ⟨tail, same⟩
  · exact absent (by simp)
  · have behind : tail ≠ [] := by
      rintro rfl
      rw [List.append_nil] at same
      exact absent (by simp [same])
    obtain ⟨last, rfl, rfl⟩ := last_of_append same.symm behind
    exact free ⟨before, last, List.append_assoc _ _ _⟩

theorem Apart.not_within {word text : List α} (nonempty : word ≠ []) (apart : Apart word text) : ¬ word <:+: text := by
  rintro ⟨before, after, rfl⟩
  refine apart_iff.mp apart before (word ++ after) (List.append_assoc _ _ _) ?_ (Or.inr (List.prefix_append _ _))
  exact List.append_ne_nil_of_left_ne_nil nonempty _

end Overlap
