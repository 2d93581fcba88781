import Mathlib.Data.Fin.Basic
import Mathlib.Data.List.Basic

/-! Hexadecimal numbers as Python's `int(text, 16)` reads them, kept as their digits, most
significant first. -/

namespace Hexadecimal

def hexDigit (digit : Fin 16) : Char :=
  ['0', '1', '2', '3', '4', '5', '6', '7', '8', '9', 'a', 'b', 'c', 'd', 'e', 'f'].get digit

def nibble (value : Nat) : Fin 16 := Fin.ofNat 16 value

def hexValue? (char : Char) : Option (Fin 16) :=
  if '0' ≤ char ∧ char ≤ '9' then nibble (char.toNat - 48)
  else if 'a' ≤ char ∧ char ≤ 'f' then nibble (char.toNat - 87)
  else if 'A' ≤ char ∧ char ≤ 'F' then nibble (char.toNat - 55)
  else none

/-- The zeros of the decimal digits beyond ASCII, in Unicode 14. -/
def decimalZeros : List Nat := [
  0x660, 0x6f0, 0x7c0, 0x966, 0x9e6, 0xa66, 0xae6, 0xb66, 0xbe6, 0xc66, 0xce6, 0xd66, 0xde6, 0xe50, 0xed0, 0xf20,
  0x1040, 0x1090, 0x17e0, 0x1810, 0x1946, 0x19d0, 0x1a80, 0x1a90, 0x1b50, 0x1bb0, 0x1c40, 0x1c50, 0xa620, 0xa8d0,
  0xa900, 0xa9d0, 0xa9f0, 0xaa50, 0xabf0, 0xff10, 0x104a0, 0x10d30, 0x11066, 0x110f0, 0x11136, 0x111d0, 0x112f0,
  0x11450, 0x114d0, 0x11650, 0x116c0, 0x11730, 0x118e0, 0x11950, 0x11c50, 0x11d50, 0x11da0, 0x16a60, 0x16ac0, 0x16b50,
  0x1d7ce, 0x1d7d8, 0x1d7e2, 0x1d7ec, 0x1d7f6, 0x1e140, 0x1e2f0, 0x1e950, 0x1fbf0]

def wideSpaces : List Nat := [
  0x85, 0xa0, 0x1680, 0x2000, 0x2001, 0x2002, 0x2003, 0x2004, 0x2005, 0x2006, 0x2007, 0x2008, 0x2009, 0x200a,
  0x2028, 0x2029, 0x202f, 0x205f, 0x3000]

/-- `int` reads every decimal digit and every space of Unicode as the ASCII one. -/
def asciiChar (char : Char) : Char :=
  if char.toNat < 127 then char
  else if char.toNat ∈ wideSpaces then ' '
  else match decimalZeros.find? fun start => decide (start ≤ char.toNat ∧ char.toNat < start + 10) with
    | some start => hexDigit (nibble (char.toNat - start))
    | none => '?'

def space (char : Char) : Bool := ['\t', '\n', '\x0b', '\x0c', '\r', ' '].contains char

/-- The hexadecimal digits a text starts with, up to spaces at its end. A digit must come next
at the start and behind an underscore. -/
def scanDigits (needed : Bool) : List Char → Option (List (Fin 16))
  | [] => if needed then none else some []
  | char :: rest =>
    match hexValue? char with
    | some digit => (scanDigits false rest).map (digit :: ·)
    | none =>
      if needed then none
      else if char = '_' then scanDigits true rest
      else if (char :: rest).all space then some []
      else none

/-- Behind a sign. There is no minus among the characters that the parser keeps. -/
def unsigned : List Char → List Char
  | '+' :: rest => rest
  | text => text

/-- Behind `0x` and one underscore. -/
def unmarked : List Char → List Char
  | '0' :: 'x' :: '_' :: rest | '0' :: 'X' :: '_' :: rest | '0' :: 'x' :: rest | '0' :: 'X' :: rest => rest
  | text => text

/-- The digits of `int(text, 16)`. -/
def intDigits? (text : List Char) : Option (List (Fin 16)) :=
  scanDigits true (unmarked (unsigned ((text.map asciiChar).dropWhile space)))

theorem hexValue?_hexDigit (digit : Fin 16) : hexValue? (hexDigit digit) = some digit := by
  revert digit; decide

theorem asciiChar_hexDigit (digit : Fin 16) : asciiChar (hexDigit digit) = hexDigit digit := by
  revert digit; decide

theorem scanDigits_map {digits : List (Fin 16)} {needed : Bool} (present : digits ≠ [] ∨ needed = false) :
    scanDigits needed (digits.map hexDigit) = some digits := by
  induction digits generalizing needed with
  | nil =>
    obtain rfl := present.resolve_left (· rfl)
    rfl
  | cons digit digits ih =>
    rw [List.map_cons, scanDigits, hexValue?_hexDigit]
    simp [ih (Or.inr rfl)]

theorem hexDigit_plain (digit : Fin 16) :
    space (hexDigit digit) = false ∧ hexDigit digit ≠ '+' ∧ hexDigit digit ≠ 'x' ∧ hexDigit digit ≠ 'X' := by
  revert digit; decide

theorem unsigned_of_ne {text : List Char} (other : ∀ char ∈ text.head?, char ≠ '+') : unsigned text = text := by
  unfold unsigned
  split
  · exact (other '+' rfl rfl).elim
  · rfl

theorem unmarked_of_ne {first : Char} {text : List Char} (other : ∀ char ∈ text.head?, char ≠ 'x' ∧ char ≠ 'X') :
    unmarked (first :: text) = first :: text := by
  unfold unmarked
  split
  all_goals first
    | rfl
    | (rename_i same
       obtain ⟨-, rfl⟩ := List.cons.inj same
       simp at other)

theorem intDigits?_map {digits : List (Fin 16)} (present : digits ≠ []) :
    intDigits? (digits.map hexDigit) = some digits := by
  have ascii : (digits.map hexDigit).map asciiChar = digits.map hexDigit := by
    rw [List.map_map]
    exact List.map_congr_left fun digit _ => asciiChar_hexDigit digit
  rw [intDigits?, ascii]
  cases digits with
  | nil => exact (present rfl).elim
  | cons digit digits =>
    have second : ∀ char ∈ (digits.map hexDigit).head?, char ≠ 'x' ∧ char ≠ 'X' := by
      intro char member
      rw [List.head?_map] at member
      obtain ⟨other, _, rfl⟩ := Option.map_eq_some_iff.mp member
      exact (hexDigit_plain other).2.2
    have dropped : ((digit :: digits).map hexDigit).dropWhile space = (digit :: digits).map hexDigit := by
      rw [List.map_cons, List.dropWhile_cons_of_neg (by rw [(hexDigit_plain digit).1]; exact Bool.false_ne_true)]
    have positive : unsigned ((digit :: digits).map hexDigit) = (digit :: digits).map hexDigit := by
      refine unsigned_of_ne fun char member => ?_
      obtain rfl := Option.some.inj member
      exact (hexDigit_plain digit).2.1
    rw [dropped, positive, List.map_cons, unmarked_of_ne second, ← List.map_cons, scanDigits_map (Or.inl present)]

/-- Hexadecimal digits with single underscores between them. -/
inductive Grouped : List Char → Prop where
  | last {char : Char} (hex : (hexValue? char).isSome = true) : Grouped [char]
  | next {char : Char} {text : List Char} (hex : (hexValue? char).isSome = true) (rest : Grouped text) :
    Grouped (char :: text)
  | apart {char : Char} {text : List Char} (hex : (hexValue? char).isSome = true) (rest : Grouped text) :
    Grouped (char :: '_' :: text)

def Continues (text : List Char) : Prop := text = [] ∨ Grouped text ∨ ∃ rest, text = '_' :: rest ∧ Grouped rest

theorem grouped_cons {char : Char} {text : List Char} :
    Grouped (char :: text) ↔ (hexValue? char).isSome = true ∧ Continues text := by
  constructor
  · intro grouped
    cases grouped with
    | last hex => exact ⟨hex, Or.inl rfl⟩
    | next hex rest => exact ⟨hex, Or.inr (Or.inl rest)⟩
    | apart hex rest => exact ⟨hex, Or.inr (Or.inr ⟨_, rfl, rest⟩)⟩
  · rintro ⟨hex, rfl | rest | ⟨rest, rfl, grouped⟩⟩
    · exact .last hex
    · exact .next hex rest
    · exact .apart hex grouped

theorem grouped_head {digits : List Char} (grouped : Grouped digits) :
    ∃ char rest, digits = char :: rest ∧ (hexValue? char).isSome = true ∧ Continues rest := by
  cases digits with
  | nil => cases grouped
  | cons char rest => exact ⟨char, rest, rfl, grouped_cons.mp grouped⟩

/-- A text of some form with spaces behind it. -/
def Ends (form : List Char → Prop) (text : List Char) : Prop :=
  ∃ digits after, text = digits ++ after ∧ form digits ∧ after.all space = true

theorem space_no_digit {char : Char} (blank : space char = true) : hexValue? char = none ∧ char ≠ '_' ∧ char ≠ '+' := by
  rw [space, List.contains_iff_mem] at blank
  simp only [List.mem_cons, List.not_mem_nil, or_false] at blank
  rcases blank with rfl | rfl | rfl | rfl | rfl | rfl <;> decide

theorem ends_grouped_cons {char : Char} {rest : List Char} :
    Ends Grouped (char :: rest) ↔ (hexValue? char).isSome = true ∧ Ends Continues rest := by
  constructor
  · rintro ⟨digits, after, same, grouped, blank⟩
    obtain ⟨first, others, rfl, hex, continues⟩ := grouped_head grouped
    obtain ⟨rfl, rfl⟩ := List.cons.inj same
    exact ⟨hex, others, after, rfl, continues, blank⟩
  · rintro ⟨hex, digits, after, rfl, continues, blank⟩
    exact ⟨char :: digits, after, rfl, grouped_cons.mpr ⟨hex, continues⟩, blank⟩

theorem ends_continues_cons {char : Char} {rest : List Char} :
    Ends Continues (char :: rest) ↔
      (char :: rest).all space = true ∨ Ends Grouped (char :: rest) ∨ char = '_' ∧ Ends Grouped rest := by
  constructor
  · rintro ⟨digits, after, same, rfl | grouped | ⟨others, rfl, grouped⟩, blank⟩
    · exact Or.inl (by rwa [same])
    · exact Or.inr (Or.inl ⟨digits, after, same, grouped, blank⟩)
    · obtain ⟨rfl, rfl⟩ := List.cons.inj same
      exact Or.inr (Or.inr ⟨rfl, others, after, rfl, grouped, blank⟩)
  · rintro (blank | ⟨digits, after, same, grouped, blank⟩ | ⟨rfl, digits, after, rfl, grouped, blank⟩)
    · exact ⟨[], char :: rest, rfl, Or.inl rfl, blank⟩
    · exact ⟨digits, after, same, Or.inr (Or.inl grouped), blank⟩
    · exact ⟨'_' :: digits, after, rfl, Or.inr (Or.inr ⟨digits, rfl, grouped⟩), blank⟩

theorem scanDigits_isSome (text : List Char) :
    ((scanDigits true text).isSome = true ↔ Ends Grouped text) ∧
      ((scanDigits false text).isSome = true ↔ Ends Continues text) := by
  induction text with
  | nil =>
    refine ⟨iff_of_false Bool.false_ne_true ?_, iff_of_true rfl ⟨[], [], rfl, Or.inl rfl, rfl⟩⟩
    rintro ⟨digits, after, same, grouped, _⟩
    obtain ⟨rfl, _⟩ := List.append_eq_nil_iff.mp same.symm
    cases grouped
  | cons char rest ih =>
    rw [ends_continues_cons, ends_grouped_cons, scanDigits, scanDigits]
    cases read : hexValue? char with
    | some digit =>
      have solid : ¬ (char :: rest).all space = true := by
        intro blank
        rw [List.all_cons, Bool.and_eq_true] at blank
        rw [(space_no_digit blank.1).1] at read
        cases read
      have apart : char ≠ '_' := by
        rintro rfl
        cases read
      simp [solid, apart, ih.2]
    | none =>
      by_cases separated : char = '_'
      · subst separated
        have solid : space '_' = false := rfl
        simp [solid, ih.1]
      · simp [separated]

def Marked (text : List Char) : Prop :=
  ∃ marker ∈ [[], ['0', 'x'], ['0', 'X'], ['0', 'x', '_'], ['0', 'X', '_']], ∃ rest, text = marker ++ rest ∧ Ends Grouped rest

def Signed (text : List Char) : Prop := ∃ sign ∈ [[], ['+']], ∃ rest, text = sign ++ rest ∧ Marked rest

/-- A number as `int(text, 16)` takes it, in ASCII: a sign, `0x`, an underscore and spaces
around it may be there or not. -/
def Numeral (text : List Char) : Prop := ∃ before rest, text = before ++ rest ∧ before.all space = true ∧ Signed rest

theorem marked_iff (text : List Char) : Ends Grouped (unmarked text) ↔ Marked text := by
  constructor
  · intro grouped
    unfold unmarked at grouped
    split at grouped
    · exact ⟨['0', 'x', '_'], by simp, _, rfl, grouped⟩
    · exact ⟨['0', 'X', '_'], by simp, _, rfl, grouped⟩
    · exact ⟨['0', 'x'], by simp, _, rfl, grouped⟩
    · exact ⟨['0', 'X'], by simp, _, rfl, grouped⟩
    · exact ⟨[], by simp, _, rfl, grouped⟩
  · rintro ⟨marker, known, rest, rfl, grouped⟩
    have bare : unmarked rest = rest := by
      cases rest with
      | nil => rfl
      | cons char rest =>
        refine unmarked_of_ne fun second member => ?_
        obtain ⟨others, rfl⟩ := List.head?_eq_some_iff.mp member
        have continues := (ends_grouped_cons.mp grouped).2
        constructor <;> rintro rfl <;>
          rcases ends_continues_cons.mp continues with blank | ends | ⟨same, _⟩
        · cases blank
        · cases (ends_grouped_cons.mp ends).1
        · cases same
        · cases blank
        · cases (ends_grouped_cons.mp ends).1
        · cases same
    have whole (char : Char) (others : List Char) (same : rest = char :: others) : char ≠ '_' := by
      rintro rfl
      rw [same] at grouped
      cases (ends_grouped_cons.mp grouped).1
    simp only [List.mem_cons, List.not_mem_nil, or_false] at known
    rcases known with rfl | rfl | rfl | rfl | rfl
    · rwa [List.nil_append, bare]
    · have kept : unmarked (['0', 'x'] ++ rest) = rest := by
        cases rest with
        | nil => rfl
        | cons char others => simp [unmarked, whole char others rfl]
      rwa [kept]
    · have kept : unmarked (['0', 'X'] ++ rest) = rest := by
        cases rest with
        | nil => rfl
        | cons char others => simp [unmarked, whole char others rfl]
      rwa [kept]
    · exact grouped
    · exact grouped

theorem Marked.head {char : Char} {rest : List Char} (marked : Marked (char :: rest)) :
    space char = false ∧ char ≠ '+' := by
  obtain ⟨marker, known, others, same, grouped⟩ := marked
  simp only [List.mem_cons, List.not_mem_nil, or_false] at known
  rcases known with rfl | rfl | rfl | rfl | rfl
  · obtain rfl : char :: rest = others := same
    have hex := (ends_grouped_cons.mp grouped).1
    refine ⟨?_, ?_⟩
    · cases blank : space char with
      | false => rfl
      | true =>
        rw [(space_no_digit blank).1] at hex
        cases hex
    · rintro rfl
      cases hex
  all_goals
    obtain ⟨rfl, _⟩ := List.cons.inj same
    decide

theorem signed_iff (text : List Char) : Marked (unsigned text) ↔ Signed text := by
  constructor
  · intro marked
    unfold unsigned at marked
    split at marked
    · exact ⟨['+'], by simp, _, rfl, marked⟩
    · exact ⟨[], by simp, _, rfl, marked⟩
  · rintro ⟨sign, known, rest, rfl, marked⟩
    simp only [List.mem_cons, List.not_mem_nil, or_false] at known
    rcases known with rfl | rfl
    · rwa [List.nil_append, unsigned_of_ne]
      intro char member
      obtain ⟨others, rfl⟩ := List.head?_eq_some_iff.mp member
      exact marked.head.2
    · exact marked

theorem Signed.head {char : Char} {rest : List Char} (signed : Signed (char :: rest)) : space char = false := by
  obtain ⟨sign, known, others, same, marked⟩ := signed
  simp only [List.mem_cons, List.not_mem_nil, or_false] at known
  rcases known with rfl | rfl
  · obtain rfl : char :: rest = others := same
    exact marked.head.1
  · obtain ⟨rfl, _⟩ := List.cons.inj same
    rfl

/-- `int(text, 16)` reads the numerals and nothing else. -/
theorem intDigits?_isSome (text : List Char) : (intDigits? text).isSome = true ↔ Numeral (text.map asciiChar) := by
  rw [intDigits?, (scanDigits_isSome _).1, marked_iff, signed_iff]
  constructor
  · intro signed
    exact ⟨_, _, List.takeWhile_append_dropWhile.symm, List.all_takeWhile, signed⟩
  · rintro ⟨before, rest, same, blank, signed⟩
    have solid : rest.dropWhile space = rest := by
      cases rest with
      | nil => rfl
      | cons char others => rw [List.dropWhile_cons_of_neg (by rw [signed.head]; exact Bool.false_ne_true)]
    rwa [same, List.dropWhile_append_of_pos (List.all_eq_true.mp blank), solid]

theorem asciiChar_of_hex {char : Char} (hex : (hexValue? char).isSome = true) : asciiChar char = char := by
  have narrow : char.toNat < 127 := by
    by_contra wide
    have beyond (last : Char) (low : last.toNat < 127) : ¬ char ≤ last := fun below =>
      wide (Nat.lt_of_le_of_lt (UInt32.le_iff_toNat_le.mp below) low)
    simp [hexValue?, beyond '9' (by decide), beyond 'f' (by decide), beyond 'F' (by decide)] at hex
  rw [asciiChar, if_pos narrow]

theorem numeral_of_digits {text : List Char} (present : text ≠ [])
    (digits : ∀ char ∈ text, (hexValue? char).isSome = true) : Numeral (text.map asciiChar) := by
  have ascii : text.map asciiChar = text :=
    (List.map_congr_left fun char member => asciiChar_of_hex (digits char member)).trans (List.map_id text)
  have grouped : Grouped text := by
    clear ascii
    induction text with
    | nil => exact (present rfl).elim
    | cons char rest ih =>
      rw [List.forall_mem_cons] at digits
      refine grouped_cons.mpr ⟨digits.1, ?_⟩
      by_cases more : rest = []
      · exact Or.inl more
      · exact Or.inr (Or.inl (ih more digits.2))
  rw [ascii]
  exact ⟨[], text, rfl, rfl, [], by simp, text, rfl, [], by simp, text, rfl, text, [], (List.append_nil text).symm, grouped, rfl⟩

end Hexadecimal
