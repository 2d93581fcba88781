import Mathlib.Algebra.Group.Nat.Defs
import MeteringBilling.Library.Hexadecimal

/-! Universally unique identifiers as Python's `uuid.UUID` reads and prints them.
The 128 bits are kept as 32 hexadecimal digits, most significant first. -/

structure UUID where
  digits : List (Fin 16)
  size : digits.length = 32
deriving DecidableEq

namespace UUID

open Hexadecimal

/-- `uuid.UUID(int=n)`. -/
def ofInt (n : Nat) : UUID where
  digits := (List.range 32).map fun index => nibble (n / 16 ^ (31 - index))
  size := by rw [List.length_map, List.length_range]

/-- `str(uuid)`: the digits in groups of 8, 4, 4, 4 and 12. -/
def chars (uuid : UUID) : List Char :=
  let hex := uuid.digits.map hexDigit
  hex.take 8 ++ '-' :: (hex.drop 8).take 4 ++ '-' :: (hex.drop 12).take 4 ++
    '-' :: (hex.drop 16).take 4 ++ '-' :: hex.drop 20

def str (uuid : UUID) : String := String.ofList uuid.chars

/-- `text.replace(word, "")`: `skip` characters of an occurrence are still to be dropped. -/
def erase (word : List Char) : Nat → List Char → List Char
  | _, [] => []
  | skip + 1, _ :: rest => erase word skip rest
  | 0, char :: rest =>
    if word.isPrefixOf (char :: rest) then erase word (word.length - 1) rest
    else char :: erase word 0 rest

def brace (char : Char) : Bool := char == '\x7b' || char == '\x7d'

def strip (text : List Char) : List Char := ((text.dropWhile brace).reverse.dropWhile brace).reverse

/-- What the parser takes for the number. -/
def cleaned (text : List Char) : List Char :=
  (strip (erase "uuid:".toList 0 (erase "urn:".toList 0 text))).filter (· ≠ '-')

/-- `uuid.UUID(int=n)` for a number of at most 32 digits. -/
def ofDigits (digits : List (Fin 16)) : UUID where
  digits := (List.replicate 32 (nibble 0) ++ digits).drop digits.length
  size := by rw [List.length_drop, List.length_append, List.length_replicate, Nat.add_sub_cancel_right]

/-- `uuid.UUID(text)`: the parser drops `urn:`, `uuid:`, outer braces and every hyphen, needs
32 characters to be left and reads them with `int`. -/
def parse? (text : String) : Option UUID :=
  if (cleaned text.toList).length = 32 then (intDigits? (cleaned text.toList)).map ofDigits else none

/-- The four bits of the version and the two of the variant, written over those of an identifier. -/
def withVersion (version : Fin 16) (uuid : UUID) : UUID where
  digits := (uuid.digits.set 12 version).set 16 (nibble (8 + (uuid.digits.getD 16 (nibble 0)).val % 4))
  size := by rw [List.length_set, List.length_set, uuid.size]

/-- `uuid.UUID(text, version=n)`: the version of the text is not looked at. -/
def parseAs? (version : Nat) (text : String) : Option UUID := do
  let uuid ← parse? text
  if 1 ≤ version ∧ version ≤ 5 then some (uuid.withVersion (nibble version)) else none

theorem chars_length (uuid : UUID) : uuid.chars.length = 36 := by
  simp [chars, uuid.size]

theorem hexDigit_ne_hyphen (digit : Fin 16) : hexDigit digit ≠ '-' := by
  revert digit; decide

/-- Only these characters are printed, so the parser's clean-up finds nothing to drop. -/
def Printed (char : Char) : Prop := char = '-' ∨ ∃ digit, char = hexDigit digit

theorem printed_chars (uuid : UUID) : ∀ char ∈ uuid.chars, Printed char := by
  intro char member
  have digit (char : Char) (inside : char ∈ uuid.digits.map hexDigit) : Printed char := by
    obtain ⟨digit, _, rfl⟩ := List.mem_map.mp inside
    exact Or.inr ⟨digit, rfl⟩
  simp only [chars, List.mem_append, List.mem_cons] at member
  rcases member with (((member | rfl | member) | rfl | member) | rfl | member) | rfl | member
  · exact digit char (List.mem_of_mem_take member)
  · exact Or.inl rfl
  · exact digit char (List.mem_of_mem_drop (List.mem_of_mem_take member))
  · exact Or.inl rfl
  · exact digit char (List.mem_of_mem_drop (List.mem_of_mem_take member))
  · exact Or.inl rfl
  · exact digit char (List.mem_of_mem_drop (List.mem_of_mem_take member))
  · exact Or.inl rfl
  · exact digit char (List.mem_of_mem_drop member)

theorem Printed.ne {char : Char} (printed : Printed char) :
    char ≠ 'u' ∧ char ≠ ':' ∧ brace char = false := by
  rcases printed with rfl | ⟨digit, rfl⟩
  · decide
  · revert digit; decide

theorem erase_of_absent (head : Char) (word : List Char) (text : List Char) (absent : head ∉ text) :
    erase (head :: word) 0 text = text := by
  induction text with
  | nil => rfl
  | cons char rest ih =>
    have different : head ≠ char := fun same => absent (by simp [same])
    have unmatched : (head :: word).isPrefixOf (char :: rest) = false := by
      simp [List.isPrefixOf, different]
    rw [erase, unmatched, ih (fun inside => absent (List.mem_cons_of_mem _ inside))]
    simp

theorem strip_of_plain (text : List Char) (plain : ∀ char ∈ text, brace char = false) : strip text = text := by
  have kept (text : List Char) (plain : ∀ char ∈ text, brace char = false) : text.dropWhile brace = text := by
    cases text with
    | nil => rfl
    | cons char rest => simp [plain char (by simp)]
  rw [strip, kept text plain, kept _ (fun char member => plain char (List.mem_reverse.mp member)),
    List.reverse_reverse]

theorem chars_filter (uuid : UUID) : uuid.chars.filter (· ≠ '-') = uuid.digits.map hexDigit := by
  have hex (char : Char) (inside : char ∈ uuid.digits.map hexDigit) : decide (char ≠ '-') = true := by
    obtain ⟨digit, _, rfl⟩ := List.mem_map.mp inside
    exact decide_eq_true (hexDigit_ne_hyphen digit)
  have take (n : Nat) (text : List Char) (sub : ∀ char ∈ text, char ∈ uuid.digits.map hexDigit) :
      (text.take n).filter (· ≠ '-') = text.take n :=
    List.filter_eq_self.mpr fun char member => hex char (sub char (List.mem_of_mem_take member))
  have drop (n : Nat) : ((uuid.digits.map hexDigit).drop n).filter (· ≠ '-') = (uuid.digits.map hexDigit).drop n :=
    List.filter_eq_self.mpr fun char member => hex char (List.mem_of_mem_drop member)
  simp only [chars, List.filter_append, List.filter_cons]
  rw [take _ _ (fun _ inside => inside), take _ _ (fun _ inside => List.mem_of_mem_drop inside),
    take _ _ (fun _ inside => List.mem_of_mem_drop inside), take _ _ (fun _ inside => List.mem_of_mem_drop inside), drop]
  simp only [ne_eq, not_true_eq_false, decide_false, Bool.false_eq_true, ite_false]
  have split (i j : Nat) : (uuid.digits.map hexDigit).drop (i + j) = ((uuid.digits.map hexDigit).drop i).drop j :=
    List.drop_drop.symm
  rw [split 16 4, split 12 4, split 8 4]
  simp only [List.append_assoc, List.take_append_drop]

theorem cleaned_of_plain {text : List Char} (word : 'u' ∉ text) (plain : ∀ char ∈ text, brace char = false) :
    cleaned text = text.filter (· ≠ '-') := by
  rw [cleaned, show "urn:".toList = ['u', 'r', 'n', ':'] by decide, show "uuid:".toList = ['u', 'u', 'i', 'd', ':'] by decide,
    erase_of_absent _ _ _ word, erase_of_absent _ _ _ word, strip_of_plain _ plain]

theorem ofDigits_digits (uuid : UUID) : ofDigits uuid.digits = uuid := by
  have whole : (ofDigits uuid.digits).digits = uuid.digits := by
    simp [ofDigits, uuid.size]
  cases uuid
  cases hread : ofDigits _
  simp_all

theorem parse?_str (uuid : UUID) : parse? uuid.str = some uuid := by
  have plain := fun char member => (printed_chars uuid char member).ne
  have urn : 'u' ∉ uuid.chars := fun inside => (plain 'u' inside).1 rfl
  have cleaned : cleaned uuid.str.toList = uuid.digits.map hexDigit := by
    rw [str, String.toList_ofList, cleaned_of_plain urn (fun char member => (plain char member).2.2), chars_filter]
  have present : uuid.digits ≠ [] := by
    intro none
    have size := uuid.size
    rw [none] at size
    cases size
  rw [parse?, cleaned, List.length_map, uuid.size, if_pos rfl, intDigits?_map present, Option.map_some, ofDigits_digits]

/-- The parser reads exactly the texts of which it keeps 32 characters that write a number. -/
theorem parse?_isSome (text : String) : (parse? text).isSome = true ↔
    (cleaned text.toList).length = 32 ∧ Numeral ((cleaned text.toList).map asciiChar) := by
  rw [← intDigits?_isSome, parse?]
  by_cases whole : (cleaned text.toList).length = 32 <;> simp [whole]

theorem str_injective : Function.Injective str := by
  intro first second same
  have parsed := congrArg parse? same
  rw [parse?_str, parse?_str] at parsed
  exact Option.some.inj parsed

end UUID
