import Mathlib.Data.List.Basic

/-! JSON values as a decoder returns them. Text is left out: encoding a value and
decoding it again is the identity on these trees. -/

inductive Json where
  | null
  | bool (value : Bool)
  | num (value : Int)
  | str (value : String)
  | obj (fields : List (String × Json))

namespace Json

mutual
def same : Json → Json → Bool
  | .null, .null => true
  | .bool first, .bool second => first == second
  | .num first, .num second => first == second
  | .str first, .str second => first == second
  | .obj first, .obj second => sameFields first second
  | _, _ => false

def sameFields : List (String × Json) → List (String × Json) → Bool
  | [], [] => true
  | (key, value) :: rest, (key', value') :: rest' => key == key' && same value value' && sameFields rest rest'
  | _, _ => false
end

mutual
theorem same_iff : ∀ first second, same first second = true ↔ first = second
  | .null, second => by cases second <;> simp [same]
  | .bool _, second => by cases second <;> simp [same]
  | .num _, second => by cases second <;> simp [same]
  | .str _, second => by cases second <;> simp [same]
  | .obj fields, second => by cases second <;> simp [same, sameFields_iff fields]

theorem sameFields_iff : ∀ first second, sameFields first second = true ↔ first = second
  | [], second => by cases second <;> simp [sameFields]
  | (key, value) :: rest, second => by
    cases second with
    | nil => simp [sameFields]
    | cons head tail =>
      obtain ⟨key', value'⟩ := head
      simp [sameFields, same_iff value, sameFields_iff rest, and_assoc]
end

instance : DecidableEq Json := fun first second => decidable_of_iff _ (same_iff first second)

/-- The field of an object, as `dict.get`. -/
def get? : Json → String → Option Json
  | .obj fields, key => fields.lookup key
  | _, _ => none

def str? : Json → Option String
  | .str value => some value
  | _ => none

def num? : Json → Option Int
  | .num value => some value
  | _ => none

def bool? : Json → Option Bool
  | .bool value => some value
  | _ => none

/-- Python's `bool` of the decoded value. -/
def truthy : Json → Bool
  | .null => false
  | .bool value => value
  | .num value => value != 0
  | .str value => value != ""
  | .obj fields => !fields.isEmpty

end Json
