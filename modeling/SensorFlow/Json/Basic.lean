/-!
# JSON values

The documents that the analysis reads and writes. Whole numbers are unbounded; other numbers are
floating-point numbers, held exactly if they are finite.
-/
namespace SensorFlow
set_option autoImplicit false

/-- What stands for a floating-point number where there is no finite one. -/
inductive NonFinite where
  | undefined
  | infinity
  | minusInfinity
  deriving Repr, DecidableEq

namespace NonFinite

def all : List NonFinite := [undefined, infinity, minusInfinity]

/-- The word for it in a document. -/
def word : NonFinite → String
  | undefined => "NaN"
  | infinity => "Infinity"
  | minusInfinity => "-Infinity"

end NonFinite

inductive Json where
  | null
  | bool (value : Bool)
  | int (value : Int)
  | float (value : Rat)
  | nonFinite (value : NonFinite)
  | str (value : String)
  | arr (items : List Json)
  | obj (members : List (String × Json))
  deriving Repr, Inhabited

namespace Json

mutual
/-- Whether two values are the same, with the same members in the same order. -/
def same : Json → Json → Bool
  | .null, .null => true
  | .bool value, .bool other => value == other
  | .int value, .int other => value == other
  | .float value, .float other => value == other
  | .nonFinite value, .nonFinite other => value == other
  | .str value, .str other => value == other
  | .arr items, .arr others => sameItems items others
  | .obj members, .obj others => sameMembers members others
  | _, _ => false

def sameItems : List Json → List Json → Bool
  | [], [] => true
  | item :: items, other :: others => same item other && sameItems items others
  | _, _ => false

def sameMembers : List (String × Json) → List (String × Json) → Bool
  | [], [] => true
  | (key, value) :: members, (name, other) :: others =>
    key == name && same value other && sameMembers members others
  | _, _ => false
end

mutual
theorem same_iff (value other : Json) : same value other = true ↔ value = other := by
  cases value with
  | arr items =>
    cases other with
    | arr others => simp [same, sameItems_iff items others]
    | _ => simp [same]
  | obj members =>
    cases other with
    | obj others => simp [same, sameMembers_iff members others]
    | _ => simp [same]
  | _ => cases other <;> simp [same]

theorem sameItems_iff (items others : List Json) :
    sameItems items others = true ↔ items = others := by
  cases items with
  | nil => cases others <;> simp [sameItems]
  | cons item items =>
    cases others with
    | nil => simp [sameItems]
    | cons other others => simp [sameItems, same_iff item other, sameItems_iff items others]

theorem sameMembers_iff (members others : List (String × Json)) :
    sameMembers members others = true ↔ members = others := by
  cases members with
  | nil => cases others <;> simp [sameMembers]
  | cons member members =>
    cases others with
    | nil => simp [sameMembers]
    | cons other others =>
      obtain ⟨key, value⟩ := member
      obtain ⟨name, otherValue⟩ := other
      simp [sameMembers, same_iff value otherValue, sameMembers_iff members others]
end

instance : DecidableEq Json := fun value other =>
  decidable_of_iff (same value other = true) (same_iff value other)

mutual
/-- How deep lists and objects are nested in a value. -/
def depth : Json → Nat
  | .arr items => itemsDepth items + 1
  | .obj members => membersDepth members + 1
  | _ => 0

def itemsDepth : List Json → Nat
  | [] => 0
  | item :: items => max (depth item) (itemsDepth items)

def membersDepth : List (String × Json) → Nat
  | [] => 0
  | (_, value) :: members => max (depth value) (membersDepth members)
end

/-- The member of that name; of several the last one counts. -/
def member? (name : String) : List (String × Json) → Option Json
  | [] => none
  | (key, value) :: rest =>
    match member? name rest with
    | some later => some later
    | none => if key == name then some value else none

def get? (json : Json) (name : String) : Option Json :=
  match json with
  | .obj members => member? name members
  | _ => none

def strings (items : List String) : Json := .arr (items.map .str)

def optional (value : Option String) : Json := (value.map Json.str).getD .null

/-- Values that stand for nothing: null, false, zero, and empty texts, lists and objects. -/
def isEmpty : Json → Bool
  | .null => true
  | .bool value => !value
  | .int value => value == 0
  | .float value => value == 0
  | .nonFinite _ => false
  | .str value => value == ""
  | .arr items => items.isEmpty
  | .obj members => members.isEmpty

end Json
end SensorFlow
