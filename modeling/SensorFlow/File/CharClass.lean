/-!
# Classes of characters in patterns

What stands between square brackets: single characters and ranges, or everything but these.
-/
namespace SensorFlow
set_option autoImplicit false

structure CharClass where
  negated : Bool := false
  singles : List Char := []
  ranges : List (Char × Char) := []
  deriving Repr, DecidableEq

namespace CharClass

def contains (charClass : CharClass) (c : Char) : Bool :=
  (charClass.singles.contains c ||
    charClass.ranges.any fun (low, high) => low.toNat ≤ c.toNat && c.toNat ≤ high.toNat) !=
    charClass.negated

/-- The number of characters at the start of a class that do not close it: an exclamation mark
and a closing bracket. -/
def leading : List Char → Nat
  | '!' :: ']' :: _ => 2
  | '!' :: _ => 1
  | ']' :: _ => 1
  | _ => 0

/-- Splits a pattern behind an opening bracket into what the brackets hold and the rest; without a
closing bracket there is no class. -/
def split? (rest : List Char) : Option (List Char × List Char) :=
  let body := rest.drop (leading rest)
  match body.dropWhile (· != ']') with
  | [] => none
  | _ :: behind => some (rest.take (leading rest) ++ body.takeWhile (· != ']'), behind)

theorem split?_length {rest content behind : List Char}
    (h : split? rest = some (content, behind)) : behind.length < rest.length := by
  simp only [split?] at h
  split at h
  · contradiction
  · rename_i hDrop
    simp only [Option.some.injEq, Prod.mk.injEq] at h
    obtain ⟨_, rfl⟩ := h
    have hSub := (List.dropWhile_sublist (l := rest.drop (leading rest)) (· != ']')).length_le
    rw [hDrop] at hSub
    simp only [List.length_cons, List.length_drop] at hSub
    omega

end CharClass
end SensorFlow
