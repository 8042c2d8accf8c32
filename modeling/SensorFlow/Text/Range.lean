/-!
# Tables of code points

A character class beyond ASCII is a list of closed intervals of code points.
-/
namespace SensorFlow.Text
set_option autoImplicit false

/-- Whether `n` lies in one of the closed intervals. -/
def inRanges (ranges : List (Nat × Nat)) (n : Nat) : Bool :=
  ranges.any fun r => Nat.ble r.1 n && Nat.ble n r.2

end SensorFlow.Text
