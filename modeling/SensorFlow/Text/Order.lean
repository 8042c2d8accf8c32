/-!
# The order of texts

Texts are ordered by the code points of their characters, and sorted stably.
-/
namespace SensorFlow.Text
set_option autoImplicit false

def sorted (texts : List String) : List String := texts.mergeSort fun a b => decide (a ≤ b)

theorem sorted_perm (texts : List String) : (sorted texts).Perm texts :=
  List.mergeSort_perm _ _

end SensorFlow.Text
