/-!
# Syntax trees

A finite ordered tree of typed nodes. A node knows the part it plays in its parent (`name`, `body`,
`type`), whether it is named or a mere mark, and the text it stands for.
-/
namespace SensorFlow.Java
set_option autoImplicit false

structure NodeHead where
  kind : String
  part : Option String := none
  named : Bool := true
  start : Nat := 0
  stop : Nat := 0
  row : Nat := 0
  text : String := ""
  deriving Repr, DecidableEq

inductive Tree where
  | node (head : NodeHead) (children : List Tree)
  deriving Repr

namespace Tree

def head : Tree → NodeHead
  | .node head _ => head

def children : Tree → List Tree
  | .node _ children => children

def kind (t : Tree) : String := t.head.kind

def text (t : Tree) : String := t.head.text

def row (t : Tree) : Nat := t.head.row

def namedChildren (t : Tree) : List Tree := t.children.filter (·.head.named)

/-- The first child that plays the given part. -/
def part? (t : Tree) (part : String) : Option Tree :=
  t.children.find? (·.head.part == some part)

def withPart (part : String) : Tree → Tree
  | .node head children => .node { head with part := some part } children

mutual
/-- The number of nodes. -/
def size : Tree → Nat
  | .node _ children => sizes children + 1

def sizes : List Tree → Nat
  | [] => 0
  | t :: ts => size t + sizes ts
end

theorem sizes_append (ts us : List Tree) : sizes (ts ++ us) = sizes ts + sizes us := by
  induction ts with
  | nil => rw [List.nil_append, sizes, Nat.zero_add]
  | cons t ts ih => rw [List.cons_append, sizes, sizes, ih, Nat.add_assoc]

theorem size_eq (t : Tree) : t.size = sizes t.children + 1 := by
  cases t with
  | node head children => rw [size, Tree.children]

/-- Takes nodes off a stack until none is left, each marked with whether it was on the stack from
the start. A node that `stops` holds of is passed over with all below it. Of any other node `emit`
is noted, the latest first, and its children go on the stack, the first child on top. -/
def visit {α : Type} (stops : Bool × Tree → Bool) (emit : Bool × Tree → List α) (found : List α) :
    List (Bool × Tree) → List α
  | [] => found.reverse
  | item :: stack =>
    if stops item then visit stops emit found stack
    else visit stops emit ((emit item).reverse ++ found) (item.2.children.map (false, ·) ++ stack)
termination_by stack => sizes (stack.map Prod.snd)
decreasing_by
  · rw [List.map_cons, sizes, size_eq]
    omega
  · have hChildren : (item.2.children.map ((false, ·) : Tree → Bool × Tree)).map Prod.snd =
        item.2.children := by
      rw [List.map_map]
      exact List.map_id _
    rw [List.map_append, sizes_append, hChildren, List.map_cons, sizes, size_eq item.2]
    omega

/-- The node and all below it, each node before its children. -/
def preorder (t : Tree) : List Tree := visit (fun _ => false) (fun item => [item.2]) [] [(true, t)]

end Tree
end SensorFlow.Java
