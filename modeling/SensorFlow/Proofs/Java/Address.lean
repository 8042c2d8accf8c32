import Mathlib.Data.List.Lex
import SensorFlow.Java.Tree
import SensorFlow.Proofs.Order

/-!
# Nodes of a syntax tree by their addresses

A node is told from the others by the way to it from the root. In the order of their addresses nodes
come before the nodes below them, and those below a node in the order of its children: this is the
order in which a tree is walked, also by a walk that passes over some nodes with all below them.
-/
namespace SensorFlow.Java
set_option autoImplicit false

/-- The way from the root to a node: at each node the offset of the child to go to. -/
abbrev Address := List Nat

namespace Tree

def at? (t : Tree) : Address → Option Tree
  | [] => some t
  | i :: a => t.children[i]?.bind (at? · a)

mutual
/-- The addresses of all nodes, each node before its children. -/
def addresses : Tree → List Address
  | .node _ children => [] :: addressesFrom 0 children

def addressesFrom (first : Nat) : List Tree → List Address
  | [] => []
  | t :: ts => (addresses t).map (first :: ·) ++ addressesFrom (first + 1) ts
end

/-- The addresses of the nodes around a node, the root first. -/
def enclosing : Address → List Address
  | [] => []
  | i :: a => [] :: (enclosing a).map (i :: ·)

def holdsAt (t : Tree) (p : Tree → Bool) (a : Address) : Bool := (t.at? a).any p

/-- The nearest of the nodes around a node that `p` holds of. -/
def nearest? (t : Tree) (p : Tree → Bool) (a : Address) : Option Address :=
  (enclosing a).reverse.find? (t.holdsAt p)

mutual
/-- The nodes of a tree in pre-order, without those that `stops` holds of and all below these. -/
def walk (stops : Tree → Bool) : Tree → List Tree
  | .node head children =>
    if stops (.node head children) then [] else .node head children :: walkAll stops children

def walkAll (stops : Tree → Bool) : List Tree → List Tree
  | [] => []
  | t :: ts => walk stops t ++ walkAll stops ts
end

theorem induction {P : Tree → Prop}
    (hNode : ∀ head children, (∀ t ∈ children, P t) → P (.node head children)) (t : Tree) :
    P t := by
  refine @Tree.rec P (fun ts => ∀ t ∈ ts, P t) hNode ?_ ?_ t
  · intro t hT
    cases hT
  · intro t ts hHead hTail u hU
    rcases List.mem_cons.1 hU with rfl | hU
    · exact hHead
    · exact hTail u hU

theorem at?_append (t : Tree) (a b : Address) : t.at? (a ++ b) = (t.at? a).bind (·.at? b) := by
  induction a generalizing t with
  | nil => rfl
  | cons i a ih =>
    show t.children[i]?.bind (at? · (a ++ b)) = (t.children[i]?.bind (at? · a)).bind _
    cases t.children[i]? with
    | none => rfl
    | some child => exact ih child

theorem mem_addressesFrom_iff {ts : List Tree} {first : Nat} {a : Address} :
    a ∈ addressesFrom first ts ↔
      ∃ k t b, ts[k]? = some t ∧ b ∈ t.addresses ∧ a = (first + k) :: b := by
  induction ts generalizing first with
  | nil => simp [addressesFrom]
  | cons t ts ih =>
    rw [addressesFrom, List.mem_append, List.mem_map, ih]
    constructor
    · rintro (⟨b, hB, rfl⟩ | ⟨k, u, b, hU, hB, rfl⟩)
      · exact ⟨0, t, b, rfl, hB, rfl⟩
      · exact ⟨k + 1, u, b, hU, hB, by rw [Nat.add_assoc, Nat.add_comm 1]⟩
    · rintro ⟨k, u, b, hU, hB, rfl⟩
      cases k with
      | zero =>
        obtain rfl := Option.some.inj hU
        exact .inl ⟨b, hB, rfl⟩
      | succ k => exact .inr ⟨k, u, b, hU, hB, by rw [Nat.add_assoc, Nat.add_comm 1]⟩

theorem mem_addresses_iff {t : Tree} {a : Address} : a ∈ t.addresses ↔ (t.at? a).isSome := by
  induction a generalizing t with
  | nil =>
    cases t
    simp [addresses, at?]
  | cons i a ih =>
    cases t with
    | node head children =>
      rw [addresses, List.mem_cons, mem_addressesFrom_iff, at?]
      show _ ↔ (children[i]?.bind (at? · a)).isSome
      constructor
      · rintro (hNil | ⟨k, t, b, hT, hB, hA⟩)
        · cases hNil
        · obtain ⟨rfl, rfl⟩ := List.cons.inj hA
          rw [Nat.zero_add, hT]
          exact ih.1 hB
      · intro hSome
        cases hT : children[i]? with
        | none => simp [hT] at hSome
        | some t =>
          rw [hT] at hSome
          exact .inr ⟨i, t, a, hT, ih.2 hSome, by rw [Nat.zero_add]⟩

theorem addressesFrom_sorted {ts : List Tree} (first : Nat)
    (hTs : ∀ t ∈ ts, t.addresses.Pairwise (· < ·)) : (addressesFrom first ts).Pairwise (· < ·) := by
  induction ts generalizing first with
  | nil => exact .nil
  | cons t ts ih =>
    rw [addressesFrom]
    refine List.pairwise_append.2 ⟨?_, ih _ fun u hU => hTs u (List.mem_cons_of_mem _ hU), ?_⟩
    · refine List.pairwise_map.2 ((hTs t List.mem_cons_self).imp ?_)
      intro a b hLess
      exact List.cons_lt_cons_iff.2 (.inr ⟨rfl, hLess⟩)
    · intro a hA b hB
      obtain ⟨a, _, rfl⟩ := List.mem_map.1 hA
      obtain ⟨k, _, b, _, _, rfl⟩ := mem_addressesFrom_iff.1 hB
      exact List.cons_lt_cons_iff.2 (.inl (by omega))

theorem addresses_sorted (t : Tree) : t.addresses.Pairwise (· < ·) := by
  induction t using induction with
  | hNode head children ih =>
    rw [addresses]
    refine List.pairwise_cons.2 ⟨?_, addressesFrom_sorted 0 ih⟩
    intro a hA
    obtain ⟨k, _, b, _, _, rfl⟩ := mem_addressesFrom_iff.1 hA
    exact List.nil_lt_cons _ _

/-- The addresses at or below a node are those of the tree that stands there. -/
theorem filter_addresses_eq {root t : Tree} {top : Address} (hAt : root.at? top = some t)
    {p : Address → Bool} (hBelow : ∀ a ∈ root.addresses, p a = true → top <+: a) :
    root.addresses.filter p = (t.addresses.filter fun b => p (top ++ b)).map (top ++ ·) := by
  refine eq_of_key_sorted id ((addresses_sorted root).filter p) ?_ ?_
  · refine List.pairwise_map.2 (((addresses_sorted t).filter _).imp ?_)
    intro a b hLess
    exact List.append_left_lt hLess
  · intro a
    rw [List.mem_filter, List.mem_map]
    constructor
    · rintro ⟨hA, hP⟩
      obtain ⟨b, rfl⟩ := hBelow a hA hP
      rw [mem_addresses_iff, at?_append, hAt] at hA
      exact ⟨b, List.mem_filter.2 ⟨mem_addresses_iff.2 hA, hP⟩, rfl⟩
    · rintro ⟨b, hB, rfl⟩
      obtain ⟨hB, hP⟩ := List.mem_filter.1 hB
      rw [mem_addresses_iff, at?_append, hAt]
      exact ⟨mem_addresses_iff.1 hB, hP⟩

/-- The node at an address, unless the walk stops on the way to it. -/
def reach? (stops : Tree → Bool) (t : Tree) : Address → Option Tree
  | [] => if stops t then none else some t
  | i :: a => if stops t then none else t.children[i]?.bind (reach? stops · a)

theorem reach?_eq_some_iff {stops : Tree → Bool} {t s : Tree} {a : Address} :
    reach? stops t a = some s ↔
      t.at? a = some s ∧ ∀ b, b <+: a → (t.at? b).any stops = false := by
  induction a generalizing t with
  | nil => cases hT : stops t <;> simp [reach?, at?, hT]
  | cons i a ih =>
    have hBelow : (∀ b, b <+: i :: a → (t.at? b).any stops = false) ↔ stops t = false ∧
        ∀ b, b <+: a → (t.at? (i :: b)).any stops = false := by
      constructor
      · intro hAll
        exact ⟨hAll [] List.nil_prefix, fun b hB => hAll _ (List.cons_prefix_cons.2 ⟨rfl, hB⟩)⟩
      · rintro ⟨hHere, hRest⟩ b hB
        rcases List.prefix_cons_iff.1 hB with rfl | ⟨c, rfl, hC⟩
        · exact hHere
        · exact hRest c hC
    rw [hBelow, reach?, at?]
    cases hT : stops t with
    | true => simp
    | false =>
      cases hChild : t.children[i]? with
      | none => simp
      | some child => simpa [at?, hChild] using ih

theorem walkAll_eq {stops : Tree → Bool} {children ts : List Tree} {first : Nat}
    (hTs : ∀ t ∈ ts, walk stops t = t.addresses.filterMap (reach? stops t))
    (hDrop : children.drop first = ts) :
    walkAll stops ts = (addressesFrom first ts).filterMap fun a =>
      a.head?.bind fun i => children[i]?.bind (reach? stops · a.tail) := by
  induction ts generalizing first with
  | nil => rfl
  | cons t ts ih =>
    have hChild : children[first]? = some t := by
      rw [← List.head?_drop, hDrop, List.head?_cons]
    have hTail : children.drop (first + 1) = ts := by
      rw [← List.tail_drop, hDrop, List.tail_cons]
    rw [walkAll, addressesFrom, List.filterMap_append, hTs t List.mem_cons_self,
      ih (fun u hU => hTs u (List.mem_cons_of_mem _ hU)) hTail, List.filterMap_map]
    congr 2
    funext a
    simp [hChild]

theorem walk_eq (stops : Tree → Bool) (t : Tree) :
    walk stops t = t.addresses.filterMap (reach? stops t) := by
  induction t using induction with
  | hNode head children ih =>
    rw [walk, addresses]
    split
    · next hStops =>
      rw [eq_comm, List.filterMap_eq_nil_iff]
      rintro (_ | ⟨i, a⟩) _ <;> simp [reach?, hStops]
    · next hStops =>
      have hHere : reach? stops (.node head children) [] = some (.node head children) := by
        simp [reach?, hStops]
      rw [List.filterMap_cons_some hHere, walkAll_eq ih (List.drop_zero)]
      congr 1
      refine List.filterMap_congr ?_
      intro a hA
      obtain ⟨k, _, b, _, _, rfl⟩ := mem_addressesFrom_iff.1 hA
      simp [reach?, hStops, Tree.children]

/-- A walk of the tree at `top` comes, among the nodes of a kind, upon those below `top` that no
stop stands above. -/
theorem filter_walk_eq {root t : Tree} {top : Address} (hTop : root.at? top = some t)
    {stops kind : Tree → Bool} (hKind : ∀ s, kind s = true → stops s = false) {p : Address → Bool}
    (hP : ∀ a s, root.at? a = some s → (p a = true ↔ kind s = true ∧ top <+: a ∧
      ∀ b, top <+: b → b <+: a → b ≠ a → root.holdsAt stops b = false)) :
    (walk stops t).filter kind = (root.addresses.filter p).filterMap root.at? := by
  have hBelow : ∀ a ∈ root.addresses, p a = true → top <+: a := by
    intro a hA hHolds
    obtain ⟨s, hS⟩ := Option.isSome_iff_exists.1 (mem_addresses_iff.1 hA)
    exact ((hP a s hS).1 hHolds).2.1
  have hAt : ∀ b, root.at? (top ++ b) = t.at? b := by
    intro b
    rw [at?_append, hTop, Option.bind_some]
  rw [filter_addresses_eq hTop hBelow, walk_eq, List.filter_filterMap, List.filterMap_map,
    List.filterMap_filter]
  refine List.filterMap_congr ?_
  intro a hA
  obtain ⟨s, hS⟩ := Option.isSome_iff_exists.1 (mem_addresses_iff.1 hA)
  have hReach : p (top ++ a) = true ↔ kind s = true ∧ reach? stops t a = some s := by
    rw [hP _ s ((hAt a).trans hS), reach?_eq_some_iff]
    constructor
    · rintro ⟨hS', _, hClear⟩
      refine ⟨hS', hS, ?_⟩
      intro b hB
      -- the node itself is of the kind, so the walk does not stop at it
      by_cases hSame : b = a
      · rw [hSame, hS]
        exact hKind s hS'
      · rw [← hAt]
        exact hClear _ (List.prefix_append _ _) ((List.prefix_append_right_inj _).2 hB)
          (by simpa using hSame)
    · rintro ⟨hS', _, hClear⟩
      refine ⟨hS', List.prefix_append _ _, ?_⟩
      rintro _ ⟨b, rfl⟩ hB _
      rw [holdsAt, hAt]
      exact hClear b ((List.prefix_append_right_inj _).1 hB)
  show _ = if p (top ++ a) = true then root.at? (top ++ a) else none
  split
  · next hHolds =>
    obtain ⟨hS', hSome⟩ := hReach.1 hHolds
    rw [hSome, hAt, hS, Option.filter_some_pos hS']
  · next hHolds =>
    cases hSome : reach? stops t a with
    | none => rfl
    | some u =>
      obtain rfl : s = u := Option.some.inj (hS.symm.trans (reach?_eq_some_iff.1 hSome).1)
      refine Option.filter_some_neg (Bool.eq_false_iff.2 ?_)
      intro hS'
      exact hHolds (hReach.2 ⟨hS', hSome⟩)

theorem mem_enclosing_iff {a b : Address} : b ∈ enclosing a ↔ b <+: a ∧ b ≠ a := by
  induction a generalizing b with
  | nil => simp [enclosing]
  | cons i a ih =>
    rw [enclosing, List.mem_cons, List.mem_map, List.prefix_cons_iff]
    constructor
    · rintro (rfl | ⟨b, hB, rfl⟩)
      · exact ⟨.inl rfl, List.cons_ne_nil _ _ ∘ Eq.symm⟩
      · obtain ⟨hPrefix, hNe⟩ := ih.1 hB
        exact ⟨.inr ⟨b, rfl, hPrefix⟩, by simpa using hNe⟩
    · rintro ⟨rfl | ⟨b, rfl, hPrefix⟩, hNe⟩
      · exact .inl rfl
      · exact .inr ⟨b, ih.2 ⟨hPrefix, by simpa using hNe⟩, rfl⟩

theorem enclosing_append (a : Address) (i : Nat) (b : Address) :
    enclosing (a ++ i :: b) = enclosing a ++ a :: (enclosing b).map (a ++ i :: ·) := by
  induction a with
  | nil => rfl
  | cons k a ih =>
    rw [List.cons_append, enclosing, ih, enclosing]
    simp

theorem nearest?_eq_some_iff {root : Tree} {p : Tree → Bool} {a c : Address} {i : Nat}
    (hInside : c ++ [i] <+: a) :
    root.nearest? p a = some c ↔ root.holdsAt p c = true ∧
      ∀ b, c ++ [i] <+: b → b <+: a → b ≠ a → root.holdsAt p b = false := by
  obtain ⟨rest, rfl⟩ := hInside
  have hLower : (((enclosing rest).map (c ++ i :: ·)).reverse.find? (root.holdsAt p)) = none ↔
      ∀ b, c ++ [i] <+: b → b <+: c ++ [i] ++ rest → b ≠ c ++ [i] ++ rest →
        root.holdsAt p b = false := by
    rw [List.find?_eq_none]
    constructor
    · rintro hNone _ ⟨b, rfl⟩ hB hNe
      have hMem : b ∈ enclosing rest :=
        mem_enclosing_iff.2 ⟨(List.prefix_append_right_inj _).1 hB, by simpa using hNe⟩
      simpa using hNone (c ++ i :: b) (List.mem_reverse.2 (List.mem_map.2 ⟨b, hMem, rfl⟩))
    · intro hNone b hB
      obtain ⟨b, hMem, rfl⟩ := List.mem_map.1 (List.mem_reverse.1 hB)
      obtain ⟨hPrefix, hNe⟩ := mem_enclosing_iff.1 hMem
      have hClear := hNone (c ++ [i] ++ b) (List.prefix_append _ _)
        ((List.prefix_append_right_inj _).2 hPrefix) (by simpa using hNe)
      simpa using hClear
  rw [← hLower, List.append_assoc, List.singleton_append, nearest?, enclosing_append,
    List.reverse_append, List.reverse_cons, List.append_assoc, List.find?_append]
  cases hFind : ((enclosing rest).map (c ++ i :: ·)).reverse.find? (root.holdsAt p) with
  | some b =>
    obtain ⟨d, _, rfl⟩ := List.mem_map.1 (List.mem_reverse.1 (List.mem_of_find?_eq_some hFind))
    simp
  | none =>
    rw [Option.none_or, List.singleton_append, List.find?_cons]
    cases hC : root.holdsAt p c with
    | true => simp
    | false =>
      -- the nodes around `c` are not `c` itself
      have hUpper : (enclosing c).reverse.find? (root.holdsAt p) ≠ some c := by
        intro hSome
        exact (mem_enclosing_iff.1 (List.mem_reverse.1 (List.mem_of_find?_eq_some hSome))).2 rfl
      simp [hUpper]

end Tree
end SensorFlow.Java
