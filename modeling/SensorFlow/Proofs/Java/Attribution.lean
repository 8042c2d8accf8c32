import SensorFlow.Java.Outline
import SensorFlow.Language
import SensorFlow.Proofs.Java.Address

/-!
# Who owns a method and who makes a call

The classes of a syntax tree are read off by three loops over a stack that stop at different nodes:
one over all nodes for the classes, one over a class body for its methods, one over a method body
for its calls. Each goes through the tree as a recursive walk in pre-order does.
Read from the node itself, a method belongs to the nearest named type around it and a call to the
nearest method around it. The walks agree with this reading, and each of them keeps to the order of
the tree.
-/
namespace SensorFlow.Java
set_option autoImplicit false

/-- The kinds of nodes as the configuration of the language has them. -/
def standardKinds : NodeKinds := NodeKinds.configured Language.java.kindsOf

theorem standardKinds_eq : standardKinds = {} := by decide

namespace Tree

def isNamedType (t : Tree) : Bool := isTypeBoundary t.kind

def isClass (t : Tree) : Bool := t.kind == "class_declaration" || t.kind == "interface_declaration"

def isMethod (t : Tree) : Bool := t.kind == "method_declaration"

def isCall (t : Tree) : Bool :=
  t.kind == "method_invocation" || t.kind == "object_creation_expression"

/-- The address of the body of a declaration. -/
def bodyAt? (root : Tree) (a : Address) : Option Address :=
  (root.at? a).bind fun t => (t.children.findIdx? (·.head.part == some "body")).map (a ++ [·])

def inBody (root : Tree) (a b : Address) : Bool := (root.bodyAt? a).any (·.isPrefixOf b)

/-- The class of a method: the nearest named type around it, if this is a class or an interface and
the method is in its body. -/
def owner? (root : Tree) (m : Address) : Option Address :=
  (root.nearest? isNamedType m).filter fun c => root.holdsAt isClass c && root.inBody c m

/-- The method that makes a call: the nearest one around it, if the call is in its body and no named
type stands between them. -/
def caller? (root : Tree) (n : Address) : Option Address :=
  (root.nearest? isMethod n).filter fun m => root.inBody m n &&
    !(enclosing n).any fun b => m.isPrefixOf b && root.holdsAt isNamedType b

def classAddresses (root : Tree) : List Address := root.addresses.filter (root.holdsAt isClass)

def methodsOf (root : Tree) (c : Address) : List Address :=
  root.addresses.filter fun m => root.holdsAt isMethod m && root.owner? m == some c

def callsOf (root : Tree) (m : Address) : List Address :=
  root.addresses.filter fun n => root.holdsAt isCall n && root.caller? n == some m

/-- Classes, interfaces and methods have names, and their bodies are no declarations themselves. -/
structure WellFormed (root : Tree) : Prop where
  named : ∀ t ∈ root.preorder, (t.isClass || t.isMethod) = true → (t.part? "name").isSome = true
  body : ∀ t ∈ root.preorder, (t.isClass || t.isMethod) = true →
    (t.part? "body").all (fun b => !(b.isMethod || b.isNamedType)) = true

/-- The nodes that a loop comes upon from one node of its stack, as a recursion over the tree. Only
the node itself carries the mark of the stack; those below it are met later. -/
def trail (stops : Bool × Tree → Bool) (item : Bool × Tree) : List (Bool × Tree) :=
  if stops item then []
  else item :: (walkAll (fun t => stops (false, t)) item.2.children).map (false, ·)

theorem trail_false (stops : Bool × Tree → Bool) (t : Tree) :
    trail stops (false, t) = (walk (fun t => stops (false, t)) t).map (false, ·) := by
  cases t with
  | node head children =>
    rw [trail, walk]
    split
    · rfl
    · rw [List.map_cons, Tree.children]

theorem flatMap_trail (stops : Bool × Tree → Bool) (ts : List Tree) :
    (ts.map (false, ·)).flatMap (trail stops) =
      (walkAll (fun t => stops (false, t)) ts).map (false, ·) := by
  induction ts with
  | nil => rfl
  | cons t ts ih =>
    rw [List.map_cons, List.flatMap_cons, trail_false, ih, walkAll, List.map_append]

/-- The loop over a stack goes through the trees on it in pre-order, one after the other. -/
theorem visit_eq {α : Type} (stops : Bool × Tree → Bool) (emit : Bool × Tree → List α)
    (found : List α) (stack : List (Bool × Tree)) :
    visit stops emit found stack =
      found.reverse ++ (stack.flatMap (trail stops)).flatMap emit := by
  induction found, stack using visit.induct stops emit with
  | case1 found => rw [visit, List.flatMap_nil, List.flatMap_nil, List.append_nil]
  | case2 found item stack hStops ih =>
    rw [visit, if_pos hStops, ih, List.flatMap_cons, trail, if_pos hStops, List.nil_append]
  | case3 found item stack hStops ih =>
    rw [visit, if_neg hStops, ih, List.flatMap_append, flatMap_trail, List.flatMap_cons, trail,
      if_neg hStops]
    simp

theorem flatMap_ite_singleton {α : Type} (p : α → Bool) (items : List α) :
    (items.flatMap fun x => if p x then [x] else []) = items.filter p := by
  induction items with
  | nil => rfl
  | cons x items ih =>
    rw [List.flatMap_cons, ih, List.filter_cons]
    split
    · rw [List.singleton_append]
    · rw [List.nil_append]

/-- Where the stops do not look at the marks, a loop is a walk of the trees on its stack. -/
theorem map_flatMap_trail (marked : Bool) (stops : Tree → Bool) (ts : List Tree) :
    ((ts.map (marked, ·)).flatMap (trail fun item => stops item.2)).map Prod.snd =
      walkAll stops ts := by
  induction ts with
  | nil => rfl
  | cons t ts ih =>
    rw [List.map_cons, List.flatMap_cons, List.map_append, ih, walkAll]
    congr 1
    cases t with
    | node head children =>
      rw [trail, walk]
      split
      · rfl
      · rw [List.map_cons, List.map_map, Tree.children]
        exact congrArg _ (List.map_id _)

theorem preorder_eq_walk (t : Tree) : t.preorder = walk (fun _ => false) t := by
  have hTrail := map_flatMap_trail true (fun _ => false) [t]
  rw [List.map_eq_flatMap, walkAll, walkAll, List.append_nil] at hTrail
  rw [preorder, visit_eq, List.reverse_nil, List.nil_append]
  exact hTrail

/-- The members of a body are the declarations that a walk of its nodes comes upon. -/
theorem map_members (body : Tree) :
    (members body).map Prod.snd = (walkAll isNamedType body.children).filter fun t =>
      t.kind == "method_declaration" || t.kind == "field_declaration" := by
  rw [members, visit_eq, List.reverse_nil, List.nil_append, flatMap_ite_singleton,
    ← map_flatMap_trail true isNamedType, List.filter_map]
  rfl

theorem filter_members {b : Tree} (hB : (b.isMethod || b.isNamedType) = false) :
    ((members b).map Prod.snd).filter isMethod = (walk isNamedType b).filter isMethod := by
  obtain ⟨hMethod, hNamed⟩ := Bool.or_eq_false_iff.1 hB
  rw [map_members, List.filter_filter]
  cases b with
  | node head children =>
    rw [walk, hNamed, if_neg Bool.false_ne_true, List.filter_cons_of_neg (by simp [hMethod])]
    refine List.filter_congr ?_
    intro t _
    cases hKind : t.isMethod with
    | true => simp [beq_iff_eq.1 hKind]
    | false => rfl

theorem bodyCalls_eq {kinds : NodeKinds} {b : Tree} (hB : (b.isMethod || b.isNamedType) = false) :
    bodyCalls kinds b =
      (walk (fun t => t.isMethod || t.isNamedType) b).flatMap (ownCall kinds) := by
  have hNamed : isTypeBoundary b.kind = false := (Bool.or_eq_false_iff.1 hB).2
  rw [bodyCalls, visit_eq]
  cases b with
  | node head children =>
    rw [walk, hB, if_neg Bool.false_ne_true]
    simp [trail, hNamed, Tree.children, List.flatMap_map]
    rfl

theorem mem_preorder_of_at? {root t : Tree} {a : Address} (hT : root.at? a = some t) :
    t ∈ root.preorder := by
  rw [preorder_eq_walk, walk_eq, List.mem_filterMap]
  refine ⟨a, mem_addresses_iff.2 (by rw [hT]; rfl), reach?_eq_some_iff.2 ⟨hT, ?_⟩⟩
  intro b _
  cases root.at? b <;> rfl

/-- The node at `b` is in the body of the declaration at `a`, and no stop stands between them. -/
def Reaches (root : Tree) (stops : Tree → Bool) (a b : Address) : Prop :=
  ∃ i, root.bodyAt? a = some (a ++ [i]) ∧ a ++ [i] <+: b ∧
    ∀ d, a ++ [i] <+: d → d <+: b → d ≠ b → root.holdsAt stops d = false

theorem inBody_iff {root : Tree} {a b : Address} :
    root.inBody a b = true ↔ ∃ i, root.bodyAt? a = some (a ++ [i]) ∧ a ++ [i] <+: b := by
  rw [inBody, Option.any_eq_true]
  constructor
  · rintro ⟨top, hTop, hInside⟩
    obtain ⟨t, _, hIndex⟩ := Option.bind_eq_some_iff.1 hTop
    obtain ⟨i, _, rfl⟩ := Option.map_eq_some_iff.1 hIndex
    exact ⟨i, hTop, List.isPrefixOf_iff_prefix.1 hInside⟩
  · rintro ⟨i, hTop, hInside⟩
    exact ⟨a ++ [i], hTop, List.isPrefixOf_iff_prefix.2 hInside⟩

theorem bodyAt?_of_part? {root t b : Tree} {a : Address} (hT : root.at? a = some t)
    (hB : t.part? "body" = some b) :
    ∃ i, root.bodyAt? a = some (a ++ [i]) ∧ root.at? (a ++ [i]) = some b := by
  rw [part?, List.find?_eq_bind_findIdx?_getElem?] at hB
  obtain ⟨i, hIndex, hChild⟩ := Option.bind_eq_some_iff.1 hB
  refine ⟨i, ?_, ?_⟩
  · rw [bodyAt?, hT, Option.bind_some, hIndex, Option.map_some]
  · rw [at?_append, hT, Option.bind_some, at?, hChild]
    rfl

theorem bodyAt?_eq_none {root t : Tree} {a : Address} (hT : root.at? a = some t)
    (hNone : t.part? "body" = none) : root.bodyAt? a = none := by
  have hIndex : t.children.findIdx? (·.head.part == some "body") = none :=
    List.findIdx?_eq_none_iff.2 (by simpa [part?] using hNone)
  rw [bodyAt?, hT, Option.bind_some, hIndex]
  rfl

/-- A walk of a body comes, among the nodes of a kind, upon those that the declaration holds. -/
theorem filter_walk_body_eq {root t : Tree} {a : Address} (hT : root.at? a = some t)
    {stops kind : Tree → Bool} (hKind : ∀ s, kind s = true → stops s = false)
    {holder? : Address → Option Address}
    (hHolder : ∀ b, holder? b = some a ↔ root.Reaches stops a b) :
    (((t.part? "body").map (walk stops)).getD []).filter kind =
      (root.addresses.filter fun b => root.holdsAt kind b && holder? b == some a).filterMap
        root.at? := by
  cases hBody : t.part? "body" with
  | none =>
    -- nothing is in the body of a declaration without one
    have hNone :
        root.addresses.filter (fun b => root.holdsAt kind b && holder? b == some a) = [] := by
      refine List.filter_eq_nil_iff.2 ?_
      intro b _ hB
      rw [Bool.and_eq_true, beq_iff_eq, hHolder] at hB
      obtain ⟨_, i, hBodyAt, _⟩ := hB
      rw [bodyAt?_eq_none hT hBody] at hBodyAt
      cases hBodyAt
    rw [hNone]
    rfl
  | some body =>
    obtain ⟨i, hBodyAt, hTop⟩ := bodyAt?_of_part? hT hBody
    refine filter_walk_eq hTop hKind ?_
    intro b s hS
    rw [Bool.and_eq_true, beq_iff_eq, hHolder, holdsAt, hS, Option.any_some]
    refine and_congr_right fun _ => ⟨?_, fun hReaches => ⟨i, hBodyAt, hReaches⟩⟩
    rintro ⟨k, hSame, hReaches⟩
    obtain rfl : k = i := by simpa [hBodyAt] using hSame.symm
    exact hReaches

theorem isNamedType_of_isClass {t : Tree} (hClass : t.isClass = true) : t.isNamedType = true := by
  rw [isClass, Bool.or_eq_true, beq_iff_eq, beq_iff_eq] at hClass
  rw [isNamedType]
  rcases hClass with hKind | hKind <;> rw [hKind] <;> decide

theorem isNamedType_of_isMethod {t : Tree} (hMethod : t.isMethod = true) :
    t.isNamedType = false := by
  rw [isNamedType, beq_iff_eq.1 hMethod]
  decide

theorem stops_of_isCall {t : Tree} (hCall : t.isCall = true) :
    (t.isMethod || t.isNamedType) = false := by
  rw [isCall, Bool.or_eq_true, beq_iff_eq, beq_iff_eq] at hCall
  rw [isNamedType, isMethod]
  rcases hCall with hKind | hKind <;> rw [hKind] <;> decide

theorem owner?_eq_some_iff {root t : Tree} {c m : Address} (hT : root.at? c = some t)
    (hClass : t.isClass = true) : root.owner? m = some c ↔ root.Reaches isNamedType c m := by
  rw [owner?, Option.filter_eq_some_iff, Bool.and_eq_true, inBody_iff]
  constructor
  · rintro ⟨hNearest, _, i, hBody, hInside⟩
    exact ⟨i, hBody, hInside, ((nearest?_eq_some_iff hInside).1 hNearest).2⟩
  · rintro ⟨i, hBody, hInside, hClear⟩
    refine ⟨(nearest?_eq_some_iff hInside).2 ⟨?_, hClear⟩, ?_, i, hBody, hInside⟩
    · rw [holdsAt, hT]
      exact isNamedType_of_isClass hClass
    · rw [holdsAt, hT]
      exact hClass

theorem holdsAt_or {root : Tree} {p q : Tree → Bool} {a : Address} :
    root.holdsAt (fun t => p t || q t) a = false ↔
      root.holdsAt p a = false ∧ root.holdsAt q a = false := by
  cases hAt : root.at? a <;> simp [holdsAt, hAt]

/-- Between a node and a node around it are the nodes from the next one on. -/
theorem prefix_of_longer {a b d : Address} {i : Nat} (hInside : a ++ [i] <+: b) (hPrefix : a <+: d)
    (hNe : d ≠ a) (hD : d <+: b) : a ++ [i] <+: d := by
  have hLength := hPrefix.length_le
  have hNeLength : a.length ≠ d.length := fun hSame => hNe (hPrefix.eq_of_length hSame).symm
  apply List.prefix_of_prefix_length_le hInside hD
  rw [List.length_append, List.length_singleton]
  omega

theorem caller?_eq_some_iff {root t : Tree} {m n : Address} (hT : root.at? m = some t)
    (hMethod : t.isMethod = true) :
    root.caller? n = some m ↔ root.Reaches (fun t => t.isMethod || t.isNamedType) m n := by
  rw [caller?, Option.filter_eq_some_iff, Bool.and_eq_true, inBody_iff, Bool.not_eq_true',
    List.any_eq_false]
  constructor
  · rintro ⟨hNearest, ⟨i, hBody, hInside⟩, hBetween⟩
    refine ⟨i, hBody, hInside, ?_⟩
    intro b hTop hB hNe
    have hMethods := ((nearest?_eq_some_iff hInside).1 hNearest).2 b hTop hB hNe
    have hTypes := hBetween b (mem_enclosing_iff.2 ⟨hB, hNe⟩)
    have hPrefix : m <+: b := (List.prefix_append m [i]).trans hTop
    simp only [List.isPrefixOf_iff_prefix.2 hPrefix, Bool.true_and, Bool.not_eq_true] at hTypes
    exact holdsAt_or.2 ⟨hMethods, hTypes⟩
  · rintro ⟨i, hBody, hInside, hClear⟩
    refine ⟨(nearest?_eq_some_iff hInside).2 ⟨?_, ?_⟩, ⟨i, hBody, hInside⟩, ?_⟩
    · rw [holdsAt, hT]
      exact hMethod
    · intro b hTop hB hNe
      exact (holdsAt_or.1 (hClear b hTop hB hNe)).1
    · intro b hMem hType
      obtain ⟨hB, hNe⟩ := mem_enclosing_iff.1 hMem
      rw [Bool.and_eq_true, List.isPrefixOf_iff_prefix] at hType
      obtain ⟨hPrefix, hType⟩ := hType
      by_cases hSame : b = m
      · -- the method itself is no named type
        rw [hSame, holdsAt, hT, Option.any_some, isNamedType_of_isMethod hMethod] at hType
        cases hType
      · have hTop := prefix_of_longer hInside hPrefix hSame hB
        rw [(holdsAt_or.1 (hClear b hTop hB hNe)).2] at hType
        cases hType

theorem filter_preorder_eq (root : Tree) :
    root.preorder.filter isClass = root.classAddresses.filterMap root.at? := by
  have hRoot : root.at? [] = some root := rfl
  rw [preorder_eq_walk]
  refine filter_walk_eq hRoot (fun _ _ => rfl) ?_
  intro a s hS
  simp [holdsAt, hS]

theorem WellFormed.body_stops {root t b : Tree} (hRoot : root.WellFormed) {a : Address}
    (hT : root.at? a = some t) (hDeclared : (t.isClass || t.isMethod) = true)
    (hBody : t.part? "body" = some b) : (b.isMethod || b.isNamedType) = false := by
  have hSound := hRoot.body t (mem_preorder_of_at? hT) hDeclared
  rwa [hBody, Option.all_some, Bool.not_eq_true'] at hSound

theorem methodNodes_eq {root t : Tree} {c : Address} (hRoot : root.WellFormed)
    (hT : root.at? c = some t) (hClass : t.isClass = true) :
    ((((t.part? "body").map members).getD []).map Prod.snd).filter isMethod =
      (root.methodsOf c).filterMap root.at? := by
  have hWalk := filter_walk_body_eq hT (fun _ => isNamedType_of_isMethod)
    fun m => owner?_eq_some_iff hT hClass (m := m)
  rw [methodsOf, ← hWalk]
  cases hBody : t.part? "body" with
  | none => rfl
  | some b => exact filter_members (hRoot.body_stops hT (by rw [hClass]; rfl) hBody)

theorem contains_classes (t : Tree) : standardKinds.classes.contains t.kind = t.isClass := by
  rw [standardKinds_eq, Bool.eq_iff_iff]
  simp [isClass]

theorem contains_methods (t : Tree) : standardKinds.methods.contains t.kind = t.isMethod := by
  rw [standardKinds_eq, Bool.eq_iff_iff]
  simp [isMethod]

theorem ownCall_eq_nil {t : Tree} (hCall : t.isCall = false) : ownCall standardKinds t = [] := by
  obtain ⟨hInvocation, hCreation⟩ := Bool.or_eq_false_iff.1 hCall
  have hCalls : standardKinds.calls.contains t.kind = false := by
    rw [standardKinds_eq]
    simpa using hInvocation
  have hCreations : standardKinds.creations.contains t.kind = false := by
    rw [standardKinds_eq]
    simpa using hCreation
  rw [ownCall, hCalls, hCreations]
  rfl

theorem flatMap_filter_of_eq_nil {α β : Type} {p : α → Bool} {f : α → List β}
    (hNil : ∀ x, p x = false → f x = []) (items : List α) :
    (items.filter p).flatMap f = items.flatMap f := by
  induction items with
  | nil => rfl
  | cons x items ih =>
    cases hP : p x with
    | true => rw [List.filter_cons_of_pos hP, List.flatMap_cons, List.flatMap_cons, ih]
    | false =>
      rw [List.filter_cons_of_neg (by simp [hP]), List.flatMap_cons, hNil x hP, ih, List.nil_append]

theorem callTargets_eq {root t : Tree} {m : Address} (hRoot : root.WellFormed)
    (hT : root.at? m = some t) (hMethod : t.isMethod = true) :
    ((t.part? "body").map (bodyCalls standardKinds)).getD [] =
      ((root.callsOf m).filterMap root.at?).flatMap (ownCall standardKinds) := by
  have hWalk := filter_walk_body_eq hT (fun _ => stops_of_isCall)
    fun n => caller?_eq_some_iff hT hMethod (n := n)
  rw [callsOf, ← hWalk, flatMap_filter_of_eq_nil fun _ => ownCall_eq_nil]
  cases hBody : t.part? "body" with
  | none => rfl
  | some b => exact bodyCalls_eq (hRoot.body_stops hT (by rw [hMethod, Bool.or_true]) hBody)

/-- The method symbol tells of the method at an address, with the targets of the calls it makes. -/
structure MethodAt (root : Tree) (owner : String) (m : Address) (method : MethodSymbol) : Prop where
  declared : (root.at? m).bind (method? standardKinds owner) = some method
  calls_eq : method.calls = ((root.callsOf m).filterMap root.at?).flatMap (ownCall standardKinds)

/-- The class symbol tells of the class at an address, with the methods that it owns. -/
structure ClassAt (root : Tree) (path : String) (c : Address) (symbol : ClassSymbol) : Prop where
  name_eq : ((root.at? c).bind (·.part? "name")).map text = some symbol.name
  path_eq : symbol.filePath = path
  methods : List.Forall₂ (MethodAt root symbol.qualifiedName) (root.methodsOf c) symbol.methods

theorem forall₂_filterMap {α β : Type} {R : α → β → Prop} {f : α → Option β} {items : List α}
    (hItems : ∀ x ∈ items, ∃ y, f x = some y ∧ R x y) :
    List.Forall₂ R items (items.filterMap f) := by
  induction items with
  | nil => exact .nil
  | cons x items ih =>
    obtain ⟨y, hY, hR⟩ := hItems x List.mem_cons_self
    rw [List.filterMap_cons_some hY]
    exact .cons hR (ih fun z hZ => hItems z (List.mem_cons_of_mem _ hZ))

theorem exists_at?_of_mem_filter {root : Tree} {p : Tree → Bool} {q : Address → Bool} {a : Address}
    (hA : a ∈ root.addresses.filter fun a => root.holdsAt p a && q a) :
    ∃ t, root.at? a = some t ∧ p t = true := by
  obtain ⟨_, hHolds⟩ := List.mem_filter.1 hA
  exact (Option.any_eq_true _ _).1 (Bool.and_eq_true_iff.1 hHolds).1

theorem methods_attributed {root t : Tree} {c : Address} (hRoot : root.WellFormed)
    (hT : root.at? c = some t) (hClass : t.isClass = true) (path scope name : String) :
    List.Forall₂ (MethodAt root (qualifiedName scope name)) (root.methodsOf c)
      (classOf standardKinds path scope t name).methods := by
  have hMethods : (classOf standardKinds path scope t name).methods =
      (root.methodsOf c).filterMap fun m =>
        (root.at? m).bind (method? standardKinds (qualifiedName scope name)) := by
    have hFound := methodNodes_eq hRoot hT hClass
    show (List.filterMap _ _) = _
    rw [← List.filterMap_filterMap, ← hFound, List.filterMap_filter, List.filterMap_map]
    refine List.filterMap_congr ?_
    intro member _
    rw [contains_methods]
    rfl
  rw [hMethods]
  refine forall₂_filterMap ?_
  intro m hM
  obtain ⟨s, hS, hMethod⟩ := exists_at?_of_mem_filter hM
  have hName := hRoot.named s (mem_preorder_of_at? hS) (by rw [hMethod, Bool.or_true])
  obtain ⟨symbol, hSymbol⟩ :
      ∃ symbol, method? standardKinds (qualifiedName scope name) s = some symbol := by
    rw [method?]
    obtain ⟨name, hName⟩ := Option.isSome_iff_exists.1 hName
    rw [hName]
    exact ⟨_, rfl⟩
  refine ⟨symbol, by rw [hS]; exact hSymbol, by rw [hS]; exact hSymbol, ?_⟩
  rw [← callTargets_eq hRoot hS hMethod]
  obtain ⟨_, _, rfl⟩ := Option.map_eq_some_iff.1 hSymbol
  rfl

/-- The classes of a tree are its class and interface nodes, the methods of a class the methods that
it owns and the calls of a method the calls that it makes, each in the order of the addresses. -/
theorem members_attributed {root : Tree} (hRoot : root.WellFormed) (path : String) :
    (∀ a, a ∈ root.addresses ↔ (root.at? a).isSome) ∧ root.addresses.Pairwise (· < ·) ∧
      (∀ m c, root.owner? m = some c → c ∈ root.classAddresses) ∧
      List.Forall₂ (ClassAt root path) root.classAddresses
        (treeClasses standardKinds path root) := by
  refine ⟨fun _ => mem_addresses_iff, addresses_sorted root, ?_, ?_⟩
  · intro m c hOwner
    have hClass := (Bool.and_eq_true_iff.1 (Option.filter_eq_some_iff.1 hOwner).2).1
    obtain ⟨t, hT, _⟩ := (Option.any_eq_true _ _).1 hClass
    exact List.mem_filter.2 ⟨mem_addresses_iff.2 (by rw [hT]; rfl), hClass⟩
  · have hClasses : treeClasses standardKinds path root = root.classAddresses.filterMap fun c =>
        (root.at? c).bind fun t => (t.part? "name").map fun name =>
          classOf standardKinds path (packageName standardKinds root) t name.text := by
      rw [treeClasses, funext contains_classes, filter_preorder_eq, List.filterMap_filterMap]
    rw [hClasses]
    refine forall₂_filterMap ?_
    intro c hC
    obtain ⟨t, hT, hClass⟩ := (Option.any_eq_true _ _).1 (List.mem_filter.1 hC).2
    have hName := hRoot.named t (mem_preorder_of_at? hT) (by rw [hClass]; rfl)
    obtain ⟨name, hName⟩ := Option.isSome_iff_exists.1 hName
    refine ⟨classOf standardKinds path (packageName standardKinds root) t name.text,
      ?_, ?_, rfl, ?_⟩
    · rw [hT, Option.bind_some, hName, Option.map_some]
    · rw [hT, Option.bind_some, hName]
      rfl
    · exact methods_attributed hRoot hT hClass _ _ _

def namePart (part text : String) : Tree :=
  .node { kind := "identifier", part := some part, text := text } []

def declared (kind name bodyKind : String) (members : List Tree) : Tree :=
  .node { kind := kind }
    [namePart "name" name, .node { kind := bodyKind, part := some "body" } members]

def invoked (name : String) : Tree :=
  .node { kind := "method_invocation" } [namePart "name" name]

/-- A class with a listener of an anonymous class in a field, an enumeration, and a method with a
class of its own. -/
def nestedTypes : Tree :=
  .node { kind := "program" }
    [declared "class_declaration" "Screen" "class_body"
      [.node { kind := "field_declaration" }
        [.node { kind := "object_creation_expression" }
          [namePart "type" "Listener",
            .node { kind := "class_body" }
              [declared "method_declaration" "onEvent" "block" [invoked "refresh"]]]],
        declared "enum_declaration" "Mode" "enum_body"
          [declared "method_declaration" "label" "block" [invoked "toText"]],
        declared "method_declaration" "open" "block"
          [declared "class_declaration" "Row" "class_body"
            [declared "method_declaration" "draw" "block" [invoked "paint"]],
            invoked "load"]]]

theorem members_attributed_nested :
    nestedTypes.WellFormed ∧
      (treeClasses standardKinds "Screen.java" nestedTypes).map
        (fun symbol => (symbol.name, symbol.methods.map fun m => (m.name, m.calls))) =
          [("Screen", [("onEvent", ["refresh"]), ("open", ["load"])]),
            ("Row", [("draw", ["paint"])])] ∧
      List.Forall₂ (ClassAt nestedTypes "Screen.java") nestedTypes.classAddresses
        (treeClasses standardKinds "Screen.java" nestedTypes) := by
  have hWellFormed : nestedTypes.WellFormed := ⟨by decide +kernel, by decide +kernel⟩
  exact ⟨hWellFormed, by decide +kernel, (members_attributed hWellFormed _).2.2.2⟩

end Tree
end SensorFlow.Java
