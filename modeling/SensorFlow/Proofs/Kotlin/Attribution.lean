import Mathlib.Data.List.Forall2
import Mathlib.Data.List.Induction
import SensorFlow.Kotlin.Outline
import SensorFlow.Proofs.Order
import SensorFlow.Proofs.Source.Masking
import SensorFlow.Proofs.Text.Scan

/-!
# Whose method a function is

Every located function becomes one method of one class: of the declaration that starts last among
those whose bodies it starts in, or of the facade of the file if there is none. Offsets are those
of the masked text, which are also those of the source.
-/
namespace SensorFlow.Kotlin
open Text Source
set_option autoImplicit false

/-- `d` starts last among the declarations whose bodies cover the offset. -/
def Owns (ds : List Declaration) (pos : Nat) (d : Declaration) : Prop :=
  d ∈ ds ∧ d.bodyCovers pos = true ∧ ∀ e ∈ ds, e.bodyCovers pos = true → e.start ≤ d.start

def Outside (ds : List Declaration) (pos : Nat) : Prop := ∀ d ∈ ds, d.bodyCovers pos = false

instance (ds : List Declaration) (pos : Nat) (d : Declaration) : Decidable (Owns ds pos d) :=
  inferInstanceAs (Decidable (_ ∧ _ ∧ _))

instance (ds : List Declaration) (pos : Nat) : Decidable (Outside ds pos) :=
  inferInstanceAs (Decidable (∀ d ∈ ds, _))

theorem Owns.not_outside {ds : List Declaration} {pos : Nat} {d : Declaration}
    (hOwns : Owns ds pos d) : ¬Outside ds pos := by
  intro hOutside
  have hCovers := hOwns.2.1
  rw [hOutside d hOwns.1] at hCovers
  cases hCovers

section Innermost

variable {ds : List Declaration}

theorem innermost?_spec (hSorted : ds.Pairwise fun a b => a.start < b.start) (pos : Nat) :
    (∃ d, innermost? ds pos = some d ∧ Owns ds pos d) ∨
      innermost? ds pos = none ∧ Outside ds pos := by
  induction ds using List.reverseRecOn with
  | nil => exact .inr ⟨rfl, fun d hD => absurd hD List.not_mem_nil⟩
  | append_singleton ds d ih =>
    obtain ⟨hEarlier, _, hBefore⟩ := List.pairwise_append.1 hSorted
    have hStep : innermost? (ds ++ [d]) pos =
        if d.bodyCovers pos && (innermost? ds pos).all (·.start < d.start) then some d
        else innermost? ds pos := by
      rw [innermost?, List.foldl_append]
      rfl
    have hMem : ∀ e, e ∈ ds ++ [d] ↔ e ∈ ds ∨ e = d := by simp
    -- the declaration that comes last starts last, so it owns the offset if it covers it at all
    cases hCovers : d.bodyCovers pos with
    | true =>
      have hLast : (innermost? ds pos).all (·.start < d.start) = true := by
        rcases ih hEarlier with ⟨e, hE, hOwns⟩ | ⟨hNone, _⟩
        · simpa [hE] using hBefore e hOwns.1 d List.mem_cons_self
        · simp [hNone]
      rw [hCovers, hLast] at hStep
      refine .inl ⟨d, hStep, (hMem d).2 (.inr rfl), hCovers, ?_⟩
      intro e hE _
      rcases (hMem e).1 hE with hE | rfl
      · exact Nat.le_of_lt (hBefore e hE d List.mem_cons_self)
      · exact Nat.le_refl _
    | false =>
      rw [hCovers] at hStep
      rcases ih hEarlier with ⟨e, hE, hOwns, hInside, hLast⟩ | ⟨hNone, hOutside⟩
      · refine .inl ⟨e, hStep.trans hE, (hMem e).2 (.inl hOwns), hInside, ?_⟩
        intro other hOther hOtherCovers
        rcases (hMem other).1 hOther with hOther | rfl
        · exact hLast other hOther hOtherCovers
        · rw [hCovers] at hOtherCovers
          cases hOtherCovers
      · refine .inr ⟨hStep.trans hNone, ?_⟩
        intro other hOther
        rcases (hMem other).1 hOther with hOther | rfl
        · exact hOutside other hOther
        · exact hCovers

theorem innermost?_eq_some_iff (hSorted : ds.Pairwise fun a b => a.start < b.start) {pos : Nat}
    {d : Declaration} : innermost? ds pos = some d ↔ Owns ds pos d := by
  rcases innermost?_spec hSorted pos with ⟨e, hE, hOwns⟩ | ⟨hNone, hOutside⟩
  · rw [hE, Option.some.injEq]
    constructor
    · rintro rfl
      exact hOwns
    · rintro ⟨hD, hCovers, hLast⟩
      have hStart := Nat.le_antisymm (hLast e hOwns.1 hOwns.2.1) (hOwns.2.2 d hD hCovers)
      exact eq_of_key_eq Declaration.start hSorted hOwns.1 hD hStart
  · rw [hNone]
    constructor
    · intro hSome
      cases hSome
    · intro hOwns
      exact absurd hOutside hOwns.not_outside

theorem innermost?_eq_none_iff (hSorted : ds.Pairwise fun a b => a.start < b.start) {pos : Nat} :
    innermost? ds pos = none ↔ Outside ds pos := by
  rcases innermost?_spec hSorted pos with ⟨e, hE, hOwns⟩ | ⟨hNone, hOutside⟩
  · rw [hE]
    constructor
    · intro hNone
      cases hNone
    · intro hOutside
      exact absurd hOutside hOwns.not_outside
  · exact ⟨fun _ => hOutside, fun _ => hNone⟩

theorem ownFunctions_eq (hSorted : ds.Pairwise fun a b => a.start < b.start) {d : Declaration}
    (hD : d ∈ ds) (fs : List Function) :
    ownFunctions ds fs d = fs.filter fun f => Owns ds f.start d := by
  apply List.filter_congr
  intro f _
  rw [Bool.eq_iff_iff, decide_eq_true_eq, ← innermost?_eq_some_iff hSorted, Option.any_eq_true]
  constructor
  · rintro ⟨e, hE, hStart⟩
    have hOwns := (innermost?_eq_some_iff hSorted).1 hE
    rw [hE, eq_of_key_eq Declaration.start hSorted hOwns.1 hD (beq_iff_eq.1 hStart)]
  · intro hOwner
    exact ⟨d, hOwner, beq_self_eq_true _⟩

theorem topLevelFunctions_eq (hSorted : ds.Pairwise fun a b => a.start < b.start)
    (fs : List Function) : topLevelFunctions ds fs = fs.filter fun f => Outside ds f.start := by
  apply List.filter_congr
  intro f _
  rw [Bool.eq_iff_iff, decide_eq_true_eq, ← innermost?_eq_none_iff hSorted,
    Option.isNone_iff_eq_none]

end Innermost

/-- Where no item belongs to two groups, the groups together hold every item that belongs to one,
once. -/
theorem flatMap_filter_perm {α κ : Type} (belongs : κ → α → Bool) (items : List α) {keys : List κ}
    (hApart : keys.Pairwise fun k l => ∀ x, belongs k x = true → belongs l x = false) :
    (keys.flatMap fun k => items.filter (belongs k)).Perm
      (items.filter fun x => keys.any (belongs · x)) := by
  induction keys with
  | nil => simp
  | cons k keys ih =>
    obtain ⟨hHead, hApart⟩ := List.pairwise_cons.1 hApart
    have hSplit := List.filter_append_perm (belongs k)
      (items.filter fun x => (k :: keys).any (belongs · x))
    rw [List.filter_filter, List.filter_filter] at hSplit
    have hHere : (items.filter fun x => belongs k x && (k :: keys).any (belongs · x)) =
        items.filter (belongs k) := by
      apply List.filter_congr
      intro x _
      rw [List.any_cons]
      cases belongs k x <;> simp
    have hThere : (items.filter fun x => !belongs k x && (k :: keys).any (belongs · x)) =
        items.filter fun x => keys.any (belongs · x) := by
      apply List.filter_congr
      intro x _
      rw [List.any_cons]
      cases hK : belongs k x with
      | false => simp
      | true =>
        have hNone : keys.any (belongs · x) = false :=
          List.any_eq_false.2 fun l hL => by simp [hHead l hL x hK]
        simp [hNone]
    rw [hHere, hThere] at hSplit
    exact ((ih hApart).append_left _).trans hSplit

section Located

theorem start_of_declaration? {text : List Char} {hit : Hit (List Char)} {d : Declaration}
    (hRead : declaration? text hit = some d) : d.start = hit.start := by
  rw [declaration?] at hRead
  obtain ⟨_, _, hRead⟩ := Option.bind_eq_some_iff.1 hRead
  obtain ⟨_, _, hRead⟩ := Option.bind_eq_some_iff.1 hRead
  rw [← Option.some.inj hRead]

theorem declarations_sorted (text : List Char) :
    (declarations text).Pairwise fun a b => a.start < b.start := by
  refine ((findFrom_sorted _ _ _ _ _).filter _).filterMap _ ?_
  intro hit next hLess d hD e hE
  rw [start_of_declaration? hD, start_of_declaration? hE]
  exact hLess

theorem position_of_function? {text : List Char} {hit : Hit (List Char)} {f : Function}
    (hRead : function? text hit = some f) :
    f.start = hit.start ∧ f.line = lineOf text hit.start := by
  rw [function?] at hRead
  obtain ⟨_, _, hRead⟩ := Option.bind_eq_some_iff.1 hRead
  rw [← Option.some.inj hRead]
  exact ⟨rfl, rfl⟩

theorem functions_sorted (text : List Char) :
    (functions text).Pairwise fun a b => a.start < b.start := by
  refine (findFrom_sorted _ _ _ _ _).filterMap _ ?_
  intro hit next hLess f hF g hG
  rw [(position_of_function? hF).1, (position_of_function? hG).1]
  exact hLess

theorem fun_of_mem_functions {text : List Char} {f : Function} (hF : f ∈ functions text) :
    "fun".toList <+: text.drop f.start ∧ f.line = lineOf text f.start := by
  obtain ⟨hit, hHit, hRead⟩ := List.mem_filterMap.1 hF
  obtain ⟨hStart, hLine⟩ := position_of_function? hRead
  obtain ⟨before, behind, hHeader⟩ := exists_read_of_mem_findAll hHit
  rw [hStart]
  refine ⟨?_, hLine⟩
  rw [readFunction] at hHeader
  split at hHeader
  · cases hHeader
  · obtain ⟨spaced, hSpaced, _⟩ := Option.bind_eq_some_iff.1 hHeader
    obtain ⟨rest, hWord, _⟩ := Option.bind_eq_some_iff.1 hSpaced
    rw [(after?_eq_some_iff _ _ _).1 hWord]
    exact List.prefix_append _ _

end Located

theorem functions_grouped {ds : List Declaration}
    (hSorted : ds.Pairwise fun a b => a.start < b.start) (fs : List Function) :
    ((ds.flatMap fun d => fs.filter fun f => Owns ds f.start d) ++
      fs.filter fun f => Outside ds f.start).Perm fs := by
  have hApart : ds.Pairwise fun d e => ∀ f : Function,
      decide (Owns ds f.start d) = true → decide (Owns ds f.start e) = false := by
    refine hSorted.imp ?_
    intro d e hLess f hD
    rw [decide_eq_false_iff_not]
    -- an owner starts last, so the later declaration cannot cover the offset too
    intro hE
    have hLast := (of_decide_eq_true hD).2.2 e hE.1 hE.2.1
    omega
  have hOwned : (fs.filter fun f => !ds.any fun d => decide (Owns ds f.start d)) =
      fs.filter fun f => Outside ds f.start := by
    apply List.filter_congr
    intro f _
    rw [Bool.eq_iff_iff, Bool.not_eq_true', List.any_eq_false, decide_eq_true_eq]
    constructor
    · intro hNone
      rcases innermost?_spec hSorted f.start with ⟨d, _, hOwns⟩ | ⟨_, hOutside⟩
      · exact absurd (decide_eq_true hOwns) (hNone d hOwns.1)
      · exact hOutside
    · intro hOutside d _ hOwns
      exact (of_decide_eq_true hOwns).not_outside hOutside
  have hGroups := flatMap_filter_perm (fun d f => decide (Owns ds f.start d)) fs hApart
  rw [← hOwned]
  exact (hGroups.append_right _).trans (List.filter_append_perm _ fs)

/-- The methods of a class stand for the given functions, one for each and in their order, and
bear the line of the source on which the word `fun` is read. -/
def Carries (source : List Char) (c : ClassSymbol) (fs : List Function) : Prop :=
  List.Forall₂ (fun f m =>
    m = methodOf (mask source) (functions (mask source)) c.qualifiedName f ∧
      "fun".toList <+: source.drop f.start ∧ m.line = 1 + (source.take f.start).count '\n')
    fs c.methods

theorem carries_of_methods {source : List Char} {c : ClassSymbol} {fs : List Function}
    (hFs : ∀ f ∈ fs, f ∈ functions (mask source))
    (hMethods : c.methods =
      fs.map (methodOf (mask source) (functions (mask source)) c.qualifiedName)) :
    Carries source c fs := by
  rw [Carries, hMethods, List.forall₂_map_right_iff, List.forall₂_same]
  intro f hF
  obtain ⟨hWord, hLine⟩ := fun_of_mem_functions (hFs f hF)
  refine ⟨rfl, prefix_of_mask (by decide) hWord, ?_⟩
  show (f.line : Int) = _
  rw [hLine, lineOf, lineBreaks_mask]
  omega

theorem name_facadeOf (text : List Char) (path : String) (fs topLevel : List Function) :
    (facadeOf text path fs topLevel).name = facadeName path := by
  rw [facadeOf]

theorem carries_facadeOf {source : List Char} (path : String) {fs : List Function}
    (hFs : ∀ f ∈ fs, f ∈ functions (mask source)) :
    Carries source (facadeOf (mask source) path (functions (mask source)) fs) fs :=
  carries_of_methods hFs rfl

/-- The functions that a declaration owns, in the order of the text. -/
def functionsOf (text : List Char) (d : Declaration) : List Function :=
  (functions text).filter fun f => Owns (declarations text) f.start d

def looseFunctions (text : List Char) : List Function :=
  (functions text).filter fun f => Outside (declarations text) f.start

theorem carries_classOf (source : List Char) (path : String) {d : Declaration}
    (hD : d ∈ declarations (mask source)) :
    Carries source (classOf (mask source) path (declarations (mask source))
      (functions (mask source)) d) (functionsOf (mask source) d) := by
  refine carries_of_methods (fun f hF => (List.mem_filter.1 hF).1) ?_
  show (ownFunctions _ _ d).map _ = _
  rw [ownFunctions_eq (declarations_sorted _) hD]
  rfl

theorem looseFunctions_ne_nil_iff (text : List Char) :
    looseFunctions text ≠ [] ↔ ∃ f ∈ functions text, Outside (declarations text) f.start := by
  rw [looseFunctions, Ne, List.filter_eq_nil_iff]
  simp only [decide_eq_true_eq, not_forall, not_not, exists_prop]

/-- One class for each declaration, in the order of the source, then the facade if a function stands
outside all bodies. Each function is one method of one class: of the declaration that starts last
around it, or of the facade. -/
theorem functions_attributed (source : List Char) (path : String) :
    ((declarations (mask source)).Pairwise fun a b => a.start < b.start) ∧
    ((functions (mask source)).Pairwise fun a b => a.start < b.start) ∧
    ((declarations (mask source)).flatMap (functionsOf (mask source)) ++
      looseFunctions (mask source)).Perm (functions (mask source)) ∧
    ∃ (cs : List ClassSymbol) (facade? : Option ClassSymbol),
      classes source path = cs ++ facade?.toList ∧
      List.Forall₂ (fun d c => c.name = String.ofList d.name ∧
        Carries source c (functionsOf (mask source) d)) (declarations (mask source)) cs ∧
      (facade?.isSome ↔
        ∃ f ∈ functions (mask source), Outside (declarations (mask source)) f.start) ∧
      ∀ c ∈ facade?, c.name = facadeName path ∧
        Carries source c (looseFunctions (mask source)) := by
  have hSorted := declarations_sorted (mask source)
  refine ⟨hSorted, functions_sorted _, functions_grouped hSorted _, (declarations (mask source)).map
    (classOf (mask source) path (declarations (mask source)) (functions (mask source))),
    if looseFunctions (mask source) = [] then none
    else some (facadeOf (mask source) path (functions (mask source))
      (looseFunctions (mask source))),
    ?_, ?_, ?_, ?_⟩
  · have hLoose : topLevelFunctions (declarations (mask source)) (functions (mask source)) =
        looseFunctions (mask source) := topLevelFunctions_eq hSorted _
    rw [classes, hLoose]
    cases looseFunctions (mask source) <;> rfl
  · rw [List.forall₂_map_right_iff, List.forall₂_same]
    intro d hD
    exact ⟨rfl, carries_classOf source path hD⟩
  · rw [← looseFunctions_ne_nil_iff]
    split <;> simp_all
  · intro c hC
    split at hC
    · cases hC
    · obtain rfl := Option.some.inj hC
      exact ⟨name_facadeOf _ _ _ _, carries_facadeOf path fun f hF => (List.mem_filter.1 hF).1⟩

end SensorFlow.Kotlin
