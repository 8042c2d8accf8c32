import SensorFlow.Proofs.Source.Balance

/-!
# Brace depth and matching braces

The brace depth of an offset is counted from the start of the text and held at zero where a brace
closes that was never opened. A pair of braces is found by a count of its own, from its opening
brace on. Within the pair that count stays positive, so there the depth is never held: it is the
depth before the pair with the balance of the pair added.
-/
namespace SensorFlow.Source
set_option autoImplicit false

section Rise
variable {text : List Char} {opening closing : Char} {first last : Nat}

/-- Where the balance has come to two, a bracket has been opened at one and is still open. -/
theorem exists_open_of_two_le_balance (hDiffer : opening ≠ closing) (hOrder : first ≤ last)
    (hTwo : 2 ≤ balance text opening closing first last) :
    ∃ inner, first ≤ inner ∧ inner < last ∧ text[inner]? = some opening ∧
      balance text opening closing first inner = 1 ∧
      ∀ i, inner ≤ i → i < last → 1 ≤ balance text opening closing inner (i + 1) := by
  induction last, hOrder using Nat.le_induction with
  | base =>
    rw [balance_self] at hTwo
    omega
  | succ last hOrder ih =>
    have hNext := balance_succ text opening closing hOrder
    by_cases hBefore : 2 ≤ balance text opening closing first last
    · obtain ⟨inner, hFirst, hLast, hOpen, hOne, hInside⟩ := ih hBefore
      refine ⟨inner, hFirst, by omega, hOpen, hOne, ?_⟩
      intro i hI hBehind
      rcases Nat.lt_succ_iff_lt_or_eq.1 hBehind with hBehind | rfl
      · exact hInside i hI hBehind
      · have hSum := balance_add text opening closing hFirst (show inner ≤ i + 1 by omega)
        omega
    · -- the last character is the one that opens
      rcases weight_cases text hDiffer last with ⟨hOpen, hOne⟩ | ⟨_, hMinus⟩ | ⟨_, _, hNone⟩
      · refine ⟨last, hOrder, Nat.lt_succ_self last, hOpen, by omega, ?_⟩
        intro i hI hBehind
        obtain rfl : i = last := by omega
        rw [balance_succ text opening closing le_rfl, balance_self, hOne]
        omega
      · omega
      · omega

/-- Within a pair the balance is more than one exactly inside another pair. -/
theorem Closes.two_le_balance_iff (hCloses : Closes text opening closing first last)
    (hDiffer : opening ≠ closing) {pos : Nat} (hFirst : first < pos) (hLast : pos ≤ last) :
    2 ≤ balance text opening closing first pos ↔
      ∃ inner close, first < inner ∧ inner < pos ∧ text[inner]? = some opening ∧
        closing? text inner opening closing = some close ∧ pos ≤ close := by
  constructor
  · intro hTwo
    obtain ⟨inner, hInner, hPos, hOpen, hOne, hInside⟩ :=
      exists_open_of_two_le_balance hDiffer hFirst.le hTwo
    have hBehind : first < inner := by
      refine Nat.lt_of_le_of_ne hInner ?_
      rintro rfl
      rw [balance_self] at hOne
      omega
    obtain ⟨close, _, hClose⟩ :=
      hCloses.exists_inner hDiffer hBehind (hPos.trans_le hLast) hOpen
    refine ⟨inner, close, hBehind, hPos, hOpen, (closing?_eq_some_iff hDiffer hOpen).2 hClose, ?_⟩
    by_contra hBefore
    have hZero := hClose.balance_eq
    have hStill := hInside close hClose.le (by omega)
    omega
  · rintro ⟨inner, close, hBehind, hPos, hOpen, hFound, hClose⟩
    have hInner := (closing?_eq_some_iff hDiffer hOpen).1 hFound
    have hOuter := hCloses.one_le_balance hBehind (by omega)
    have hMore := hInner.one_le_balance hPos hClose
    have hSum := balance_add text opening closing hBehind.le hPos.le
    omega

end Rise

section Depth
variable {text : List Char} {first last : Nat}

theorem braces_differ : '{' ≠ '}' := by decide

theorem closesAt_brace (text : List Char) (i : Nat) : ClosesAt text '}' i ↔ text[i]? = some '}' :=
  and_iff_left fun hArrow => absurd hArrow.1 (by decide)

theorem braceDepth_succ (text : List Char) (pos : Nat) :
    (braceDepth text (pos + 1) : Int) = max 0 (braceDepth text pos + weight text '{' '}' pos) := by
  have hStep : braceDepth text (pos + 1) =
      text[pos]?.toList.foldl (fun depth c => braceDepthAfter c depth) (braceDepth text pos) := by
    rw [braceDepth, List.take_add_one, List.foldl_append]
    rfl
  rw [hStep]
  rcases weight_cases text braces_differ pos with
    ⟨hOpen, hWeight⟩ | ⟨hClose, hWeight⟩ | ⟨hOpen, hClose, hWeight⟩
  · rw [hOpen, hWeight]
    change ((braceDepth text pos + 1 : Nat) : Int) = _
    omega
  · rw [(closesAt_brace text pos).1 hClose, hWeight]
    change ((braceDepth text pos - 1 : Nat) : Int) = _
    omega
  · rw [closesAt_brace] at hClose
    rw [hWeight]
    cases hHere : text[pos]? with
    | none => simp
    | some c =>
      simp only [hHere, ne_eq, Option.some.injEq] at hOpen hClose
      simp [braceDepthAfter, hOpen, hClose]

/-- As long as no more is closed than has been opened, the depth goes with the balance. -/
theorem braceDepth_eq_add_balance (hOrder : first ≤ last)
    (hInside : ∀ i, first ≤ i → i < last → 0 ≤ balance text '{' '}' first (i + 1)) :
    (braceDepth text last : Int) = braceDepth text first + balance text '{' '}' first last := by
  induction last, hOrder using Nat.le_induction with
  | base => rw [balance_self, add_zero]
  | succ last hOrder ih =>
    have hBefore := ih fun i hI hBehind => hInside i hI (by omega)
    have hHere := hInside last hOrder (Nat.lt_succ_self last)
    have hNext := balance_succ text '{' '}' hOrder
    rw [braceDepth_succ]
    omega

theorem Closes.braceDepth_eq (hCloses : Closes text '{' '}' first last) {pos : Nat}
    (hFirst : first ≤ pos) (hLast : pos ≤ last + 1) :
    (braceDepth text pos : Int) = braceDepth text first + balance text '{' '}' first pos := by
  refine braceDepth_eq_add_balance hFirst ?_
  intro i hI hBefore
  rcases Nat.lt_or_eq_of_le (show i ≤ last by omega) with hInside | rfl
  · have hOne := hCloses.inside i hI hInside
    omega
  · exact hCloses.balance_eq.ge

/-- Behind its opening brace a pair is one deeper than before it, and behind its closing brace it is
not. In between the depth is at least one more, and exactly one more where no other pair within this
one is open. -/
theorem brace_depth_follows_pairs (text : List Char) {first last : Nat}
    (hOpen : text[first]? = some '{') (hFound : closing? text first '{' '}' = some last) :
    braceDepth text (first + 1) = braceDepth text first + 1 ∧
    braceDepth text (last + 1) = braceDepth text first ∧
    ∀ pos, first < pos → pos ≤ last →
      braceDepth text first + 1 ≤ braceDepth text pos ∧
      (braceDepth text pos = braceDepth text first + 1 ↔
        ¬∃ inner close, first < inner ∧ inner < pos ∧ text[inner]? = some '{' ∧
          closing? text inner '{' '}' = some close ∧ pos ≤ close) := by
  have hCloses := (closing?_eq_some_iff braces_differ hOpen).1 hFound
  have hLess := hCloses.lt braces_differ hOpen
  refine ⟨?_, ?_, ?_⟩
  · have hDepth := hCloses.braceDepth_eq (show first ≤ first + 1 by omega) (by omega)
    rw [balance_succ text _ _ le_rfl, balance_self, weight_open braces_differ hOpen] at hDepth
    omega
  · have hDepth := hCloses.braceDepth_eq (show first ≤ last + 1 by omega) le_rfl
    rw [hCloses.balance_eq] at hDepth
    omega
  · intro pos hFirst hLast
    have hDepth := hCloses.braceDepth_eq hFirst.le (by omega)
    have hOne := hCloses.one_le_balance hFirst hLast
    refine ⟨by omega, ?_⟩
    rw [← hCloses.two_le_balance_iff braces_differ hFirst hLast]
    omega

end Depth

/-- Before the pair a brace closes that was never opened. -/
theorem brace_depth_follows_pairs_stray :
    let text := ['}', '{', 'a', '{', 'b', '}', 'c', '}']
    braceDepth text 2 = braceDepth text 1 + 1 ∧ braceDepth text 8 = braceDepth text 1 ∧
      braceDepth text 1 + 1 ≤ braceDepth text 4 := by
  intro text
  have hOpen : text[1]? = some '{' := by decide +kernel
  have hFound : closing? text 1 '{' '}' = some 7 := by decide +kernel
  obtain ⟨hBehind, hAfter, hInside⟩ := brace_depth_follows_pairs text hOpen hFound
  exact ⟨hBehind, hAfter, (hInside 4 (by decide) (by decide)).1⟩

end SensorFlow.Source
