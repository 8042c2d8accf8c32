import Mathlib.Algebra.BigOperators.Intervals
import Mathlib.Order.Bounds.Basic
import SensorFlow.Source.Brackets

/-!
# Where a bracket closes

The balance of a stretch of text is the number of its opening brackets less the number of its
closing ones. A bracket closes where the balance from it on comes to zero for the first time. The
balance of two stretches in a row is the sum of theirs, so what is opened within a pair is closed
within it.
-/
namespace SensorFlow.Source
set_option autoImplicit false

/-- The character before an offset. -/
def preceding (text : List Char) : Nat → Option Char
  | 0 => none
  | i + 1 => text[i]?

/-- A closing bracket that counts for one: the head of an arrow does not. -/
def ClosesAt (text : List Char) (closing : Char) (i : Nat) : Prop :=
  text[i]? = some closing ∧ ¬(closing = '>' ∧ preceding text i = some '-')

instance (text : List Char) (closing : Char) (i : Nat) : Decidable (ClosesAt text closing i) :=
  inferInstanceAs (Decidable (_ ∧ _))

/-- What the character at an offset adds to the balance. -/
def weight (text : List Char) (opening closing : Char) (i : Nat) : Int :=
  (if text[i]? = some opening then 1 else 0) - (if ClosesAt text closing i then 1 else 0)

/-- Opening brackets less closing ones from `first` up to, not including, `last`. -/
def balance (text : List Char) (opening closing : Char) (first last : Nat) : Int :=
  ∑ i ∈ Finset.Ico first last, weight text opening closing i

section Sums
variable {text : List Char} {opening closing : Char}

variable (text opening closing) in
theorem balance_self (first : Nat) : balance text opening closing first first = 0 := by
  rw [balance, Finset.Ico_self, Finset.sum_empty]

variable (text opening closing) in
theorem balance_succ {first last : Nat} (hOrder : first ≤ last) :
    balance text opening closing first (last + 1) =
      balance text opening closing first last + weight text opening closing last :=
  Finset.sum_Ico_succ_top hOrder _

variable (text opening closing) in
theorem balance_add {first middle last : Nat} (hFirst : first ≤ middle) (hLast : middle ≤ last) :
    balance text opening closing first middle + balance text opening closing middle last =
      balance text opening closing first last :=
  Finset.sum_Ico_consecutive _ hFirst hLast

theorem weight_of_length_le {i : Nat} (hEnd : text.length ≤ i) :
    weight text opening closing i = 0 := by
  simp [weight, ClosesAt, List.getElem?_eq_none hEnd]

theorem balance_of_length_le {first middle last : Nat} (hFirst : first ≤ middle)
    (hLast : middle ≤ last) (hEnd : text.length ≤ middle) :
    balance text opening closing first last = balance text opening closing first middle := by
  have hBehind : balance text opening closing middle last = 0 := by
    refine Finset.sum_eq_zero fun i hI => weight_of_length_le ?_
    exact hEnd.trans (Finset.mem_Ico.1 hI).1
  rw [← balance_add text opening closing hFirst hLast, hBehind, add_zero]

theorem weight_open (hDiffer : opening ≠ closing) {i : Nat} (hOpen : text[i]? = some opening) :
    weight text opening closing i = 1 := by
  have hCloses : ¬ClosesAt text closing i := by
    rintro ⟨hClosing, _⟩
    exact hDiffer (Option.some.inj (hOpen.symm.trans hClosing))
  rw [weight, if_pos hOpen, if_neg hCloses, sub_zero]

theorem weight_cases (text : List Char) (hDiffer : opening ≠ closing) (i : Nat) :
    text[i]? = some opening ∧ weight text opening closing i = 1 ∨
    ClosesAt text closing i ∧ weight text opening closing i = -1 ∨
    text[i]? ≠ some opening ∧ ¬ClosesAt text closing i ∧ weight text opening closing i = 0 := by
  by_cases hOpen : text[i]? = some opening
  · exact .inl ⟨hOpen, weight_open hDiffer hOpen⟩
  · by_cases hClose : ClosesAt text closing i
    · exact .inr (.inl ⟨hClose, by simp [weight, hOpen, hClose]⟩)
    · exact .inr (.inr ⟨hOpen, hClose, by simp [weight, hOpen, hClose]⟩)

end Sums

/-- The bracket at `first` closes at `last`: there the balance from `first` on comes to zero, and
before it has been positive. -/
structure Closes (text : List Char) (opening closing : Char) (first last : Nat) : Prop where
  le : first ≤ last
  closesAt : ClosesAt text closing last
  balance_eq : balance text opening closing first (last + 1) = 0
  inside : ∀ i, first ≤ i → i < last → 1 ≤ balance text opening closing first (i + 1)

/-- The bracket at `first` is never closed. -/
def StaysOpen (text : List Char) (opening closing : Char) (first : Nat) : Prop :=
  ∀ i, first ≤ i → 1 ≤ balance text opening closing first (i + 1)

section Scan
variable {text : List Char} {opening closing : Char}

/-- As long as something is open, a step of the search adds the weight of a character and stops at
zero. -/
theorem closingFrom_drop (hDiffer : opening ≠ closing) {depth : Int} (hDepth : 1 ≤ depth)
    {pos : Nat} (hPos : pos < text.length) :
    closingFrom opening closing (preceding text pos) depth pos (text.drop pos) =
      if depth + weight text opening closing pos = 0 then some pos
      else closingFrom opening closing (preceding text (pos + 1))
        (depth + weight text opening closing pos) (pos + 1) (text.drop (pos + 1)) := by
  have hHere : text[pos]? = some text[pos] := List.getElem?_eq_getElem hPos
  have hNext : preceding text (pos + 1) = some text[pos] := hHere
  have hCloses : ClosesAt text closing pos ↔
      text[pos] = closing ∧ ¬(text[pos] = '>' ∧ preceding text pos = some '-') := by
    rw [ClosesAt, hHere, Option.some.injEq]
    exact and_congr_right fun hSame => by rw [hSame]
  rw [List.drop_eq_getElem_cons hPos, closingFrom, hNext]
  rcases weight_cases text hDiffer pos with
    ⟨hOpen, hWeight⟩ | ⟨hClose, hWeight⟩ | ⟨hOpen, hClose, hWeight⟩
  · rw [hHere, Option.some.injEq] at hOpen
    rw [hWeight, if_pos hOpen, if_neg (by omega)]
  · have hHead := hCloses.1 hClose
    have hOther : text[pos] ≠ opening := fun hSame => hDiffer (hSame.symm.trans hHead.1)
    rw [hWeight, if_neg hOther, if_pos hHead]
    by_cases hOne : depth = 1
    · rw [if_pos hOne, if_pos (by omega)]
    · rw [if_neg hOne, if_neg (by omega), sub_eq_add_neg]
  · rw [hHere, ne_eq, Option.some.injEq] at hOpen
    rw [hWeight, if_neg hOpen, if_neg (mt hCloses.2 hClose), add_zero, if_neg (by omega)]

theorem closingFrom_cases (hDiffer : opening ≠ closing) {first pos : Nat} (hFirst : first < pos)
    (hInside : ∀ i, first ≤ i → i < pos → 1 ≤ balance text opening closing first (i + 1)) :
    (∃ last, closingFrom opening closing (preceding text pos)
        (balance text opening closing first pos) pos (text.drop pos) = some last ∧
      Closes text opening closing first last) ∨
    closingFrom opening closing (preceding text pos)
        (balance text opening closing first pos) pos (text.drop pos) = none ∧
      StaysOpen text opening closing first := by
  have hDepth : 1 ≤ balance text opening closing first pos := by
    have hLast := hInside (pos - 1) (by omega) (by omega)
    rwa [Nat.sub_add_cancel (by omega)] at hLast
  -- the search goes on with the balance from `first` on as its depth, which has been positive so far
  induction hLength : text.length - pos generalizing pos with
  | zero =>
    have hEnd : text.length ≤ pos := by omega
    refine .inr ⟨by rw [List.drop_eq_nil_of_le hEnd, closingFrom], ?_⟩
    intro i hI
    by_cases hBefore : i < pos
    · exact hInside i hI hBefore
    · rwa [balance_of_length_le hFirst.le (by omega) hEnd]
  | succ length ih =>
    have hWeight := weight_cases text hDiffer pos
    have hNext := balance_succ text opening closing hFirst.le
    rw [closingFrom_drop hDiffer hDepth (by omega), ← hNext]
    by_cases hZero : balance text opening closing first (pos + 1) = 0
    · rw [if_pos hZero]
      have hCloses : ClosesAt text closing pos := by
        rcases hWeight with ⟨_, hOne⟩ | ⟨hCloses, _⟩ | ⟨_, _, hNone⟩
        · omega
        · exact hCloses
        · omega
      exact .inl ⟨pos, rfl, hFirst.le, hCloses, hZero, hInside⟩
    · rw [if_neg hZero]
      have hStill : 1 ≤ balance text opening closing first (pos + 1) := by
        rcases hWeight with ⟨_, hOne⟩ | ⟨_, hMinus⟩ | ⟨_, _, hNone⟩ <;> omega
      refine ih (by omega) ?_ hStill (by omega)
      intro i hI hBefore
      rcases Nat.lt_succ_iff_lt_or_eq.1 hBefore with hBefore | rfl
      · exact hInside i hI hBefore
      · exact hStill

theorem closing?_cases (hDiffer : opening ≠ closing) {first : Nat}
    (hOpen : text[first]? = some opening) :
    (∃ last, closing? text first opening closing = some last ∧
      Closes text opening closing first last) ∨
    closing? text first opening closing = none ∧ StaysOpen text opening closing first := by
  obtain ⟨hPos, hHere⟩ := List.getElem?_eq_some_iff.1 hOpen
  have hOne : balance text opening closing first (first + 1) = 1 := by
    rw [balance_succ text opening closing le_rfl, balance_self, weight_open hDiffer hOpen, zero_add]
  have hSearch : closing? text first opening closing =
      closingFrom opening closing (preceding text (first + 1))
        (balance text opening closing first (first + 1)) (first + 1) (text.drop (first + 1)) := by
    rw [closing?, List.drop_eq_getElem_cons hPos, hHere, closingFrom, if_pos rfl, hOne, preceding,
      hOpen, zero_add]
  rw [hSearch]
  refine closingFrom_cases hDiffer (Nat.lt_succ_self first) ?_
  intro i hI hBefore
  obtain rfl : i = first := by omega
  exact hOne.ge

end Scan

section Closes
variable {text : List Char} {opening closing : Char} {first last : Nat}

theorem Closes.isLeast (hCloses : Closes text opening closing first last) :
    IsLeast {i | first ≤ i ∧ balance text opening closing first (i + 1) = 0} last := by
  refine ⟨⟨hCloses.le, hCloses.balance_eq⟩, ?_⟩
  rintro i ⟨hI, hZero⟩
  by_contra hBefore
  have hOpen := hCloses.inside i hI (by omega)
  omega

theorem closing?_eq_some_iff (hDiffer : opening ≠ closing) (hOpen : text[first]? = some opening) :
    closing? text first opening closing = some last ↔ Closes text opening closing first last := by
  rcases closing?_cases hDiffer hOpen with ⟨found, hFound, hCloses⟩ | ⟨hFound, hStays⟩
  · rw [hFound, Option.some.injEq]
    constructor
    · rintro rfl
      exact hCloses
    · intro hOther
      exact hCloses.isLeast.unique hOther.isLeast
  · rw [hFound]
    constructor
    · rintro ⟨⟩
    · intro hOther
      have hZero := hOther.balance_eq
      have hOne := hStays last hOther.le
      omega

theorem closing?_eq_none_iff (hDiffer : opening ≠ closing) (hOpen : text[first]? = some opening) :
    closing? text first opening closing = none ↔ StaysOpen text opening closing first := by
  rcases closing?_cases hDiffer hOpen with ⟨found, hFound, hCloses⟩ | ⟨hFound, hStays⟩
  · rw [hFound]
    constructor
    · rintro ⟨⟩
    · intro hStays
      have hZero := hCloses.balance_eq
      have hOne := hStays found hCloses.le
      omega
  · exact iff_of_true hFound hStays

theorem Closes.lt (hCloses : Closes text opening closing first last) (hDiffer : opening ≠ closing)
    (hOpen : text[first]? = some opening) : first < last := by
  refine Nat.lt_of_le_of_ne hCloses.le ?_
  rintro rfl
  exact hDiffer (Option.some.inj (hOpen.symm.trans hCloses.closesAt.1))

theorem Closes.one_le_balance (hCloses : Closes text opening closing first last) {pos : Nat}
    (hFirst : first < pos) (hLast : pos ≤ last) : 1 ≤ balance text opening closing first pos := by
  have hInside := hCloses.inside (pos - 1) (by omega) (by omega)
  rwa [Nat.sub_add_cancel (by omega)] at hInside

/-- What is opened within a pair is closed within it. -/
theorem Closes.exists_inner (hCloses : Closes text opening closing first last)
    (hDiffer : opening ≠ closing) {inner : Nat} (hFirst : first < inner) (hLast : inner < last)
    (hOpen : text[inner]? = some opening) :
    ∃ close < last, Closes text opening closing inner close := by
  -- what has been opened before the inner bracket is closed by the end of the pair
  have hBefore := hCloses.one_le_balance hFirst hLast.le
  have hBehind : balance text opening closing inner (last + 1) < 0 := by
    have hSum := balance_add text opening closing hFirst.le (show inner ≤ last + 1 by omega)
    rw [hCloses.balance_eq] at hSum
    omega
  rcases closing?_cases hDiffer hOpen with ⟨close, _, hInner⟩ | ⟨_, hStays⟩
  · refine ⟨close, ?_, hInner⟩
    rcases Nat.lt_trichotomy close last with hLess | rfl | hMore
    · exact hLess
    · have hZero := hInner.balance_eq
      omega
    · have hStill := hInner.inside last hLast.le hMore
      omega
  · have hStill := hStays last hLast.le
    omega

end Closes

/-- A bracket closes where the balance from it on is zero for the first time, at a closing bracket
that counts, and does not close if the balance stays positive. A bracket that is opened within a
pair is closed within it. -/
theorem bracket_closed_where_balanced (text : List Char) {opening closing : Char}
    (hDiffer : opening ≠ closing) {first : Nat} (hOpen : text[first]? = some opening) :
    (∀ last, closing? text first opening closing = some last ↔
      IsLeast {i | first ≤ i ∧ balance text opening closing first (i + 1) = 0} last) ∧
    (∀ last, closing? text first opening closing = some last → ClosesAt text closing last) ∧
    (closing? text first opening closing = none ↔
      ∀ i, first ≤ i → 1 ≤ balance text opening closing first (i + 1)) ∧
    ∀ last inner, closing? text first opening closing = some last → first < inner →
      inner < last → text[inner]? = some opening → ∃ close,
        closing? text inner opening closing = some close ∧ inner < close ∧ close < last := by
  refine ⟨?_, ?_, closing?_eq_none_iff hDiffer hOpen, ?_⟩
  · intro last
    constructor
    · intro hFound
      exact ((closing?_eq_some_iff hDiffer hOpen).1 hFound).isLeast
    · intro hLeast
      rcases closing?_cases hDiffer hOpen with ⟨found, hFound, hCloses⟩ | ⟨_, hStays⟩
      · rw [hFound, hCloses.isLeast.unique hLeast]
      · obtain ⟨hLast, hZero⟩ := hLeast.1
        have hOne := hStays last hLast
        omega
  · intro last hFound
    exact ((closing?_eq_some_iff hDiffer hOpen).1 hFound).closesAt
  · intro last inner hFound hFirst hLast hInner
    have hCloses := (closing?_eq_some_iff hDiffer hOpen).1 hFound
    obtain ⟨close, hBefore, hClose⟩ := hCloses.exists_inner hDiffer hFirst hLast hInner
    exact ⟨close, (closing?_eq_some_iff hDiffer hInner).2 hClose, hClose.lt hDiffer hInner, hBefore⟩

/-- The arrow between the angle brackets closes none of them. -/
theorem bracket_closed_where_balanced_arrow :
    let text := "<(A) -> B<C>>".toList
    IsLeast {i | 0 ≤ i ∧ balance text '<' '>' 0 (i + 1) = 0} 12 ∧
      ∃ close, closing? text 9 '<' '>' = some close ∧ 9 < close ∧ close < 12 := by
  intro text
  have hFound : closing? text 0 '<' '>' = some 12 := by decide +kernel
  have hOpen : text[0]? = some '<' := by decide +kernel
  have hDiffer : '<' ≠ '>' := by decide
  obtain ⟨hLeast, _, _, hInner⟩ := bracket_closed_where_balanced text hDiffer hOpen
  exact ⟨(hLeast 12).1 hFound,
    hInner 12 9 hFound (by decide) (by decide) (by decide +kernel)⟩

end SensorFlow.Source
