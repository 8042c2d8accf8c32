import SensorFlow.Source.Brackets

/-!
# Properly nested brackets

In a text whose round, square and curly brackets are properly nested, counting one kind of bracket
is as good as counting all of them. `exitFrom` counts all: it is the offset of the first bracket
that closes something opened before. `balanced` looks at one kind alone.
-/
namespace SensorFlow.Source
set_option autoImplicit false

/-- The bracket that closes what a bracket opens. -/
def closer? (c : Char) : Option Char :=
  if c = '(' then some ')' else if c = '[' then some ']' else if c = '{' then some '}' else none

def closesBracket (c : Char) : Bool := c == ')' || c == ']' || c == '}'

/-- Whether the brackets of a text close each other and, in the end, the expected ones that were
opened before, innermost first. -/
def nestsFrom : (expected text : List Char) → Bool
  | expected, [] => expected.isEmpty
  | expected, c :: rest =>
    match closer? c with
    | some closing => nestsFrom (closing :: expected) rest
    | none =>
      if closesBracket c then expected.head? == some c && nestsFrom expected.tail rest
      else nestsFrom expected rest

def Nested (text : List Char) : Prop := nestsFrom [] text = true

instance (text : List Char) : Decidable (Nested text) :=
  inferInstanceAs (Decidable (_ = true))

/-- The offset at which a closing bracket has no opening one, where `depth` of them have been opened
before; the end of the text if there is none. -/
def exitFrom (depth pos : Nat) : List Char → Nat
  | [] => pos
  | c :: rest =>
    if (closer? c).isSome then exitFrom (depth + 1) (pos + 1) rest
    else if closesBracket c then
      if depth = 0 then pos else exitFrom (depth - 1) (pos + 1) rest
    else exitFrom depth (pos + 1) rest

theorem closer?_eq_some_iff {c closing : Char} : closer? c = some closing ↔
    c = '(' ∧ closing = ')' ∨ c = '[' ∧ closing = ']' ∨ c = '{' ∧ closing = '}' := by
  unfold closer?
  grind

theorem closer?_brace : closer? '{' = some '}' := rfl

theorem closer?_round : closer? '(' = some ')' := rfl

theorem closesBracket_of_closer? {c closing : Char} (hCloser : closer? c = some closing) :
    closesBracket closing = true ∧ closesBracket c = false := by
  rcases closer?_eq_some_iff.1 hCloser with ⟨rfl, rfl⟩ | ⟨rfl, rfl⟩ | ⟨rfl, rfl⟩ <;> decide

theorem closer?_inj {c other closing : Char} (hC : closer? c = some closing)
    (hOther : closer? other = some closing) : c = other := by
  rw [closer?_eq_some_iff] at hC hOther
  grind

theorem closer?_of_closesBracket {c : Char} (hCloses : closesBracket c = true) :
    closer? c = none := by
  cases hCloser : closer? c with
  | none => rfl
  | some closing =>
    rw [(closesBracket_of_closer? hCloser).2] at hCloses
    cases hCloses

section Steps
variable {c : Char} {rest : List Char}

theorem nestsFrom_open {closing : Char} (hCloser : closer? c = some closing)
    (expected : List Char) :
    nestsFrom expected (c :: rest) = nestsFrom (closing :: expected) rest := by
  rw [nestsFrom, hCloser]

theorem nestsFrom_close (hCloses : closesBracket c = true) (expected : List Char) :
    nestsFrom expected (c :: rest) = true ↔
      ∃ outer, expected = c :: outer ∧ nestsFrom outer rest = true := by
  rw [nestsFrom, closer?_of_closesBracket hCloses]
  cases expected with
  | nil => simp [hCloses]
  | cons closing outer =>
    simp only [hCloses, if_true, List.head?_cons, List.tail_cons, Bool.and_eq_true, beq_iff_eq,
      Option.some.injEq, List.cons.injEq]
    constructor
    · rintro ⟨hSame, hNests⟩
      exact ⟨outer, ⟨hSame, rfl⟩, hNests⟩
    · rintro ⟨_, ⟨hSame, rfl⟩, hNests⟩
      exact ⟨hSame, hNests⟩

theorem nestsFrom_plain (hCloser : closer? c = none) (hCloses : closesBracket c = false)
    (expected : List Char) : nestsFrom expected (c :: rest) = nestsFrom expected rest := by
  rw [nestsFrom, hCloser]
  simp [hCloses]

theorem exitFrom_open {closing : Char} (hCloser : closer? c = some closing) (depth pos : Nat) :
    exitFrom depth pos (c :: rest) = exitFrom (depth + 1) (pos + 1) rest := by
  rw [exitFrom, hCloser]
  rfl

theorem exitFrom_close (hCloses : closesBracket c = true) (depth pos : Nat) :
    exitFrom depth pos (c :: rest) =
      if depth = 0 then pos else exitFrom (depth - 1) (pos + 1) rest := by
  rw [exitFrom, closer?_of_closesBracket hCloses]
  simp [hCloses]

theorem exitFrom_plain (hCloser : closer? c = none) (hCloses : closesBracket c = false)
    (depth pos : Nat) : exitFrom depth pos (c :: rest) = exitFrom depth (pos + 1) rest := by
  rw [exitFrom, hCloser]
  simp [hCloses]

end Steps

/-- A character opens, closes or does neither. -/
theorem bracket_cases (c : Char) :
    (∃ closing, closer? c = some closing) ∨ closesBracket c = true ∨
      closer? c = none ∧ closesBracket c = false := by
  cases hCloser : closer? c with
  | some closing => exact .inl ⟨closing, rfl⟩
  | none =>
    cases hCloses : closesBracket c with
    | true => exact .inr (.inl rfl)
    | false => exact .inr (.inr ⟨rfl, rfl⟩)

theorem le_exitFrom (depth pos : Nat) (text : List Char) : pos ≤ exitFrom depth pos text := by
  induction text generalizing depth pos with
  | nil => exact Nat.le_refl _
  | cons c rest ih =>
    rcases bracket_cases c with ⟨closing, hCloser⟩ | hCloses | ⟨hCloser, hCloses⟩
    · rw [exitFrom_open hCloser]
      exact Nat.le_of_succ_le (ih _ _)
    · rw [exitFrom_close hCloses]
      split
      · exact Nat.le_refl _
      · exact Nat.le_of_succ_le (ih _ _)
    · rw [exitFrom_plain hCloser hCloses]
      exact Nat.le_of_succ_le (ih _ _)

/-- From deeper inside the way out is longer, unless there is none. -/
theorem exitFrom_lt_or (depth more pos : Nat) (text : List Char) :
    exitFrom depth pos text < exitFrom (depth + more + 1) pos text ∨
      exitFrom depth pos text = pos + text.length ∧
        exitFrom (depth + more + 1) pos text = pos + text.length := by
  induction text generalizing depth pos with
  | nil => exact .inr ⟨rfl, rfl⟩
  | cons c rest ih =>
    rw [List.length_cons, show pos + (rest.length + 1) = pos + 1 + rest.length by omega]
    rcases bracket_cases c with ⟨closing, hCloser⟩ | hCloses | ⟨hCloser, hCloses⟩
    · rw [exitFrom_open hCloser, exitFrom_open hCloser,
        show depth + more + 1 + 1 = depth + 1 + more + 1 by omega]
      exact ih _ _
    · rw [exitFrom_close hCloses (depth + more + 1), if_neg (Nat.succ_ne_zero _),
        Nat.add_sub_cancel, exitFrom_close hCloses]
      by_cases hDepth : depth = 0
      · rw [if_pos hDepth]
        exact .inl (le_exitFrom _ _ _)
      · rw [if_neg hDepth, show depth + more = depth - 1 + more + 1 by omega]
        exact ih _ _
    · rw [exitFrom_plain hCloser hCloses, exitFrom_plain hCloser hCloses]
      exact ih _ _

theorem exitFrom_mono {depth deeper : Nat} (hDepth : depth ≤ deeper) (pos : Nat)
    (text : List Char) : exitFrom depth pos text ≤ exitFrom deeper pos text := by
  rcases Nat.eq_or_lt_of_le hDepth with rfl | hLess
  · exact Nat.le_refl _
  · obtain ⟨more, rfl⟩ := Nat.exists_eq_add_of_lt hLess
    rcases exitFrom_lt_or depth more pos text with hLt | ⟨hHere, hThere⟩
    · exact Nat.le_of_lt hLt
    · omega

/-- Where the way out has not been met yet, it goes on from some depth. -/
theorem exists_exitFrom (depth pos : Nat) (passed rest : List Char)
    (hPassed : pos + passed.length ≤ exitFrom depth pos (passed ++ rest)) :
    ∃ inner, exitFrom depth pos (passed ++ rest) = exitFrom inner (pos + passed.length) rest := by
  induction passed generalizing depth pos with
  | nil => exact ⟨depth, rfl⟩
  | cons c passed ih =>
    rw [List.length_cons] at hPassed ⊢
    rw [List.cons_append] at hPassed ⊢
    rw [show pos + (passed.length + 1) = pos + 1 + passed.length by omega] at hPassed ⊢
    rcases bracket_cases c with ⟨closing, hCloser⟩ | hCloses | ⟨hCloser, hCloses⟩
    · rw [exitFrom_open hCloser] at hPassed ⊢
      exact ih _ _ hPassed
    · rw [exitFrom_close hCloses] at hPassed ⊢
      split at hPassed
      · omega
      · next hDepth =>
        rw [if_neg hDepth]
        exact ih _ _ hPassed
    · rw [exitFrom_plain hCloser hCloses] at hPassed ⊢
      exact ih _ _ hPassed

section Closing
variable {opening closing : Char}

theorem ne_arrow_of_closer? (hCloser : closer? opening = some closing) : closing ≠ '>' := by
  rintro rfl
  exact absurd (closesBracket_of_closer? hCloser).1 (by decide)

theorem closingFrom_open (before : Option Char) (depth : Int) (pos : Nat) (rest : List Char) :
    closingFrom opening closing before depth pos (opening :: rest) =
      closingFrom opening closing (some opening) (depth + 1) (pos + 1) rest := by
  rw [closingFrom, if_pos rfl]

theorem closingFrom_close (hCloser : closer? opening = some closing) (before : Option Char)
    (depth : Int) (pos : Nat) (rest : List Char) :
    closingFrom opening closing before depth pos (closing :: rest) =
      if depth = 1 then some pos
      else closingFrom opening closing (some closing) (depth - 1) (pos + 1) rest := by
  have hNe : closing ≠ opening := by
    rintro rfl
    have hKinds := closesBracket_of_closer? hCloser
    simp [hKinds.1] at hKinds
  rw [closingFrom, if_neg hNe, if_pos ⟨rfl, fun hArrow => ne_arrow_of_closer? hCloser hArrow.1⟩]

theorem closingFrom_plain {c : Char} (hOpen : c ≠ opening) (hClose : c ≠ closing)
    (before : Option Char) (depth : Int) (pos : Nat) (rest : List Char) :
    closingFrom opening closing before depth pos (c :: rest) =
      closingFrom opening closing (some c) depth (pos + 1) rest := by
  rw [closingFrom, if_neg hOpen, if_neg fun hBoth => hClose hBoth.1]

/-- In a nested text the bracket that closes the last expected one is found by its own kind alone:
it is the way out that is found by all kinds. -/
theorem closingFrom_of_nestsFrom (hCloser : closer? opening = some closing)
    (inner : List Char) {outer text : List Char} (before : Option Char) (pos : Nat)
    (hNests : nestsFrom (inner ++ closing :: outer) text = true) :
    closingFrom opening closing before (inner.count closing + 1) pos text =
      some (exitFrom inner.length pos text) := by
  -- of the brackets that are open inside, only those of the same kind count for the depth
  induction text generalizing before inner pos with
  | nil => simp [nestsFrom] at hNests
  | cons c rest ih =>
    rcases bracket_cases c with ⟨other, hOther⟩ | hCloses | ⟨hPlain, hCloses⟩
    · rw [nestsFrom_open hOther] at hNests
      have hFound := ih (other :: inner) (some c) (pos + 1) hNests
      rw [exitFrom_open hOther]
      by_cases hSame : c = opening
      · subst hSame
        obtain rfl := Option.some.inj (hOther.symm.trans hCloser)
        rw [List.count_cons_self] at hFound
        rw [closingFrom_open]
        exact hFound
      · have hDiffer : other ≠ closing := by
          rintro rfl
          exact hSame (closer?_inj hOther hCloser)
        have hClosing : c ≠ closing := by
          rintro rfl
          have hCloses := (closesBracket_of_closer? hCloser).1
          rw [(closesBracket_of_closer? hOther).2] at hCloses
          cases hCloses
        rw [List.count_cons_of_ne hDiffer] at hFound
        rw [closingFrom_plain hSame hClosing]
        exact hFound
    · obtain ⟨left, hLeft, hNests⟩ := (nestsFrom_close hCloses _).1 hNests
      rw [exitFrom_close hCloses]
      have hOpening : c ≠ opening := by
        rintro rfl
        rw [closer?_of_closesBracket hCloses] at hCloser
        cases hCloser
      cases inner with
      | nil =>
        obtain ⟨rfl, rfl⟩ := List.cons.inj hLeft
        rw [closingFrom_close hCloser]
        simp
      | cons first inner =>
        obtain ⟨rfl, rfl⟩ := List.cons.inj hLeft
        have hFound := ih inner (some first) (pos + 1) hNests
        rw [List.length_cons, if_neg (Nat.succ_ne_zero _), Nat.add_sub_cancel, ← hFound]
        by_cases hSame : first = closing
        · subst hSame
          rw [closingFrom_close hCloser, List.count_cons_self, if_neg (by omega)]
          congr 1
          omega
        · rw [closingFrom_plain hOpening hSame, List.count_cons_of_ne hSame]
    · rw [nestsFrom_plain hPlain hCloses] at hNests
      have hOpening : c ≠ opening := by
        rintro rfl
        rw [hPlain] at hCloser
        cases hCloser
      have hClosing : c ≠ closing := by
        rintro rfl
        rw [(closesBracket_of_closer? hCloser).1] at hCloses
        cases hCloses
      rw [exitFrom_plain hPlain hCloses, closingFrom_plain hOpening hClosing]
      exact ih inner (some c) (pos + 1) hNests

theorem exists_nestsFrom_of_append {expected : List Char} (front : List Char) {rest : List Char}
    (hNests : nestsFrom expected (front ++ rest) = true) :
    ∃ left, nestsFrom left rest = true := by
  induction front generalizing expected with
  | nil => exact ⟨expected, hNests⟩
  | cons c front ih =>
    rw [List.cons_append] at hNests
    rcases bracket_cases c with ⟨closing, hCloser⟩ | hCloses | ⟨hCloser, hCloses⟩
    · rw [nestsFrom_open hCloser] at hNests
      exact ih hNests
    · obtain ⟨outer, _, hNests⟩ := (nestsFrom_close hCloses _).1 hNests
      exact ih hNests
    · rw [nestsFrom_plain hCloser hCloses] at hNests
      exact ih hNests

/-- The offset behind an opening bracket leads out of it where its own kind closes it. -/
theorem Nested.closing?_eq {text : List Char} (hNested : Nested text)
    (hCloser : closer? opening = some closing) {pos : Nat} (hOpen : text[pos]? = some opening) :
    closing? text pos opening closing = some (exitFrom 0 (pos + 1) (text.drop (pos + 1))) := by
  obtain ⟨hPos, hGet⟩ := List.getElem?_eq_some_iff.1 hOpen
  have hDrop : text.drop pos = opening :: text.drop (pos + 1) := by
    rw [List.drop_eq_getElem_cons hPos, hGet]
  obtain ⟨outer, hNests⟩ : ∃ outer, nestsFrom outer (text.drop pos) = true := by
    have hWhole : nestsFrom [] (text.take pos ++ text.drop pos) = true := by
      rwa [List.take_append_drop]
    exact exists_nestsFrom_of_append _ hWhole
  rw [hDrop, nestsFrom_open hCloser] at hNests
  rw [closing?, hDrop, closingFrom_open]
  exact closingFrom_of_nestsFrom hCloser [] (some opening) (pos + 1) hNests

theorem exists_of_closingFrom {before : Option Char} {depth : Int} {pos close : Nat}
    {text : List Char} (hClose : closingFrom opening closing before depth pos text = some close) :
    ∃ k, close = pos + k ∧ text[k]? = some closing := by
  induction text generalizing before depth pos with
  | nil => cases hClose
  | cons c rest ih =>
    have hLater : ∀ {before : Option Char} {depth : Int},
        closingFrom opening closing before depth (pos + 1) rest = some close →
          ∃ k, close = pos + k ∧ (c :: rest)[k]? = some closing := by
      intro before depth hRest
      obtain ⟨k, rfl, hAt⟩ := ih hRest
      exact ⟨k + 1, by omega, hAt⟩
    rw [closingFrom] at hClose
    split at hClose
    · exact hLater hClose
    · split at hClose
      · next hHere =>
        split at hClose
        · exact ⟨0, (Option.some.inj hClose).symm, congrArg some hHere.1⟩
        · exact hLater hClose
      · exact hLater hClose

theorem getElem?_of_closing? {text : List Char} {pos close : Nat}
    (hClose : closing? text pos opening closing = some close) : text[close]? = some closing := by
  obtain ⟨k, rfl, hAt⟩ := exists_of_closingFrom hClose
  rwa [List.getElem?_drop] at hAt

end Closing

/-- Whether the brackets of one kind close each other and `depth` others that are open before. -/
def balanced (opening closing : Char) (depth : Nat) : List Char → Bool
  | [] => depth == 0
  | c :: rest =>
    if c = opening then balanced opening closing (depth + 1) rest
    else if c = closing then depth != 0 && balanced opening closing (depth - 1) rest
    else balanced opening closing depth rest

section Balance
variable {opening closing : Char}

theorem balanced_append {depth : Nat} {text : List Char}
    (hText : balanced opening closing depth text = true) (outer : Nat) (rest : List Char) :
    balanced opening closing (outer + depth) (text ++ rest) =
      balanced opening closing outer rest := by
  induction text generalizing depth with
  | nil =>
    obtain rfl : depth = 0 := by simpa [balanced] using hText
    rfl
  | cons c text ih =>
    rw [balanced] at hText
    rw [List.cons_append, balanced]
    split at hText
    · next hOpen =>
      rw [if_pos hOpen]
      exact ih hText
    · next hOpen =>
      rw [if_neg hOpen]
      split at hText
      · next hClose =>
        rw [Bool.and_eq_true, bne_iff_ne] at hText
        have hDepth := hText.1
        have hSome : (outer + depth != 0) = true := by
          rw [bne_iff_ne]
          omega
        rw [if_pos hClose, hSome, Bool.true_and,
          show outer + depth - 1 = outer + (depth - 1) by omega, ih hText.2]
      · next hClose =>
        rw [if_neg hClose]
        exact ih hText

theorem balanced_of_plain {text : List Char} (hOpening : opening ∉ text)
    (hClosing : closing ∉ text) : balanced opening closing 0 text = true := by
  induction text with
  | nil => rfl
  | cons c text ih =>
    rw [List.mem_cons, not_or] at hOpening hClosing
    rw [balanced, if_neg (Ne.symm hOpening.1), if_neg (Ne.symm hClosing.1)]
    exact ih hOpening.2 hClosing.2

theorem count_of_balanced (hDiffer : opening ≠ closing) {depth : Nat} {text : List Char}
    (hText : balanced opening closing depth text = true) :
    depth + text.count opening = text.count closing := by
  induction text generalizing depth with
  | nil => simpa [balanced] using hText
  | cons c text ih =>
    rw [balanced] at hText
    split at hText
    · next hOpen =>
      have hRest := ih hText
      rw [hOpen, List.count_cons_self, List.count_cons_of_ne hDiffer]
      omega
    · next hOpen =>
      split at hText
      · next hClose =>
        rw [Bool.and_eq_true, bne_iff_ne] at hText
        have hRest := ih hText.2
        rw [hClose, List.count_cons_self, List.count_cons_of_ne (Ne.symm hDiffer)]
        omega
      · next hClose =>
        rw [List.count_cons_of_ne hOpen, List.count_cons_of_ne hClose]
        exact ih hText

theorem exists_balanced_of_append (front : List Char) {rest : List Char} {depth : Nat}
    (hText : balanced opening closing depth (front ++ rest) = true) :
    ∃ inner, balanced opening closing inner rest = true := by
  induction front generalizing depth with
  | nil => exact ⟨depth, hText⟩
  | cons c front ih =>
    rw [List.cons_append, balanced] at hText
    split at hText
    · exact ih hText
    · split at hText
      · exact ih (Bool.and_eq_true _ _ ▸ hText).2
      · exact ih hText

/-- What is opened in a balanced text is closed behind it. -/
theorem mem_of_balanced (hDiffer : opening ≠ closing) {front rest : List Char} {depth : Nat}
    (hText : balanced opening closing depth (front ++ opening :: rest) = true) :
    closing ∈ rest := by
  obtain ⟨inner, hInner⟩ := exists_balanced_of_append front hText
  rw [balanced, if_pos rfl] at hInner
  have hCount := count_of_balanced hDiffer hInner
  exact List.count_pos_iff.1 (by omega)

theorem closingFrom_of_balanced (hCloser : closer? opening = some closing) {depth : Nat}
    {text : List Char} (hText : balanced opening closing depth text = true) (before : Option Char)
    (pos : Nat) (rest : List Char) :
    closingFrom opening closing before (depth + 1) pos (text ++ closing :: rest) =
      some (pos + text.length) := by
  induction text generalizing depth before pos with
  | nil =>
    obtain rfl : depth = 0 := by simpa [balanced] using hText
    rw [List.nil_append, closingFrom_close hCloser]
    rfl
  | cons c text ih =>
    rw [balanced] at hText
    rw [List.cons_append, List.length_cons, show pos + (text.length + 1) = pos + 1 + text.length by
      omega]
    split at hText
    · next hOpen =>
      subst hOpen
      rw [closingFrom_open]
      exact ih hText _ _
    · next hOpen =>
      split at hText
      · next hClose =>
        subst hClose
        rw [Bool.and_eq_true, bne_iff_ne] at hText
        rw [closingFrom_close hCloser, if_neg (by omega), ← ih hText.2 (some c)]
        congr 1
        omega
      · next hClose =>
        rw [closingFrom_plain hOpen hClose]
        exact ih hText _ _

end Balance
end SensorFlow.Source
