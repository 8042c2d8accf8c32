import SensorFlow.Kotlin.Outline
import SensorFlow.Proofs.Kotlin.Attribution
import SensorFlow.Proofs.Kotlin.CallSite
import SensorFlow.Proofs.Kotlin.Header
import SensorFlow.Proofs.Source.Nesting

/-!
# Bodies inside bodies

A braced body ends with its brace, an expression with its line or with the surroundings. In a
nested text a body that starts inside another one ends inside it, whatever the two kinds are, so
the own body of a function has nothing of the functions in it.
-/
namespace SensorFlow.Kotlin
open Text Source
set_option autoImplicit false

structure Braced (text : List Char) (body : Span) : Prop where
  opened : text[body.first]? = some '{'
  last_eq : body.last = exitFrom 0 (body.first + 1) (text.drop (body.first + 1))
  closed : text[body.last]? = some '}'

structure Expressed (text : List Char) (body : Span) : Prop where
  signed : text[body.first]? = some '='
  last_eq : body.last = expressionEnd 0 (body.first + 1) (text.drop (body.first + 1))

section Expression
variable {c : Char} {rest : List Char}

theorem expressionEnd_open {closing : Char} (hCloser : closer? c = some closing)
    (depth pos : Nat) :
    expressionEnd depth pos (c :: rest) = expressionEnd (depth + 1) (pos + 1) rest := by
  rcases closer?_eq_some_iff.1 hCloser with ⟨rfl, _⟩ | ⟨rfl, _⟩ | ⟨rfl, _⟩ <;> rfl

theorem expressionEnd_close (hCloses : closesBracket c = true) (depth pos : Nat) :
    expressionEnd depth pos (c :: rest) =
      if depth = 0 then pos - 1 else expressionEnd (depth - 1) (pos + 1) rest := by
  simp only [closesBracket, Bool.or_eq_true, beq_iff_eq] at hCloses
  rcases hCloses with (rfl | rfl) | rfl <;> cases depth <;> rfl

theorem expressionEnd_plain (hCloser : closer? c = none) (hCloses : closesBracket c = false)
    (depth pos : Nat) :
    expressionEnd depth pos (c :: rest) =
      if c = '\n' ∧ depth = 0 then pos else expressionEnd depth (pos + 1) rest := by
  have hOpens : (c == '(' || c == '{' || c == '[') = false := by
    unfold closer? at hCloser
    grind
  have hNone : (c == ')' || c == '}' || c == ']') = false := by
    unfold closesBracket at hCloses
    grind
  rw [expressionEnd, hOpens, hNone]
  simp

end Expression

theorem pred_le_expressionEnd (depth pos : Nat) (text : List Char) :
    pos - 1 ≤ expressionEnd depth pos text := by
  induction text generalizing depth pos with
  | nil => exact Nat.le_refl _
  | cons c rest ih =>
    rcases bracket_cases c with ⟨closing, hCloser⟩ | hCloses | ⟨hCloser, hCloses⟩
    · rw [expressionEnd_open hCloser]
      have hRest := ih (depth + 1) (pos + 1)
      omega
    · rw [expressionEnd_close hCloses]
      have hRest := ih (depth - 1) (pos + 1)
      split <;> omega
    · rw [expressionEnd_plain hCloser hCloses]
      have hRest := ih depth (pos + 1)
      split <;> omega

/-- An expression does not leave what a closing bracket ends. -/
theorem expressionEnd_lt_exitFrom (depth : Nat) {pos : Nat} (hPos : 0 < pos) (text : List Char) :
    expressionEnd depth pos text < exitFrom depth pos text := by
  induction text generalizing depth pos with
  | nil => exact Nat.sub_lt hPos Nat.one_pos
  | cons c rest ih =>
    rcases bracket_cases c with ⟨closing, hCloser⟩ | hCloses | ⟨hCloser, hCloses⟩
    · rw [expressionEnd_open hCloser, exitFrom_open hCloser]
      exact ih _ (Nat.succ_pos _)
    · rw [expressionEnd_close hCloses, exitFrom_close hCloses]
      split
      · omega
      · exact ih _ (Nat.succ_pos _)
    · rw [expressionEnd_plain hCloser hCloses, exitFrom_plain hCloser hCloses]
      split
      · exact le_exitFrom _ _ _
      · exact ih _ (Nat.succ_pos _)

/-- What is opened inside an expression is closed before the expression ends. -/
theorem exitFrom_le_expressionEnd (depth more pos : Nat) (text : List Char)
    (hExit : exitFrom depth pos text < pos + text.length) :
    exitFrom depth pos text ≤ expressionEnd (depth + more + 1) pos text := by
  induction text generalizing depth pos with
  | nil => exact absurd hExit (Nat.lt_irrefl _)
  | cons c rest ih =>
    rw [List.length_cons] at hExit
    rcases bracket_cases c with ⟨closing, hCloser⟩ | hCloses | ⟨hCloser, hCloses⟩
    · rw [exitFrom_open hCloser] at hExit ⊢
      rw [expressionEnd_open hCloser, show depth + more + 1 + 1 = depth + 1 + more + 1 by omega]
      exact ih _ _ (by omega)
    · rw [exitFrom_close hCloses] at hExit ⊢
      rw [expressionEnd_close hCloses, if_neg (Nat.succ_ne_zero _), Nat.add_sub_cancel]
      by_cases hDepth : depth = 0
      · rw [if_pos hDepth]
        exact pred_le_expressionEnd _ (pos + 1) _
      · rw [if_neg hDepth] at hExit ⊢
        rw [show depth + more = depth - 1 + more + 1 by omega]
        exact ih _ _ (by omega)
    · rw [exitFrom_plain hCloser hCloses] at hExit ⊢
      rw [expressionEnd_plain hCloser hCloses, if_neg fun hBoth => Nat.succ_ne_zero _ hBoth.2]
      exact ih _ _ (by omega)

theorem expressionEnd_mono {depth deeper : Nat} (hDepth : depth ≤ deeper) (pos : Nat)
    (text : List Char) : expressionEnd depth pos text ≤ expressionEnd deeper pos text := by
  induction text generalizing depth deeper pos with
  | nil => exact Nat.le_refl _
  | cons c rest ih =>
    rcases bracket_cases c with ⟨closing, hCloser⟩ | hCloses | ⟨hCloser, hCloses⟩
    · rw [expressionEnd_open hCloser, expressionEnd_open hCloser]
      exact ih (Nat.succ_le_succ hDepth) _
    · rw [expressionEnd_close hCloses, expressionEnd_close hCloses]
      have hRest := pred_le_expressionEnd (deeper - 1) (pos + 1) rest
      have hIh := ih (Nat.sub_le_sub_right hDepth 1) (pos + 1)
      split <;> split <;> omega
    · rw [expressionEnd_plain hCloser hCloses, expressionEnd_plain hCloser hCloses]
      have hRest := pred_le_expressionEnd deeper (pos + 1) rest
      by_cases hBreak : c = '\n' ∧ depth = 0
      · rw [if_pos hBreak]
        split <;> omega
      · rw [if_neg hBreak, if_neg fun hBoth => hBreak ⟨hBoth.1, by omega⟩]
        exact ih hDepth _

/-- Where an expression has not ended yet, it goes on at some depth. -/
theorem exists_expressionEnd (depth pos : Nat) (passed rest : List Char)
    (hPassed : pos + passed.length ≤ expressionEnd depth pos (passed ++ rest)) :
    ∃ inner, expressionEnd depth pos (passed ++ rest) =
      expressionEnd inner (pos + passed.length) rest := by
  induction passed generalizing depth pos with
  | nil => exact ⟨depth, rfl⟩
  | cons c passed ih =>
    rw [List.length_cons, show pos + (passed.length + 1) = pos + 1 + passed.length by omega]
      at hPassed ⊢
    rw [List.cons_append] at hPassed ⊢
    rcases bracket_cases c with ⟨closing, hCloser⟩ | hCloses | ⟨hCloser, hCloses⟩
    · rw [expressionEnd_open hCloser] at hPassed ⊢
      exact ih _ _ hPassed
    · rw [expressionEnd_close hCloses] at hPassed ⊢
      split at hPassed
      · omega
      · next hDepth =>
        rw [if_neg hDepth]
        exact ih _ _ hPassed
    · rw [expressionEnd_plain hCloser hCloses] at hPassed ⊢
      split at hPassed
      · omega
      · next hBreak =>
        rw [if_neg hBreak]
        exact ih _ _ hPassed

theorem drop_split (text : List Char) {first next : Nat} (hOrder : first ≤ next)
    (hNext : next ≤ text.length) :
    ∃ passed, text.drop first = passed ++ text.drop next ∧ first + passed.length = next := by
  refine ⟨(text.drop first).take (next - first), ?_, ?_⟩
  · have hDrop : text.drop next = (text.drop first).drop (next - first) := by
      rw [List.drop_drop, show first + (next - first) = next by omega]
    rw [hDrop, List.take_append_drop]
  · rw [List.length_take, List.length_drop]
    omega

theorem drop_eq_cons {text : List Char} {pos : Nat} {c : Char} (hAt : text[pos]? = some c) :
    text.drop pos = c :: text.drop (pos + 1) := by
  obtain ⟨hPos, rfl⟩ := List.getElem?_eq_some_iff.1 hAt
  exact List.drop_eq_getElem_cons hPos

section Laminar
variable {text : List Char} {outer inner : Span}

/-- Inside a braced body the way out of it is that of the body. -/
theorem Braced.exists_exitFrom (hOuter : Braced text outer) {pos : Nat}
    (hFirst : outer.first < pos) (hPos : pos ≤ outer.last) :
    ∃ depth, outer.last = exitFrom depth pos (text.drop pos) := by
  obtain ⟨passed, hText, hLength⟩ := drop_split text (Nat.succ_le_of_lt hFirst)
    (Nat.le_trans hPos (Nat.le_of_lt (List.getElem?_eq_some_iff.1 hOuter.closed).1))
  have hLast := hOuter.last_eq
  rw [hText] at hLast
  rw [hLast]
  have hFound := Source.exists_exitFrom 0 (outer.first + 1) passed (text.drop pos) (by omega)
  rwa [hLength] at hFound

/-- What is opened inside a braced body is closed before its brace. -/
theorem Braced.exitFrom_lt (hOuter : Braced text outer) {pos : Nat} {opening closing : Char}
    (hOpen : text[pos]? = some opening) (hCloser : closer? opening = some closing)
    (hFirst : outer.first < pos) (hInside : pos < outer.last)
    (hExit : exitFrom 0 (pos + 1) (text.drop (pos + 1)) < text.length) :
    exitFrom 0 (pos + 1) (text.drop (pos + 1)) < outer.last := by
  obtain ⟨depth, hLast⟩ := hOuter.exists_exitFrom hFirst (Nat.le_of_lt hInside)
  rw [drop_eq_cons hOpen, exitFrom_open hCloser] at hLast
  rw [hLast]
  rcases exitFrom_lt_or 0 depth (pos + 1) (text.drop (pos + 1)) with hLess | ⟨hNone, _⟩
  · rwa [Nat.zero_add] at hLess
  · have hPos := (List.getElem?_eq_some_iff.1 hOpen).1
    rw [List.length_drop] at hNone
    omega

/-- A body that starts inside a braced one ends before its brace. -/
theorem Braced.last_lt (hOuter : Braced text outer)
    (hInner : Braced text inner ∨ Expressed text inner) (hFirst : outer.first < inner.first)
    (hInside : inner.first < outer.last) : inner.last < outer.last := by
  rcases hInner with hInner | hInner
  · have hExit := (List.getElem?_eq_some_iff.1 hInner.closed).1
    rw [hInner.last_eq] at hExit ⊢
    exact hOuter.exitFrom_lt hInner.opened closer?_brace hFirst hInside hExit
  · obtain ⟨depth, hLast⟩ := hOuter.exists_exitFrom (Nat.lt_succ_of_lt hFirst) hInside
    rw [hLast, hInner.last_eq]
    exact Nat.lt_of_lt_of_le (expressionEnd_lt_exitFrom 0 (Nat.succ_pos _) _)
      (exitFrom_mono (Nat.zero_le _) _ _)

theorem Expressed.last_le (hOuter : Expressed text outer)
    (hInner : Braced text inner ∨ Expressed text inner) (hFirst : outer.first < inner.first)
    (hInside : inner.first < outer.last) : inner.last ≤ outer.last := by
  have hSome : ∃ c, text[inner.first]? = some c := by
    rcases hInner with hInner | hInner
    · exact ⟨_, hInner.opened⟩
    · exact ⟨_, hInner.signed⟩
  obtain ⟨c, hC⟩ := hSome
  have hLength := (List.getElem?_eq_some_iff.1 hC).1
  have hGoes : ∀ pos, outer.first < pos → pos ≤ outer.last → pos ≤ text.length →
      ∃ depth, outer.last = expressionEnd depth pos (text.drop pos) := by
    intro pos hPos hBefore hBound
    obtain ⟨passed, hText, hPassed⟩ := drop_split text (Nat.succ_le_of_lt hPos) hBound
    have hLast := hOuter.last_eq
    rw [hText] at hLast
    rw [hLast]
    have hFound := exists_expressionEnd 0 (outer.first + 1) passed (text.drop pos) (by omega)
    rwa [hPassed] at hFound
  rcases hInner with hInner | hInner
  · obtain ⟨depth, hLast⟩ := hGoes inner.first hFirst (Nat.le_of_lt hInside) (Nat.le_of_lt hLength)
    rw [drop_eq_cons hInner.opened, expressionEnd_open closer?_brace] at hLast
    have hClosed := (List.getElem?_eq_some_iff.1 hInner.closed).1
    rw [hInner.last_eq] at hClosed
    have hLe := exitFrom_le_expressionEnd 0 depth (inner.first + 1) (text.drop (inner.first + 1))
      (by rw [List.length_drop]; omega)
    rw [Nat.zero_add] at hLe
    rwa [hLast, hInner.last_eq]
  · obtain ⟨depth, hLast⟩ := hGoes (inner.first + 1) (by omega) hInside hLength
    rw [hLast, hInner.last_eq]
    exact expressionEnd_mono (Nat.zero_le _) _ _

end Laminar

theorem braced_of_bracedBody? {text : List Char} (hNested : Nested text) {pos : Nat} {body : Span}
    (hBody : bracedBody? text pos = some body) : body.first = pos ∧ Braced text body := by
  rw [bracedBody?] at hBody
  split at hBody
  · next hOpen =>
    have hClose := hNested.closing?_eq closer?_brace hOpen
    have hClosed := getElem?_of_closing? hClose
    obtain rfl := Option.some.inj hBody
    rw [hClose]
    exact ⟨rfl, hOpen, rfl, hClosed⟩
  · cases hBody

theorem kinds_of_functionBody? {text : List Char} (hNested : Nested text) {pos : Nat} {body : Span}
    (hBody : functionBody? text pos = some body) :
    body.first = pos ∧ (Braced text body ∨ Expressed text body) := by
  rw [functionBody?] at hBody
  split at hBody
  · next hSign =>
    obtain rfl := Option.some.inj hBody
    exact ⟨rfl, .inr ⟨hSign, rfl⟩⟩
  · obtain ⟨hFirst, hBraced⟩ := braced_of_bracedBody? hNested hBody
    exact ⟨hFirst, .inl hBraced⟩

theorem body_of_mem_functions {text : List Char} (hNested : Nested text) {f : Function}
    (hF : f ∈ functions text) {body : Span} (hBody : f.body? = some body) :
    f.start ≤ body.first ∧ (Braced text body ∨ Expressed text body) := by
  obtain ⟨hit, hHit, hRead⟩ := List.mem_filterMap.1 hF
  have hOrder := start_le_stop_of_mem_findAll hHit
  rw [function?] at hRead
  obtain ⟨close, hClose, hRead⟩ := Option.bind_eq_some_iff.1 hRead
  have hOpened := le_of_closingFrom hClose
  obtain rfl := Option.some.inj hRead
  obtain ⟨hFirst, hKinds⟩ := kinds_of_functionBody? hNested hBody
  refine ⟨?_, hKinds⟩
  rw [hFirst]
  have hBlanks := le_skipBlanks text (close + 1)
  show hit.start ≤ _
  split
  · refine Nat.le_trans ?_ (le_skipBlanks text _)
    omega
  · omega

theorem hide_getElem? (hidden : Nat → Bool) (pos k : Nat) (text : List Char) :
    (hide hidden pos text)[k]? =
      text[k]?.map fun c => if c != '\n' && hidden (pos + k) then ' ' else c := by
  induction text generalizing pos k with
  | nil => rfl
  | cons c rest ih =>
    cases k with
    | zero => rfl
    | succ k =>
      rw [hide, List.getElem?_cons_succ, List.getElem?_cons_succ, ih,
        show pos + 1 + k = pos + (k + 1) by omega]

/-- The own body of a function among all functions of the text. -/
def ownText (text : List Char) (f : Function) : List Char := ownBody text (functions text) f

/-- The character of the own body of a function at an offset of the text. -/
def ownCharAt? (text : List Char) (f : Function) (pos : Nat) : Option Char :=
  f.body?.bind fun body =>
    if body.first < pos then (ownText text f)[pos - (body.first + 1)]? else none

def Span.holds (body : Span) (pos : Nat) : Bool := body.first < pos && pos < body.last

theorem holds_iff {body : Span} {pos : Nat} :
    body.holds pos = true ↔ body.first < pos ∧ pos < body.last := by
  simp [Span.holds]

theorem holds_of_ownCharAt? {text : List Char} {f : Function} {pos : Nat} {c : Char}
    (hOwn : ownCharAt? text f pos = some c) :
    ∃ body, f.body? = some body ∧ body.holds pos = true := by
  obtain ⟨body, hBody, hOwn⟩ := Option.bind_eq_some_iff.1 hOwn
  split at hOwn
  · next hFirst =>
    rw [ownText, ownBody, hBody] at hOwn
    simp only [hide_getElem?] at hOwn
    obtain ⟨d, hD, _⟩ := Option.map_eq_some_iff.1 hOwn
    have hLength := (List.getElem?_eq_some_iff.1 hD).1
    rw [slice, List.length_take] at hLength
    exact ⟨body, hBody, holds_iff.2 ⟨hFirst, by omega⟩⟩
  · cases hOwn

/-- In the own body of a function, what a function within it covers is masked. -/
theorem masked_of_covers {text : List Char} {f g : Function} (hG : g ∈ functions text)
    {body : Span} (hBody : f.body? = some body) (hApart : g.start ≠ f.start)
    (hWithin : g.within (body.first + 1) body.last = true) {pos : Nat}
    (hCovers : g.covers pos = true) {c : Char} (hOwn : ownCharAt? text f pos = some c) :
    ∃ d, text[pos]? = some d ∧ c = blank d := by
  obtain ⟨same, hSame, hOwn⟩ := Option.bind_eq_some_iff.1 hOwn
  obtain rfl := Option.some.inj (hBody.symm.trans hSame)
  split at hOwn
  · next hFirst =>
    have hOffset : body.first + 1 + (pos - (body.first + 1)) = pos := by omega
    rw [ownText, ownBody, hBody] at hOwn
    simp only [hide_getElem?] at hOwn
    rw [hOffset] at hOwn
    obtain ⟨d, hD, hC⟩ := Option.map_eq_some_iff.1 hOwn
    rw [slice, List.getElem?_take] at hD
    split at hD
    · rw [List.getElem?_drop, hOffset] at hD
      have hHidden : ((functions text).filter fun g => g.start != f.start &&
          g.within (body.first + 1) body.last).any (·.covers pos) = true := by
        refine List.any_eq_true.2 ⟨g, List.mem_filter.2 ⟨hG, ?_⟩, hCovers⟩
        simp [hApart, hWithin]
      rw [hHidden] at hC
      refine ⟨d, hD, hC.symm.trans ?_⟩
      by_cases hBreak : d = '\n' <;> simp [blank, hBreak]
    · cases hD
  · cases hOwn

section Nested
variable {text : List Char} {f g : Function} {outer inner : Span}

/-- In a nested text a function in the body of another one is masked in its own body. -/
theorem masked_of_holds (hNested : Nested text) (hF : f ∈ functions text) (hG : g ∈ functions text)
    (hOuter : f.body? = some outer) (hInner : g.body? = some inner)
    (hFirst : outer.first < g.start) {pos : Nat} (hPos : inner.holds pos = true) {c : Char}
    (hOwn : ownCharAt? text f pos = some c) : ∃ d, text[pos]? = some d ∧ c = blank d := by
  obtain ⟨hBefore, hKinds⟩ := body_of_mem_functions hNested hF hOuter
  obtain ⟨hStart, hInnerKinds⟩ := body_of_mem_functions hNested hG hInner
  obtain ⟨hInnerFirst, hInnerLast⟩ := holds_iff.1 hPos
  obtain ⟨same, hSame, hHolds⟩ := holds_of_ownCharAt? hOwn
  obtain rfl := Option.some.inj (hOuter.symm.trans hSame)
  obtain ⟨_, hOuterLast⟩ := holds_iff.1 hHolds
  -- the offset lies in both bodies, so the inner one starts in the outer one
  have hEnds : inner.last ≤ outer.last := by
    rcases hKinds with hBraced | hExpressed
    · exact Nat.le_of_lt (hBraced.last_lt hInnerKinds (by omega) (by omega))
    · exact hExpressed.last_le hInnerKinds (by omega) (by omega)
  refine masked_of_covers hG hOuter (by omega) ?_ ?_ hOwn
  · simpa [Function.within, hInner] using ⟨hFirst, hEnds⟩
  · simp only [Function.covers, hInner, Bool.and_eq_true, decide_eq_true_eq]
    omega

theorem calleeAt?_of_holds (hNested : Nested text) (hF : f ∈ functions text)
    (hG : g ∈ functions text) (hOuter : f.body? = some outer) (hInner : g.body? = some inner)
    (hFirst : outer.first < g.start) {k : Nat} (hHolds : inner.holds (outer.first + 1 + k) = true) :
    calleeAt? (ownText text f) k = none := by
  rw [calleeAt?, if_neg]
  intro hOpens
  obtain ⟨bracket, hAt, hBracket⟩ := (Option.any_eq_true _ _).1 hOpens
  have hOwn : ownCharAt? text f (outer.first + 1 + k) = some bracket := by
    rw [ownCharAt?, hOuter, Option.bind_some, if_pos (by omega), Nat.add_sub_cancel_left, hAt]
  obtain ⟨d, _, rfl⟩ := masked_of_holds hNested hF hG hOuter hInner hFirst hHolds hOwn
  rw [blank] at hBracket
  split at hBracket <;> cases hBracket

end Nested

/-- Where the own body of a function reaches into that of a function in its body, it is blank. So
the calls that it reports are those of the brackets outside the body of the other one. -/
theorem nested_body_hidden {source : List Char} (hNested : Nested (mask source)) {f g : Function}
    (hF : f ∈ functions (mask source)) (hG : g ∈ functions (mask source)) {outer : Span}
    (hOuter : f.body? = some outer) (hInside : outer.first < g.start ∧ g.start ≤ outer.last) :
    (∀ pos c d, ownCharAt? (mask source) f pos = some c → ownCharAt? (mask source) g pos = some d →
      (mask source)[pos]? ≠ some '\n' → c = ' ') ∧
    ∀ inner owner, g.body? = some inner →
      (methodOf (mask source) (functions (mask source)) owner f).calls =
        ((List.range (ownText (mask source) f).length).filter fun k =>
          !inner.holds (outer.first + 1 + k)).filterMap fun k =>
            (calleeAt? (ownText (mask source) f) k).bind Callee.target? := by
  constructor
  · intro pos c d hOwn hOther hBreak
    obtain ⟨inner, hInner, hHolds⟩ := holds_of_ownCharAt? hOther
    obtain ⟨e, hAt, rfl⟩ := masked_of_holds hNested hF hG hOuter hInner hInside.1 hHolds hOwn
    apply if_neg
    rintro rfl
    exact hBreak hAt
  · intro inner owner hInner
    show calls (ownText (mask source) f) = _
    rw [calls_eq_filterMap_callees, callees, List.filterMap_filterMap, List.filterMap_filter]
    congr
    funext k
    cases hHolds : inner.holds (outer.first + 1 + k) with
    | false => simp
    | true => simp [calleeAt?_of_holds hNested hF hG hOuter hInner hInside.1 hHolds]

/-- An expression that goes on over several lines, in the lambda of another expression. -/
def lambdaWithFunction : List Char :=
  "fun f() = run \x7b\n fun g(x: Int) = h(\n  a(x))\n b()\n\x7d".toList

theorem nested_body_hidden_expression : ∃ f g outer c,
    Nested (mask lambdaWithFunction) ∧ f ∈ functions (mask lambdaWithFunction) ∧
    g ∈ functions (mask lambdaWithFunction) ∧ f.body? = some outer ∧
    (outer.first < g.start ∧ g.start ≤ outer.last) ∧
    ownCharAt? (mask lambdaWithFunction) f 33 = some c ∧ c = ' ' ∧
    ownCharAt? (mask lambdaWithFunction) g 33 = some 'h' := by
  let f : Function := ⟨['f'], 0, 1, [], "Unit".toList, some ⟨8, 49⟩, []⟩
  let g : Function := ⟨['g'], 17, 2, "x: Int".toList, "Unit".toList, some ⟨31, 43⟩, []⟩
  have hNested : Nested (mask lambdaWithFunction) := by decide +kernel
  have hF : f ∈ functions (mask lambdaWithFunction) := by decide +kernel
  have hG : g ∈ functions (mask lambdaWithFunction) := by decide +kernel
  have hInside : 8 < g.start ∧ g.start ≤ 49 := by decide
  obtain ⟨c, hOwn⟩ : ∃ c, ownCharAt? (mask lambdaWithFunction) f 33 = some c :=
    Option.isSome_iff_exists.1 (by decide +kernel)
  have hOther : ownCharAt? (mask lambdaWithFunction) g 33 = some 'h' := by decide +kernel
  refine ⟨f, g, ⟨8, 49⟩, c, hNested, hF, hG, rfl, hInside, hOwn, ?_, hOther⟩
  have hBody : f.body? = some ⟨8, 49⟩ := rfl
  exact (nested_body_hidden hNested hF hG hBody hInside).1 33 c 'h' hOwn hOther (by decide +kernel)

end SensorFlow.Kotlin
