import SensorFlow.Kotlin.Function
import SensorFlow.Proofs.Text.Scan

/-!
# How far a clause reaches

A return type or an inheritance clause goes on to the first place outside its round and angle
brackets at which one of its stops fires. Nothing else ends it but the end of the text.
-/
namespace SensorFlow.Kotlin
open Text
set_option autoImplicit false

/-- How many brackets are open behind a stretch of a clause. A closing one too many is passed over,
and the bracket of an arrow closes nothing. -/
def openBehind (before : Option Char) (depth : Nat) : List Char → Nat
  | [] => depth
  | c :: rest =>
    openBehind (some c)
      (if c == '(' || c == '<' then depth + 1
        else if c == ')' || (c == '>' && before != some '-') then depth - 1
        else depth) rest

/-- A clause may end between `clause` and `rest`: no bracket is open and a stop fires. -/
def MayEnd (stops : List Char → List Char → Bool) (clause rest : List Char) : Prop :=
  openBehind none 0 clause = 0 ∧ stops clause.reverse rest = true

/-- The first place of a text, `before` and `depth` being given, where a clause may end. -/
structure FirstEnd (stops : List Char → List Char → Bool) (depth : Nat)
    (taken clause rest : List Char) : Prop where
  ends : rest = [] ∨
    openBehind taken.head? depth clause = 0 ∧ stops (clause.reverse ++ taken) rest = true
  first : ∀ front more, front ++ more = clause ++ rest → front.length < clause.length →
    openBehind taken.head? depth front = 0 → stops (front.reverse ++ taken) more = false

def isClauseStop (c : Char) : Bool := c == '{' || c == '=' || c == '\n'

theorem head?_of_endsReturnType {taken rest : List Char}
    (hEnds : endsReturnType taken rest = true) : rest.head?.any isClauseStop = true := hEnds

theorem head?_of_endsInheritance {taken rest : List Char}
    (hEnds : endsInheritance taken rest = true) : rest.head?.any isClauseStop = true := by
  cases rest with
  | nil => simp [endsInheritance] at hEnds
  | cons c rest =>
    simp only [endsInheritance, List.head?_cons, Bool.or_eq_true, Bool.and_eq_true, beq_iff_eq,
      Option.some.injEq] at hEnds
    rcases hEnds with rfl | ⟨⟨rfl, _⟩, _⟩ <;> rfl

section Read
variable {stops : List Char → List Char → Bool}

theorem FirstEnd.cons {c : Char} {depth deeper : Nat} {taken clause rest : List Char}
    (hDepth : openBehind taken.head? depth [c] = deeper)
    (hHere : depth = 0 → stops taken (c :: (clause ++ rest)) = false)
    (hEnd : FirstEnd stops deeper (c :: taken) clause rest) :
    FirstEnd stops depth taken (c :: clause) rest := by
  subst hDepth
  constructor
  · rcases hEnd.ends with hNil | ⟨hOpen, hStop⟩
    · exact .inl hNil
    · exact .inr ⟨hOpen, by simpa using hStop⟩
  · intro front more hText hLength hOpen
    cases front with
    | nil =>
      rw [List.nil_append] at hText
      rw [hText]
      exact hHere hOpen
    | cons d front =>
      rw [List.cons_append, List.cons_append] at hText
      obtain ⟨rfl, hBehind⟩ := List.cons.inj hText
      have hFalse := hEnd.first front more hBehind (Nat.lt_of_succ_lt_succ hLength) hOpen
      simpa using hFalse

/-- A clause is read up to the first place where it may end. -/
theorem exists_readClause
    (hStops : ∀ taken rest, stops taken rest = true → rest.head?.any isClauseStop = true)
    (depth : Nat) (taken text : List Char) :
    ∃ clause rest, text = clause ++ rest ∧
      readClause stops depth taken text = clause.reverse ++ taken ∧
      FirstEnd stops depth taken clause rest := by
  induction text generalizing depth taken with
  | nil =>
    refine ⟨[], [], rfl, rfl, .inl rfl, ?_⟩
    intro front more hText hLength
    exact absurd hLength (Nat.not_lt_zero _)
  | cons c text ih =>
    -- what is read behind `c`, if the clause does not end before it
    have hCons : ∀ deeper, openBehind taken.head? depth [c] = deeper →
        readClause stops depth taken (c :: text) = readClause stops deeper (c :: taken) text →
        (depth = 0 → stops taken (c :: text) = false) →
        ∃ clause rest, c :: text = clause ++ rest ∧
          readClause stops depth taken (c :: text) = clause.reverse ++ taken ∧
          FirstEnd stops depth taken clause rest := by
      intro deeper hDepth hRead hHere
      obtain ⟨clause, rest, rfl, hClause, hEnd⟩ := ih deeper (c :: taken)
      refine ⟨c :: clause, rest, rfl, ?_, hEnd.cons hDepth hHere⟩
      rw [hRead, hClause]
      simp
    have hBracket : isClauseStop c = false → depth = 0 → stops taken (c :: text) = false := by
      intro hC _
      by_contra hStop
      have hHead := hStops taken (c :: text) (by simpa using hStop)
      rw [List.head?_cons, Option.any_some, hC] at hHead
      cases hHead
    by_cases hOpening : (c == '(' || c == '<') = true
    · refine hCons (depth + 1) (by simp [openBehind, hOpening]) ?_ (hBracket ?_)
      · rw [readClause, if_pos hOpening]
      · unfold isClauseStop
        grind
    by_cases hClosing : (c == ')' || (c == '>' && taken.head? != some '-')) = true
    · refine hCons (depth - 1) (by simp [openBehind, hOpening, hClosing]) ?_ (hBracket ?_)
      · rw [readClause, if_neg hOpening, if_pos hClosing]
      · unfold isClauseStop
        grind
    by_cases hStop : (depth == 0 && stops taken (c :: text)) = true
    · refine ⟨[], c :: text, rfl, ?_, .inr ?_, ?_⟩
      · rw [readClause, if_neg hOpening, if_neg hClosing, if_pos hStop]
        rfl
      · rwa [Bool.and_eq_true, beq_iff_eq] at hStop
      · intro front more _ hLength
        exact absurd hLength (Nat.not_lt_zero _)
    · refine hCons depth (by simp [openBehind, hOpening, hClosing]) ?_ ?_
      · rw [readClause, if_neg hOpening, if_neg hClosing, if_neg hStop]
      · intro hDepth
        simpa [hDepth] using hStop

end Read

/-- The offsets of a clause behind a colon at `next`, up to its end. -/
def clauseSpan? (stops : List Char → List Char → Bool) (text : List Char) (next : Nat) :
    Option Span :=
  if text[next]? = some ':' then
    some ⟨next + 1, next + 1 + (readClause stops 0 [] (text.drop (next + 1))).length⟩
  else none

/-- A clause from `first` on may end somewhere before `last`. -/
def Stopped (stops : List Char → List Char → Bool) (text : List Char) (first last : Nat) : Prop :=
  ∃ pos, first ≤ pos ∧ pos < last ∧ MayEnd stops (slice text first pos) (text.drop pos)

def spanText (text : List Char) (span? : Option Span) : List Char :=
  (span?.map fun span => slice text span.first span.last).getD []

section Span
variable {stops : List Char → List Char → Bool} {text : List Char} {next last : Nat}

theorem spanText_clauseSpan?
    (hStops : ∀ taken rest, stops taken rest = true → rest.head?.any isClauseStop = true)
    (next : Nat) : spanText text (clauseSpan? stops text next) =
      if text[next]? = some ':' then (readClause stops 0 [] (text.drop (next + 1))).reverse
      else [] := by
  rw [clauseSpan?]
  split
  · next hColon =>
    obtain ⟨clause, rest, hText, hRead, _⟩ := exists_readClause hStops 0 [] (text.drop (next + 1))
    rw [hRead, List.append_nil, List.reverse_reverse, List.length_reverse]
    show slice text (next + 1) (next + 1 + clause.length) = clause
    rw [slice, hText, Nat.add_sub_cancel_left, List.take_left]
  · rfl

theorem first_of_clauseSpan? {clause : Span} (hClause : clauseSpan? stops text next = some clause) :
    text[next]? = some ':' ∧ clause.first = next + 1 ∧ clause.first ≤ clause.last := by
  rw [clauseSpan?] at hClause
  split at hClause
  · next hColon =>
    obtain rfl := Option.some.inj hClause
    exact ⟨hColon, rfl, Nat.le_add_right _ _⟩
  · cases hClause

/-- A clause ends before a brace exactly if it may end there: the brace is none of its stops. -/
theorem last_le_iff_stopped
    (hStops : ∀ taken rest, stops taken rest = true → rest.head?.any isClauseStop = true)
    {clause : Span} (hClause : clauseSpan? stops text next = some clause) (hNext : next < last)
    (hBrace : text[last]? = some '}') :
    clause.last ≤ last ↔ Stopped stops text clause.first last := by
  rw [clauseSpan?] at hClause
  split at hClause
  swap
  · cases hClause
  obtain rfl := Option.some.inj hClause
  have hLength := (List.getElem?_eq_some_iff.1 hBrace).1
  obtain ⟨written, rest, hText, hRead, hEnd⟩ := exists_readClause hStops 0 [] (text.drop (next + 1))
  rw [hRead, List.append_nil, List.length_reverse]
  show next + 1 + written.length ≤ last ↔ Stopped stops text (next + 1) last
  have hSlice : slice text (next + 1) (next + 1 + written.length) = written := by
    rw [slice, hText, Nat.add_sub_cancel_left, List.take_left]
  have hRest : rest = text.drop (next + 1 + written.length) := by
    rw [← List.drop_drop, hText, List.drop_left]
  constructor
  · intro hLast
    rcases hEnd.ends with hNil | ⟨hOpen, hStop⟩
    · have hDrop := congrArg List.length hRest
      rw [hNil, List.length_drop] at hDrop
      simp only [List.length_nil] at hDrop
      omega
    · refine ⟨next + 1 + written.length, Nat.le_add_right _ _, ?_, ?_⟩
      · -- the brace itself is no stop
        rcases Nat.eq_or_lt_of_le hLast with hSame | hLess
        · have hHead := hStops _ _ hStop
          rw [hRest, List.head?_drop, hSame, hBrace] at hHead
          cases hHead
        · exact hLess
      · rw [hSlice, ← hRest]
        exact ⟨hOpen, by simpa using hStop⟩
  · rintro ⟨pos, hFirst, hLast, hOpen, hStop⟩
    -- a clause that goes on over `pos` has an end before its first one
    by_contra hBehind
    have hTake : (slice text (next + 1) pos).length = pos - (next + 1) := by
      rw [slice, List.length_take, List.length_drop]
      omega
    have hFalse := hEnd.first (slice text (next + 1) pos) (text.drop pos) ?_ (by omega) hOpen
    · rw [List.append_nil, hStop] at hFalse
      cases hFalse
    · rw [← hText, slice, show text.drop pos = (text.drop (next + 1)).drop (pos - (next + 1)) by
        rw [List.drop_drop]; congr 1; omega, List.take_append_drop]

end Span

theorem exists_mem_partsFrom {c : Char} (hC : isBlank c = false) {current text : List Char}
    (hMem : c ∈ current ∨ c ∈ text) : ∃ part ∈ partsFrom current text, c ∈ part := by
  induction text generalizing current with
  | nil =>
    have hCurrent : c ∈ current := by simpa using hMem
    have hSome : current.isEmpty = false :=
      List.isEmpty_eq_false_iff.2 (List.ne_nil_of_mem hCurrent)
    exact ⟨current.reverse, by simp [partsFrom, hSome], by simpa using hCurrent⟩
  | cons d text ih =>
    rw [partsFrom]
    split
    · apply ih
      rcases hMem with hMem | hMem
      · exact .inl (List.mem_cons_of_mem _ hMem)
      · rcases List.mem_cons.1 hMem with rfl | hMem
        · exact .inl List.mem_cons_self
        · exact .inr hMem
    · next hBlank =>
      have hText : c ∈ d :: text → c ∈ text := by
        intro hMem
        rcases List.mem_cons.1 hMem with rfl | hMem
        · simp [hC] at hBlank
        · exact hMem
      split
      · next hEmpty =>
        rw [List.isEmpty_iff.1 hEmpty] at hMem
        rcases hMem with hMem | hMem
        · cases hMem
        · exact ih (.inr (hText hMem))
      · rcases hMem with hMem | hMem
        · exact ⟨_, List.mem_cons_self, by simpa using hMem⟩
        · obtain ⟨part, hPart, hMem⟩ := ih (.inr (hText hMem))
          exact ⟨part, List.mem_cons_of_mem _ hPart, hMem⟩

theorem mem_intercalate {c : Char} {sep part : List Char} {words : List (List Char)}
    (hPart : part ∈ words) (hC : c ∈ part) : c ∈ sep.intercalate words := by
  induction words with
  | nil => cases hPart
  | cons word words ih =>
    cases words with
    | nil => simpa [List.mem_singleton.1 hPart] using hC
    | cons other words =>
      rw [List.intercalate_cons_cons]
      rcases List.mem_cons.1 hPart with rfl | hPart
      · exact List.mem_append_left _ (List.mem_append_left _ hC)
      · exact List.mem_append_right _ (ih hPart)

/-- Squeezing blanks keeps every other character. -/
theorem mem_squeeze {c : Char} (hC : isBlank c = false) {text : List Char} (hMem : c ∈ text) :
    c ∈ squeeze text := by
  obtain ⟨part, hPart, hInPart⟩ := exists_mem_partsFrom hC (.inr hMem)
  exact mem_intercalate hPart hInPart

end SensorFlow.Kotlin
