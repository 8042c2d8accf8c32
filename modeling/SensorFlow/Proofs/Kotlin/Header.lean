import SensorFlow.Kotlin.Declaration
import SensorFlow.Proofs.Text.Scan

/-!
# The parts of a header

A header is read from left to right: the declared name, the parameters of the constructor and the
body follow each other without overlap.
-/
namespace SensorFlow.Kotlin
open Text Source
set_option autoImplicit false

theorem suffix_of_readConstructorWord {text rest : List Char}
    (hRead : readConstructorWord text = some rest) : rest <:+ text := by
  rw [readConstructorWord] at hRead
  obtain ⟨behind, hWord, rfl⟩ := Option.map_eq_some_iff.1 hRead
  refine (List.dropWhile_suffix _).trans ?_
  rcases Option.or_eq_some_iff.1 hWord with hWord | ⟨_, hWord⟩
  · refine (suffix_of_after? hWord).trans ?_
    cases hVisible : (visibilityWords.findSome? (after? · text)).bind readBlanks? with
    | none => exact List.suffix_rfl
    | some visible =>
      obtain ⟨word, hFound, hBlanks⟩ := Option.bind_eq_some_iff.1 hVisible
      exact (suffix_of_readBlanks? hBlanks).trans (suffix_of_findSome?_after? hFound)
  · exact suffix_of_after? hWord

theorem readFlatArguments_suffix (text : List Char) : readFlatArguments text <:+ text := by
  fun_cases readFlatArguments text with
  | case1 inside rest hClosing =>
    have hRest : ')' :: rest <:+ inside := hClosing ▸ List.dropWhile_suffix _
    exact ((List.suffix_cons _ _).trans hRest).trans (List.suffix_cons _ _)
  | case2 => exact List.suffix_rfl
  | case3 => exact List.suffix_rfl

theorem suffix_of_readRunOn {word rest behind : List Char}
    (hRead : readRunOn word rest = some behind) : behind <:+ word ++ rest := by
  rw [readRunOn] at hRead
  obtain ⟨n, _, hWord⟩ := List.exists_of_findSome?_eq_some hRead
  exact (suffix_of_readConstructorWord hWord).trans
    ⟨word.take n, by rw [← List.append_assoc, List.take_append_drop]⟩

theorem suffix_of_readConstructorIntro {fuel : Nat} {text rest : List Char}
    (hRead : readConstructorIntro fuel text = some rest) : rest <:+ text := by
  fun_induction readConstructorIntro fuel text with
  | case1 => cases hRead
  | case2 fuel annotated hWord => cases hRead
  | case3 fuel annotated word behind hWord ih =>
    have hAnnotated : annotated <:+ '@' :: annotated := List.suffix_cons _ _
    have hAppend := append_of_readWord? hWord
    refine List.IsSuffix.trans ?_ hAnnotated
    rw [hAppend]
    rcases Option.or_eq_some_iff.1 hRead with hMore | ⟨_, hRunOn⟩
    · exact ((ih hMore).trans ((List.dropWhile_suffix _).trans (readFlatArguments_suffix _))).trans
        (List.suffix_append _ _)
    · exact suffix_of_readRunOn hRunOn
  | case4 fuel text hPlain => exact suffix_of_readConstructorWord hRead

theorem le_of_constructorStart? {text : List Char} {pos start : Nat}
    (hStart : constructorStart? text pos = some start) : pos ≤ start := by
  rw [constructorStart?] at hStart
  obtain ⟨params, hRead, hParams⟩ := Option.bind_eq_some_iff.1 hStart
  split at hParams
  · next hHead =>
    obtain rfl := Option.some.inj hParams
    have hLength := (suffix_of_readConstructorIntro hRead).length_le
    rw [List.length_drop] at hLength
    have hSome : 0 < params.length := by
      cases params with
      | nil => simp at hHead
      | cons c cs => simp
    omega
  · cases hParams

theorem le_of_closingFrom {opening closing : Char} {before : Option Char} {depth : Int}
    {pos close : Nat} {text : List Char}
    (hClose : closingFrom opening closing before depth pos text = some close) : pos ≤ close := by
  fun_induction closingFrom opening closing before depth pos text with
  | case1 => cases hClose
  | case2 before depth pos rest ih => exact Nat.le_of_succ_le (ih hClose)
  | case3 before pos c rest hOpening hClosing => exact Nat.le_of_eq (Option.some.inj hClose)
  | case4 before depth pos c rest hOpening hClosing hDepth ih => exact Nat.le_of_succ_le (ih hClose)
  | case5 before depth pos c rest hOpening hClosing ih => exact Nat.le_of_succ_le (ih hClose)

theorem skipGroup?_cases {text : List Char} {pos next : Nat} {opening closing : Char}
    {close? : Option Nat} (hSkip : skipGroup? text pos opening closing = some (close?, next)) :
    close? = none ∧ next = pos ∨ ∃ close, close? = some close ∧ pos ≤ close ∧ close < next := by
  rw [skipGroup?] at hSkip
  split at hSkip
  · obtain ⟨close, hClose, hPair⟩ := Option.map_eq_some_iff.1 hSkip
    obtain ⟨rfl, rfl⟩ := Prod.mk.inj hPair
    exact .inr ⟨close, rfl, le_of_closingFrom hClose, le_skipBlanks text (close + 1)⟩
  · obtain ⟨rfl, rfl⟩ := Prod.mk.inj (Option.some.inj hSkip)
    exact .inl ⟨rfl, rfl⟩

theorem bracedBody?_eq_some {text : List Char} {pos : Nat} {body : Span}
    (hBody : bracedBody? text pos = some body) : body.first = pos ∧ body.first ≤ body.last := by
  rw [bracedBody?] at hBody
  split at hBody
  · next hOpen =>
    obtain rfl := Option.some.inj hBody
    refine ⟨rfl, ?_⟩
    have hPos : pos < text.length := (List.getElem?_eq_some_iff.1 hOpen).1
    cases hClose : closing? text pos '{' '}' with
    | none =>
      show pos ≤ text.length - 1
      omega
    | some close => exact le_of_closingFrom hClose
  · cases hBody

/-- The offsets of the parentheses around the parameters of a constructor. -/
def constructorSpan? (text : List Char) (hit : Hit (List Char)) : Option Span := do
  let (_, pos) ← skipGroup? text (skipBlanks text hit.stop) '<' '>'
  let pos := (constructorStart? text pos).getD pos
  let (close, _) ← skipGroup? text pos '(' ')'
  close.map (⟨pos, ·⟩)

/-- The parts of a declaration in the order of the text. -/
structure Layout (text : List Char) (hit : Hit (List Char)) (d : Declaration) : Prop where
  start : d.start = hit.start
  params : d.constructorParams =
    ((constructorSpan? text hit).map fun span => slice text (span.first + 1) span.last).getD []
  span : ∀ span, constructorSpan? text hit = some span → d.start ≤ span.first ∧ span.first ≤ span.last
  body : ∀ body, d.body? = some body → d.start ≤ body.first ∧ body.first ≤ body.last
  span_before_body : ∀ span body, constructorSpan? text hit = some span → d.body? = some body →
    span.last < body.first

theorem le_of_skipGroup? {text : List Char} {pos next : Nat} {opening closing : Char}
    {close? : Option Nat} (hSkip : skipGroup? text pos opening closing = some (close?, next)) :
    pos ≤ next := by
  rcases skipGroup?_cases hSkip with ⟨_, rfl⟩ | ⟨close, _, hPos, hNext⟩
  · exact Nat.le_refl _
  · omega

theorem layout_of_declaration? {text : List Char} {hit : Hit (List Char)} {d : Declaration}
    (hHit : hit.start ≤ hit.stop) (hRead : declaration? text hit = some d) : Layout text hit d := by
  rw [declaration?] at hRead
  obtain ⟨⟨angled, pos⟩, hAngled, hRead⟩ := Option.bind_eq_some_iff.1 hRead
  obtain ⟨⟨close?, next⟩, hRound, hRead⟩ := Option.bind_eq_some_iff.1 hRead
  have hFields := Option.some.inj hRead
  have hSpan : constructorSpan? text hit =
      close?.map (⟨(constructorStart? text pos).getD pos, ·⟩) := by
    simp [constructorSpan?, hAngled, hRound]
  have hName : hit.start ≤ pos := by
    have hBlanks := le_skipBlanks text hit.stop
    have hAngles := le_of_skipGroup? hAngled
    omega
  have hOpen : pos ≤ (constructorStart? text pos).getD pos := by
    cases hStart : constructorStart? text pos with
    | none => exact Nat.le_refl _
    | some start => exact le_of_constructorStart? hStart
  have hRounds := le_of_skipGroup? hRound
  have hBody : ∀ body, d.body? = some body → next ≤ body.first ∧ body.first ≤ body.last := by
    subst hFields
    intro body hSome
    obtain ⟨hFirst, hLast⟩ := bracedBody?_eq_some hSome
    refine ⟨?_, hLast⟩
    rw [hFirst]
    refine Nat.le_trans ?_ (le_skipBlanks text _)
    split <;> omega
  subst hFields
  refine ⟨rfl, ?_, ?_, ?_, ?_⟩
  · rw [hSpan]
    cases close? <;> rfl
  · intro span hSome
    rw [hSpan] at hSome
    obtain ⟨close, rfl, rfl⟩ := Option.map_eq_some_iff.1 hSome
    rcases skipGroup?_cases hRound with ⟨hNone, _⟩ | ⟨_, hClose, hFirst, _⟩
    · cases hNone
    · obtain rfl := Option.some.inj hClose
      exact ⟨Nat.le_trans hName hOpen, hFirst⟩
  · intro body hSome
    obtain ⟨hFirst, hLast⟩ := hBody body hSome
    refine ⟨?_, hLast⟩
    show hit.start ≤ body.first
    omega
  · intro span body hSome hBraces
    rw [hSpan] at hSome
    obtain ⟨close, rfl, rfl⟩ := Option.map_eq_some_iff.1 hSome
    rcases skipGroup?_cases hRound with ⟨hNone, _⟩ | ⟨_, hClose, _, hNext⟩
    · cases hNone
    · obtain rfl := Option.some.inj hClose
      exact Nat.lt_of_lt_of_le hNext (hBody body hBraces).1

end SensorFlow.Kotlin
