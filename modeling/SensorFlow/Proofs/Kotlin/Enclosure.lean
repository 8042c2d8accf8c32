import SensorFlow.Proofs.Kotlin.Body
import SensorFlow.Proofs.Kotlin.Clause
import SensorFlow.Proofs.Kotlin.FunctionHeader
import SensorFlow.Proofs.Kotlin.Ownership

/-!
# Headers inside a block

Names, parameters and annotations of a header in a braced block are read before the brace that
closes the block, and so is a body. The brace does not end a return type or an inheritance clause,
nor a list in angle brackets: these go on to their own ends, wherever they are.
-/
namespace SensorFlow.Kotlin
open Text Source
set_option autoImplicit false

/-- What is left to read starts behind `low` and not behind the brace at `last`. -/
structure Inside (text : List Char) (low last : Nat) (rest : List Char) : Prop where
  closed : text[last]? = some '}'
  reached : ∃ pos, rest = text.drop pos ∧ low < pos ∧ pos ≤ last

/-- A list in angle brackets of the header from `first` to `stop` opens before `last` and closes
behind it. -/
def OpenAngle (text : List Char) (first stop last : Nat) : Prop :=
  ∃ opened closed, first ≤ opened ∧ opened < last ∧ last < closed ∧ closed < stop ∧
    text[opened]? = some '<' ∧ text[closed]? = some '>' ∧
    ∀ pos, opened < pos → pos < closed → text[pos]? ≠ some '>'

theorem OpenAngle.mono {text : List Char} {first stop next last : Nat} (hStop : stop ≤ next)
    (hOpen : OpenAngle text first stop last) : OpenAngle text first next last := by
  obtain ⟨opened, closed, hFirst, hBefore, hBehind, hClosed, hList⟩ := hOpen
  exact ⟨opened, closed, hFirst, hBefore, hBehind, by omega, hList⟩

namespace Inside
variable {text : List Char} {low last : Nat} {rest behind : List Char}

theorem append {piece : List Char} (hInside : Inside text low last (piece ++ rest))
    (hPiece : '}' ∉ piece) : Inside text low last rest := by
  obtain ⟨hClosed, pos, hRest, hLow, hPos⟩ := hInside
  refine ⟨hClosed, pos + piece.length, ?_, by omega, ?_⟩
  · rw [← List.drop_drop, ← hRest, List.drop_left]
  · by_contra hBehind
    have hAt : (piece ++ rest)[last - pos]? = some '}' := by
      rw [hRest, List.getElem?_drop, show pos + (last - pos) = last by omega]
      exact hClosed
    rw [List.getElem?_append_left (by omega)] at hAt
    exact hPiece (List.mem_of_getElem? hAt)

theorem offset (hInside : Inside text low last rest) :
    rest = text.drop (text.length - rest.length) ∧ low < text.length - rest.length ∧
      text.length - rest.length ≤ last := by
  obtain ⟨hClosed, pos, hRest, hLow, hPos⟩ := hInside
  have hLast := (List.getElem?_eq_some_iff.1 hClosed).1
  have hOffset : text.length - rest.length = pos := by
    rw [hRest, List.length_drop]
    omega
  rw [hOffset]
  exact ⟨hRest, hLow, hPos⟩

theorem cons_lt {c : Char} (hInside : Inside text low last (c :: rest)) (hC : c ≠ '}') :
    ∃ pos, text[pos]? = some c ∧ low < pos ∧ pos < last ∧ rest = text.drop (pos + 1) := by
  obtain ⟨hClosed, pos, hRest, hLow, hPos⟩ := hInside
  have hAt : text[pos]? = some c := by rw [← List.head?_drop, ← hRest, List.head?_cons]
  refine ⟨pos, hAt, hLow, ?_, ?_⟩
  · rcases Nat.eq_or_lt_of_le hPos with rfl | hLess
    · rw [hClosed] at hAt
      exact absurd (Option.some.inj hAt).symm hC
    · exact hLess
  · rw [← List.drop_drop, ← hRest, List.drop_one, List.tail_cons]

theorem dropWhile {p : Char → Bool} (hP : p '}' = false) (hInside : Inside text low last rest) :
    Inside text low last (rest.dropWhile p) := by
  rw [← List.takeWhile_append_dropWhile (p := p) (l := rest)] at hInside
  apply hInside.append
  intro hMem
  have hAll := List.all_eq_true.1 List.all_takeWhile _ hMem
  rw [hP] at hAll
  cases hAll

theorem of_after? {word : List Char} (hWord : '}' ∉ word) (hInside : Inside text low last rest)
    (hRead : after? word rest = some behind) : Inside text low last behind := by
  rw [(after?_eq_some_iff _ _ _).1 hRead] at hInside
  exact hInside.append hWord

theorem of_findSome? {words : List (List Char)} (hWords : ∀ word ∈ words, '}' ∉ word)
    (hInside : Inside text low last rest)
    (hRead : words.findSome? (after? · rest) = some behind) : Inside text low last behind := by
  obtain ⟨word, hWord, hAfter⟩ := List.exists_of_findSome?_eq_some hRead
  exact hInside.of_after? (hWords word hWord) hAfter

theorem of_readWord? {word : List Char} (hInside : Inside text low last rest)
    (hRead : readWord? rest = some (word, behind)) : Inside text low last behind := by
  obtain ⟨rfl, hRun, _⟩ := isRun_of_readWord? hRead
  apply hInside.append
  intro hMem
  exact absurd (hRun.isWord _ hMem) (by decide)

theorem of_readBlanks? (hInside : Inside text low last rest)
    (hRead : readBlanks? rest = some behind) : Inside text low last behind := by
  cases rest with
  | nil => cases hRead
  | cons c rest =>
    rw [readBlanks?] at hRead
    split at hRead
    · next hBlank =>
      obtain rfl := Option.some.inj hRead
      have hTail : Inside text low last ([c] ++ rest) := hInside
      refine (hTail.append ?_).dropWhile (by decide)
      intro hMem
      rw [← List.mem_singleton.1 hMem] at hBlank
      exact absurd hBlank (by decide)
    · cases hRead

theorem between {middle : List Char} (hInside : Inside text low last rest)
    (hBehind : Inside text low last behind) (hMiddle : middle <:+ rest)
    (hSuffix : behind <:+ middle) : Inside text low last middle := by
  obtain ⟨passed, rfl⟩ := hMiddle
  obtain ⟨hRest, hLow, _⟩ := hInside.offset
  obtain ⟨_, _, hLast⟩ := hBehind.offset
  have hLength := hSuffix.length_le
  refine ⟨hInside.closed, text.length - middle.length, ?_, ?_, by omega⟩
  · have hDrop := congrArg (List.drop passed.length) hRest
    rw [List.drop_left, List.drop_drop, List.length_append] at hDrop
    rw [List.length_append] at hLow
    rwa [show text.length - (passed.length + middle.length) + passed.length =
      text.length - middle.length by omega] at hDrop
  · rw [List.length_append] at hLow
    omega

/-- A list in angle brackets is closed before the brace, or open there. -/
theorem of_flatAngles {angles : List Char} (hAngles : FlatAngles angles)
    (hInside : Inside text low last (angles ++ rest)) :
    Inside text low last rest ∨
      OpenAngle text (low + 1) (text.length - rest.length) last := by
  rcases hAngles with rfl | ⟨types, rfl, hFlat⟩
  · exact .inl hInside
  · rw [List.cons_append, List.append_assoc] at hInside
    obtain ⟨pos, hAt, hLow, hPos, hDrop⟩ := hInside.cons_lt (by decide)
    have hClosing : text.drop (pos + 1 + types.length) = '>' :: rest := by
      rw [← List.drop_drop, ← hDrop, List.drop_left]
      rfl
    have hClosed : text[pos + 1 + types.length]? = some '>' := by
      rw [← List.head?_drop, hClosing, List.head?_cons]
    rcases Nat.lt_trichotomy (pos + 1 + types.length) last with hBefore | hSame | hBehind
    · refine .inl ⟨hInside.closed, pos + 1 + types.length + 1, ?_, by omega, hBefore⟩
      rw [← List.drop_drop, hClosing]
      rfl
    · rw [hSame, hInside.closed] at hClosed
      cases hClosed
    · have hLength := congrArg List.length hClosing
      rw [List.length_drop, List.length_cons] at hLength
      refine .inr ⟨pos, _, hLow, hPos, hBehind, by omega, hAt, hClosed, ?_⟩
      intro later hLater hEnd hAngle
      have hInTypes : (types ++ (['>'] ++ rest))[later - (pos + 1)]? = some '>' := by
        rw [hDrop, List.getElem?_drop, show pos + 1 + (later - (pos + 1)) = later by omega]
        exact hAngle
      rw [List.getElem?_append_left (by omega)] at hInTypes
      exact hFlat (List.mem_of_getElem? hInTypes)

theorem of_headerChars {piece : List Char} (hPiece : ∀ c ∈ piece, isHeaderChar c = true)
    (hInside : Inside text low last (piece ++ rest)) : Inside text low last rest := by
  apply hInside.append
  intro hMem
  exact absurd (hPiece _ hMem) (by decide)

theorem of_headerPieces {written : List Char} (hPieces : HeaderPieces written)
    (hInside : Inside text low last (written ++ rest)) :
    Inside text low last rest ∨
      OpenAngle text (low + 1) (text.length - rest.length) last := by
  obtain ⟨lead, first, middle, second, tail, rfl, hFirst, hSecond, hLead, hMiddle, hTail⟩ := hPieces
  simp only [List.append_assoc] at hInside
  rcases (hInside.of_headerChars hLead).of_flatAngles hFirst with hInside | hOpen
  · rcases (hInside.of_headerChars hMiddle).of_flatAngles hSecond with hInside | hOpen
    · exact .inl (hInside.of_headerChars hTail)
    · refine .inr (hOpen.mono ?_)
      rw [List.length_append]
      omega
  · refine .inr (hOpen.mono ?_)
    simp only [List.length_append]
    omega

theorem of_readFunction {before name : List Char} (hInside : Inside text low last rest)
    (hRead : readFunction before rest = some (name, behind)) :
    Inside text low last behind ∨
      OpenAngle text (low + 1) (text.length - behind.length) last := by
  obtain ⟨blank, written, rfl, hBlank, _, hPieces⟩ := pieces_of_readFunction hRead
  have hFun := hInside.append (by decide)
  have hSpace : Inside text low last ([blank] ++ (written ++ '(' :: behind)) := hFun
  have hWritten := hSpace.of_headerChars fun c hC =>
    isHeaderChar_of_isBlank (List.mem_singleton.1 hC ▸ hBlank)
  rcases hWritten.of_headerPieces hPieces with hParen | hOpen
  · have hParen : Inside text low last (['('] ++ behind) := hParen
    exact .inl (hParen.append (by decide))
  · refine .inr (hOpen.mono ?_)
    rw [List.length_cons]
    omega

theorem of_readDeclared {before name : List Char} (hInside : Inside text low last rest)
    (hRead : readDeclared before rest = some (name, behind)) : Inside text low last behind := by
  obtain ⟨word, blank, blanks, hWord, rfl, hBlanks, _, hRun⟩ := pieces_of_readDeclared hRead
  have hBlank : '}' ∉ blank :: blanks := by
    intro hMem
    exact absurd (hBlanks _ hMem) (by decide)
  have hNone : ∀ word ∈ declarationWords, '}' ∉ word := by decide
  have hBehind := hInside.append (hNone word hWord)
  rw [← List.cons_append] at hBehind
  apply (hBehind.append hBlank).append
  intro hMem
  exact absurd (hRun.isWord _ hMem) (by decide)

section Round
variable {block : Span}

theorem exists_round (hNested : Nested text) (hBlock : Braced text block)
    (hLow : block.first ≤ low) (hInside : Inside text low block.last ('(' :: rest)) :
    ∃ front behind, rest = front ++ ')' :: behind ∧ Inside text low block.last behind := by
  obtain ⟨pos, hOpen, hLowPos, hPos, rfl⟩ := hInside.cons_lt (by decide)
  have hClose := getElem?_of_closing? (hNested.closing?_eq closer?_round hOpen)
  have hLength := (List.getElem?_eq_some_iff.1 hClose).1
  have hLess := hBlock.exitFrom_lt hOpen closer?_round (by omega) hPos hLength
  have hBehind := le_exitFrom 0 (pos + 1) (text.drop (pos + 1))
  obtain ⟨front, hFront, _⟩ := drop_split text hBehind (Nat.le_of_lt hLength)
  rw [drop_eq_cons hClose] at hFront
  exact ⟨front, _, hFront, hInside.closed, _, rfl, by omega, hLess⟩

theorem of_readFlatArguments (hNested : Nested text) (hBlock : Braced text block)
    (hLow : block.first ≤ low) (hInside : Inside text low block.last rest) :
    Inside text low block.last (readFlatArguments rest) := by
  fun_cases readFlatArguments rest with
  | case1 inside more hClosing =>
    obtain ⟨front, behind, rfl, hBehind⟩ := hInside.exists_round hNested hBlock hLow
    have hSuffix : ')' :: behind <:+ ')' :: more := by
      rw [← hClosing, List.dropWhile_append]
      split
      · exact List.suffix_rfl
      · exact List.suffix_append _ _
    refine hInside.between hBehind ?_ ?_
    · have hRest : ')' :: more <:+ front ++ ')' :: behind := hClosing ▸ List.dropWhile_suffix _
      exact ((List.suffix_cons _ _).trans hRest).trans (List.suffix_cons _ _)
    · rcases List.suffix_cons_iff.1 hSuffix with hSame | hLater
      · exact (List.cons.inj hSame).2 ▸ List.suffix_rfl
      · exact (List.suffix_cons _ _).trans hLater
  | case2 => exact hInside
  | case3 => exact hInside

theorem of_readConstructorWord (hInside : Inside text low last rest)
    (hRead : readConstructorWord rest = some behind) : Inside text low last behind := by
  rw [readConstructorWord] at hRead
  obtain ⟨spaced, hWord, rfl⟩ := Option.map_eq_some_iff.1 hRead
  apply dropWhile (by decide)
  rcases Option.or_eq_some_iff.1 hWord with hWord | ⟨_, hWord⟩
  · refine of_after? (by decide) ?_ hWord
    cases hVisible : (visibilityWords.findSome? (after? · rest)).bind readBlanks? with
    | none => exact hInside
    | some visible =>
      obtain ⟨word, hFound, hBlanks⟩ := Option.bind_eq_some_iff.1 hVisible
      exact (hInside.of_findSome? (by decide) hFound).of_readBlanks? hBlanks
  · exact hInside.of_after? (by decide) hWord

theorem of_readRunOn {word : List Char} (hWord : IsRun word)
    (hInside : Inside text low last (word ++ rest))
    (hRead : readRunOn word rest = some behind) : Inside text low last behind := by
  rw [readRunOn] at hRead
  obtain ⟨n, _, hRead⟩ := List.exists_of_findSome?_eq_some hRead
  refine of_readConstructorWord ?_ hRead
  have hSplit : Inside text low last (word.take n ++ (word.drop n ++ rest)) := by
    rwa [← List.append_assoc, List.take_append_drop]
  apply hSplit.append
  intro hMem
  exact absurd (hWord.isWord _ (List.mem_of_mem_take hMem)) (by decide)

theorem of_readConstructorIntro (hNested : Nested text) (hBlock : Braced text block)
    (hLow : block.first ≤ low) {fuel : Nat} (hInside : Inside text low block.last rest)
    (hRead : readConstructorIntro fuel rest = some behind) : Inside text low block.last behind := by
  fun_induction readConstructorIntro fuel rest with
  | case1 => cases hRead
  | case2 fuel annotated hWord => cases hRead
  | case3 fuel annotated word more hWord ih =>
    have hSign : Inside text low block.last (['@'] ++ annotated) := hInside
    have hAnnotated := hSign.append (by decide)
    have hMore := hAnnotated.of_readWord? hWord
    rcases Option.or_eq_some_iff.1 hRead with hFurther | ⟨_, hRunOn⟩
    · exact ih ((hMore.of_readFlatArguments hNested hBlock hLow).dropWhile (by decide)) hFurther
    · obtain ⟨rfl, hRun, _⟩ := isRun_of_readWord? hWord
      exact hAnnotated.of_readRunOn hRun hRunOn
  | case4 fuel rest hPlain => exact hInside.of_readConstructorWord hRead

end Round
end Inside

theorem skipBlanks_le {text : List Char} {pos last : Nat} (hBrace : text[last]? = some '}')
    (hPos : pos ≤ last) : skipBlanks text pos ≤ last := by
  rw [skipBlanks]
  by_contra hBehind
  have hAt : ((text.drop pos).takeWhile isBlank ++ (text.drop pos).dropWhile isBlank)[last - pos]? =
      some '}' := by
    rw [List.takeWhile_append_dropWhile, List.getElem?_drop,
      show pos + (last - pos) = last by omega]
    exact hBrace
  rw [List.getElem?_append_left (by omega)] at hAt
  have hBlank := List.all_eq_true.1 List.all_takeWhile _ (List.mem_of_getElem? hAt)
  exact absurd hBlank (by decide)

/-- The clause and the body of a header lie before the brace at `last`. -/
def Before (last : Nat) (clause? body? : Option Span) : Prop :=
  (∀ clause, clause? = some clause → clause.last ≤ last) ∧
    ∀ body, body? = some body → body.last < last

/-- The clause and the body of a header lie behind the brace at `last`. -/
def Behind (last : Nat) (clause? body? : Option Span) : Prop :=
  (∀ clause, clause? = some clause → last < clause.first) ∧
    ∀ body, body? = some body → last < body.first

/-- A clause ends before the brace at `last`, and the body with it, exactly if one of its stops
fires before the brace. Otherwise it takes the brace in. -/
structure EndsByStop (stops : List Char → List Char → Bool) (text : List Char) (last : Nat)
    (clause? body? : Option Span) : Prop where
  before_iff : Before last clause? body? ↔
    ∀ clause, clause? = some clause → Stopped stops text clause.first last
  takes_brace : ∀ clause, clause? = some clause → ¬Stopped stops text clause.first last →
    clause.first ≤ last ∧ last < clause.last

section Header
variable {text : List Char} {block : Span}

theorem behind_of_next {stops : List Char → List Char → Bool} {next last : Nat}
    (hLast : last < next) {clause? body? : Option Span}
    (hClause : clause? = clauseSpan? stops text next)
    (hBody : ∀ body, body? = some body → next ≤ body.first) : Behind last clause? body? := by
  constructor
  · intro clause hSome
    rw [hClause] at hSome
    have hFirst := (first_of_clauseSpan? hSome).2.1
    omega
  · intro body hSome
    exact Nat.lt_of_lt_of_le hLast (hBody body hSome)

/-- Behind the parameters of a header in a block there are only the clause and the body. -/
theorem endsByStop_of_next {stops : List Char → List Char → Bool}
    (hStops : ∀ taken rest, stops taken rest = true → rest.head?.any isClauseStop = true)
    (hBlock : Braced text block) {next : Nat} (hFirst : block.first < next)
    (hNext : next ≤ block.last) {clause? body? : Option Span}
    (hClause : clause? = clauseSpan? stops text next)
    (hBody : ∀ body, body? = some body → (Braced text body ∨ Expressed text body) ∧
      next ≤ body.first ∧ body.first ≤ skipBlanks text ((clause?.map (·.last)).getD next)) :
    EndsByStop stops text block.last clause? body? := by
  have hEnds : ∀ clause, clause? = some clause → clause.first ≤ block.last ∧
      (clause.last ≤ block.last ↔ Stopped stops text clause.first block.last) := by
    intro clause hSome
    rw [hClause] at hSome
    obtain ⟨hColon, hStart, _⟩ := first_of_clauseSpan? hSome
    have hLess : next < block.last := by
      rcases Nat.eq_or_lt_of_le hNext with rfl | hLess
      · rw [hBlock.closed] at hColon
        cases hColon
      · exact hLess
    exact ⟨by omega, last_le_iff_stopped hStops hSome hLess hBlock.closed⟩
  refine ⟨⟨?_, ?_⟩, ?_⟩
  · rintro ⟨hBefore, _⟩ clause hSome
    exact (hEnds clause hSome).2.1 (hBefore clause hSome)
  · intro hStopped
    have hBefore : ∀ clause, clause? = some clause → clause.last ≤ block.last :=
      fun clause hSome => (hEnds clause hSome).2.2 (hStopped clause hSome)
    refine ⟨hBefore, ?_⟩
    intro body hSome
    obtain ⟨hKinds, hBehind, hBlanks⟩ := hBody body hSome
    have hLast : body.first ≤ block.last := by
      refine Nat.le_trans hBlanks (skipBlanks_le hBlock.closed ?_)
      cases hSpan : clause? with
      | none => exact hNext
      | some clause => exact hBefore clause hSpan
    refine hBlock.last_lt hKinds (by omega) ?_
    rcases Nat.eq_or_lt_of_le hLast with hSame | hLess
    · have hBrace := hBlock.closed
      rw [← hSame] at hBrace
      rcases hKinds with hBraced | hExpressed
      · rw [hBraced.opened] at hBrace
        cases hBrace
      · rw [hExpressed.signed] at hBrace
        cases hBrace
    · exact hLess
  · intro clause hSome hNot
    refine ⟨(hEnds clause hSome).1, ?_⟩
    exact Nat.lt_of_not_le fun hLe => hNot ((hEnds clause hSome).2.1 hLe)

/-- The header at `hit` is that of the function `f`. -/
def Headed (text : List Char) (hit : Hit (List Char)) (f : Function) : Prop :=
  hit ∈ findAll readFunction text ∧ function? text hit = some f

/-- The offsets of the return type behind the colon. -/
def returnSpan? (text : List Char) (hit : Hit (List Char)) : Option Span :=
  (closing? text (hit.stop - 1) '(' ')').bind fun close =>
    clauseSpan? endsReturnType text (skipBlanks text (close + 1))

/-- A function without a written return type has the type `Unit`. -/
def typeOf (clause : List Char) : List Char :=
  if (squeeze clause).isEmpty then "Unit".toList else squeeze clause

/-- What follows the parameters of a function, whose parenthesis closes at `close`. -/
structure ReturnPart (text : List Char) (hit : Hit (List Char)) (f : Function) (close : Nat) :
    Prop where
  start : f.start = hit.start
  params : closing? text (hit.stop - 1) '(' ')' = some close
  span : returnSpan? text hit = clauseSpan? endsReturnType text (skipBlanks text (close + 1))
  returnType : f.returnType = typeOf (spanText text (returnSpan? text hit))
  body : f.body? = functionBody? text (((returnSpan? text hit).map fun clause =>
    skipBlanks text clause.last).getD (skipBlanks text (close + 1)))

theorem exists_returnPart {hit : Hit (List Char)} {f : Function}
    (hRead : function? text hit = some f) : ∃ close, ReturnPart text hit f close := by
  rw [function?] at hRead
  obtain ⟨close, hClose, hRead⟩ := Option.bind_eq_some_iff.1 hRead
  have hSpan : returnSpan? text hit =
      clauseSpan? endsReturnType text (skipBlanks text (close + 1)) := by
    rw [returnSpan?, hClose, Option.bind_some]
  obtain rfl := Option.some.inj hRead
  refine ⟨close, rfl, hClose, hSpan, ?_, ?_⟩
  · rw [hSpan, spanText_clauseSpan? fun _ _ => head?_of_endsReturnType]
    rfl
  · rw [hSpan, clauseSpan?]
    split
    · simp
    · rfl

theorem ReturnPart.of_body (hNested : Nested text) {hit : Hit (List Char)} {f : Function}
    {close : Nat} (hPart : ReturnPart text hit f close) {body : Span}
    (hBody : f.body? = some body) : (Braced text body ∨ Expressed text body) ∧
      skipBlanks text (close + 1) ≤ body.first ∧ body.first ≤ skipBlanks text
        (((returnSpan? text hit).map (·.last)).getD (skipBlanks text (close + 1))) := by
  rw [hPart.body] at hBody
  obtain ⟨hPos, hKinds⟩ := kinds_of_functionBody? hNested hBody
  rw [hPos]
  refine ⟨hKinds, ?_⟩
  cases hSpan : returnSpan? text hit with
  | none => exact ⟨Nat.le_refl _, le_skipBlanks _ _⟩
  | some clause =>
    rw [hPart.span] at hSpan
    obtain ⟨_, hStart, hOrder⟩ := first_of_clauseSpan? hSpan
    have hEnd := le_skipBlanks text clause.last
    refine ⟨?_, Nat.le_refl _⟩
    show _ ≤ skipBlanks text clause.last
    omega

theorem exists_read_at_stop {α : Type} {read : Reader α} {hit : Hit α}
    (hHit : hit ∈ findAll read text)
    (hSuffix : ∀ before rest value behind, read before rest = some (value, behind) →
      behind <:+ rest) :
    ∃ before behind, read before (text.drop hit.start) = some (hit.value, behind) ∧
      hit.stop = text.length - behind.length := by
  obtain ⟨passed, rest, behind, hFound⟩ := exists_recognised_of_mem_findFrom hHit
  have hRest : text.drop hit.start = rest := by
    rw [hFound.start_eq, hFound.text_eq, Nat.zero_add, List.drop_left]
  have hLength := (hSuffix _ _ _ _ hFound.read_eq).length_le
  have hText := congrArg List.length hFound.text_eq
  rw [List.length_append] at hText
  refine ⟨_, behind, hRest ▸ hFound.read_eq, ?_⟩
  rw [hFound.stop_eq, hFound.start_eq]
  omega

theorem suffix_of_readFunction {before rest name behind : List Char}
    (hRead : readFunction before rest = some (name, behind)) : '(' :: behind <:+ rest := by
  obtain ⟨blank, written, rfl, _⟩ := pieces_of_readFunction hRead
  exact ⟨"fun".toList ++ blank :: written, by simp⟩

theorem exists_readFunction_at_stop {hit : Hit (List Char)}
    (hHit : hit ∈ findAll readFunction text) :
    ∃ before behind, readFunction before (text.drop hit.start) = some (hit.value, behind) ∧
      hit.stop = text.length - behind.length ∧ hit.start < hit.stop ∧
      text[hit.stop - 1]? = some '(' := by
  obtain ⟨before, behind, hRead, hStop⟩ := exists_read_at_stop hHit
    fun _ _ _ _ hRead => (List.suffix_cons _ _).trans (suffix_of_readFunction hRead)
  have hSuffix := suffix_of_readFunction hRead
  have hLonger := hSuffix.length_le
  rw [List.length_cons, List.length_drop] at hLonger
  refine ⟨before, behind, hRead, hStop, by omega, ?_⟩
  have hDrop := List.suffix_iff_eq_drop.1 (hSuffix.trans (List.drop_suffix _ _))
  rw [List.length_cons] at hDrop
  rw [← List.head?_drop, show hit.stop - 1 = text.length - (behind.length + 1) by omega, ← hDrop]
  rfl

/-- A header in a block is read up to its parenthesis before the brace of the block, unless one of
its own lists in angle brackets is open there. Behind the parenthesis the stops of the return type
count. -/
theorem Headed.in_block (hNested : Nested text) (hBlock : Braced text block)
    {hit : Hit (List Char)} {f : Function} (hHeaded : Headed text hit f)
    (hFirst : block.first < f.start) (hLast : f.start < block.last) :
    hit.stop ≤ block.last ∧
        EndsByStop endsReturnType text block.last (returnSpan? text hit) f.body? ∨
      block.last < hit.stop ∧ OpenAngle text hit.start hit.stop block.last ∧
        Behind block.last (returnSpan? text hit) f.body? := by
  obtain ⟨close, hPart⟩ := exists_returnPart hHeaded.2
  rw [hPart.start] at hFirst hLast
  obtain ⟨before, behind, hRead, hStop, hStart, hOpened⟩ := exists_readFunction_at_stop hHeaded.1
  have hAfter := le_of_closingFrom hPart.params
  have hBlanks := le_skipBlanks text (close + 1)
  by_cases hStays : hit.stop ≤ block.last
  · have hClose : close + 1 ≤ block.last := by
      have hClosed := getElem?_of_closing? hPart.params
      have hExit := hNested.closing?_eq closer?_round hOpened
      obtain rfl := Option.some.inj (hPart.params.symm.trans hExit)
      exact hBlock.exitFrom_lt hOpened closer?_round (by omega) (by omega)
        (List.getElem?_eq_some_iff.1 hClosed).1
    refine .inl ⟨hStays, ?_⟩
    exact endsByStop_of_next (fun _ _ => head?_of_endsReturnType) hBlock (by omega)
      (skipBlanks_le hBlock.closed hClose) hPart.span fun _ hBody => hPart.of_body hNested hBody
  · have hBehind : block.last ≠ hit.stop - 1 := by
      intro hSame
      have hBrace := hBlock.closed
      rw [hSame, hOpened] at hBrace
      cases hBrace
    refine .inr ⟨by omega, ?_, behind_of_next (by omega) hPart.span fun _ hBody =>
      (hPart.of_body hNested hBody).2.1⟩
    have hInside : Inside text (hit.start - 1) block.last (text.drop hit.start) :=
      ⟨hBlock.closed, hit.start, rfl, by omega, by omega⟩
    rcases hInside.of_readFunction hRead with hRest | hOpen
    · have hEnd := hRest.offset.2.2
      omega
    · rwa [Nat.sub_add_cancel (by omega), ← hStop] at hOpen

/-- The offset at which the list of type parameters of a declaration closes. -/
def typesEnd? (text : List Char) (hit : Hit (List Char)) : Option Nat :=
  (skipGroup? text (skipBlanks text hit.stop) '<' '>').bind (·.1)

/-- The offsets of the inheritance clause behind the colon. -/
def inheritanceSpan? (text : List Char) (hit : Hit (List Char)) : Option Span := do
  let (_, pos) ← skipGroup? text (skipBlanks text hit.stop) '<' '>'
  let (_, next) ← skipGroup? text ((constructorStart? text pos).getD pos) '(' ')'
  clauseSpan? endsInheritance text next

/-- The parts of a declaration behind its name: type parameters up to `pos`, the parenthesis of the
constructor at `opened`, the clause and the body from `next` on. -/
structure InheritancePart (text : List Char) (hit : Hit (List Char)) (e : Declaration)
    (pos opened next : Nat) : Prop where
  types : skipGroup? text (skipBlanks text hit.stop) '<' '>' = some (typesEnd? text hit, pos)
  intro : opened = (constructorStart? text pos).getD pos
  params : ∃ close, skipGroup? text opened '(' ')' = some (close, next)
  span : inheritanceSpan? text hit = clauseSpan? endsInheritance text next
  inheritance : e.inheritance = beforeWhere (squeeze (spanText text (inheritanceSpan? text hit)))
  body : e.body? = bracedBody? text (skipBlanks text
    (((inheritanceSpan? text hit).map (·.last)).getD next))

theorem exists_inheritancePart {hit : Hit (List Char)} {e : Declaration}
    (hRead : declaration? text hit = some e) :
    ∃ pos opened next, InheritancePart text hit e pos opened next := by
  rw [declaration?] at hRead
  obtain ⟨⟨angled, pos⟩, hAngled, hRead⟩ := Option.bind_eq_some_iff.1 hRead
  obtain ⟨⟨close, next⟩, hRound, hRead⟩ := Option.bind_eq_some_iff.1 hRead
  have hTypes : typesEnd? text hit = angled := by rw [typesEnd?, hAngled, Option.bind_some]
  have hSpan : inheritanceSpan? text hit = clauseSpan? endsInheritance text next := by
    simp [inheritanceSpan?, hAngled, hRound]
  obtain rfl := Option.some.inj hRead
  refine ⟨pos, _, next, by rw [hTypes, hAngled], rfl, ⟨close, hRound⟩, hSpan, ?_, ?_⟩
  · rw [hSpan, spanText_clauseSpan? fun _ _ => head?_of_endsInheritance]
  · rw [hSpan, clauseSpan?]
    split
    · simp
    · rfl

theorem suffix_of_readDeclared {before rest name behind : List Char}
    (hRead : readDeclared before rest = some (name, behind)) : behind <:+ rest := by
  obtain ⟨word, blank, blanks, _, rfl, _⟩ := pieces_of_readDeclared hRead
  exact ⟨word ++ blank :: (blanks ++ name), by simp⟩

theorem skipGroup?_eq_some {pos close next : Nat} {opening closing : Char}
    (hSkip : skipGroup? text pos opening closing = some (some close, next)) :
    text[pos]? = some opening ∧ closing? text pos opening closing = some close ∧
      next = skipBlanks text (close + 1) := by
  rw [skipGroup?] at hSkip
  split at hSkip
  · next hOpening =>
    obtain ⟨found, hFound, hPair⟩ := Option.map_eq_some_iff.1 hSkip
    obtain ⟨hClose, rfl⟩ := Prod.mk.inj hPair
    obtain rfl := Option.some.inj hClose
    exact ⟨hOpening, hFound, rfl⟩
  · cases (Prod.mk.inj (Option.some.inj hSkip)).1

theorem InheritancePart.le_next {hit : Hit (List Char)} {e : Declaration} {pos opened next : Nat}
    (hPart : InheritancePart text hit e pos opened next) : pos ≤ next := by
  obtain ⟨close?, hRound⟩ := hPart.params
  have hOpened : pos ≤ opened := by
    rw [hPart.intro]
    cases hStart : constructorStart? text pos with
    | none => exact Nat.le_refl _
    | some start => exact le_of_constructorStart? hStart
  exact Nat.le_trans hOpened (le_of_skipGroup? hRound)

/-- The constructor that is introduced in a block has its parameters in the block. -/
theorem InheritancePart.next_le (hNested : Nested text) (hBlock : Braced text block)
    {hit : Hit (List Char)} {e : Declaration} {pos opened next : Nat}
    (hPart : InheritancePart text hit e pos opened next) (hFirst : block.first < pos)
    (hLast : pos ≤ block.last) : block.first < next ∧ next ≤ block.last := by
  have hOpened : block.first < opened ∧ opened ≤ block.last := by
    rw [hPart.intro]
    cases hStart : constructorStart? text pos with
    | none => exact ⟨hFirst, hLast⟩
    | some start =>
      rw [constructorStart?] at hStart
      obtain ⟨params, hRead, hParams⟩ := Option.bind_eq_some_iff.1 hStart
      split at hParams
      · obtain rfl := Option.some.inj hParams
        have hInside : Inside text block.first block.last (text.drop pos) :=
          ⟨hBlock.closed, pos, rfl, hFirst, hLast⟩
        exact (hInside.of_readConstructorIntro hNested hBlock (Nat.le_refl _) hRead).offset.2
      · cases hParams
  obtain ⟨close?, hRound⟩ := hPart.params
  have hOrder := le_of_skipGroup? hRound
  refine ⟨by omega, ?_⟩
  cases close? with
  | none =>
    rcases skipGroup?_cases hRound with ⟨_, rfl⟩ | ⟨close, hSome, _⟩
    · exact hOpened.2
    · cases hSome
  | some close =>
    obtain ⟨hOpen, hClose, rfl⟩ := skipGroup?_eq_some hRound
    have hClosed := getElem?_of_closing? hClose
    have hExit := hNested.closing?_eq closer?_round hOpen
    obtain rfl := Option.some.inj (hClose.symm.trans hExit)
    have hLess : opened < block.last := by
      rcases Nat.eq_or_lt_of_le hOpened.2 with rfl | hLess
      · rw [hBlock.closed] at hOpen
        cases hOpen
      · exact hLess
    exact skipBlanks_le hBlock.closed (hBlock.exitFrom_lt hOpen closer?_round hOpened.1 hLess
      (List.getElem?_eq_some_iff.1 hClosed).1)

theorem InheritancePart.of_body (hNested : Nested text) {hit : Hit (List Char)} {e : Declaration}
    {pos opened next : Nat} (hPart : InheritancePart text hit e pos opened next) {body : Span}
    (hBody : e.body? = some body) : (Braced text body ∨ Expressed text body) ∧
      next ≤ body.first ∧ body.first ≤ skipBlanks text
        (((inheritanceSpan? text hit).map (·.last)).getD next) := by
  rw [hPart.body] at hBody
  obtain ⟨hPos, hBraced⟩ := braced_of_bracedBody? hNested hBody
  rw [hPos]
  refine ⟨.inl hBraced, Nat.le_trans ?_ (le_skipBlanks _ _), Nat.le_refl _⟩
  cases hSpan : inheritanceSpan? text hit with
  | none => exact Nat.le_refl _
  | some clause =>
    rw [hPart.span] at hSpan
    obtain ⟨_, hStart, hOrder⟩ := first_of_clauseSpan? hSpan
    show next ≤ clause.last
    omega

/-- A declaration in a block is read up to its clause before the brace of the block, unless its
type parameters are still open there. Then it is the stops of the clause that count. -/
theorem Located.in_block (hNested : Nested text) (hBlock : Braced text block)
    {hit : Hit (List Char)} {e : Declaration} (hLocated : Located text hit e)
    (hFirst : block.first < e.start) (hLast : e.start < block.last) :
    (∀ close, typesEnd? text hit = some close → close < block.last) ∧
        EndsByStop endsInheritance text block.last (inheritanceSpan? text hit) e.body? ∨
      (∃ close, typesEnd? text hit = some close ∧ block.last < close) ∧
        Behind block.last (inheritanceSpan? text hit) e.body? := by
  rw [hLocated.layout.start] at hFirst hLast
  obtain ⟨pos, opened, next, hPart⟩ := exists_inheritancePart hLocated.2.2
  obtain ⟨before, behind, hRead, hStop⟩ := exists_read_at_stop hLocated.1
    fun _ _ _ _ => suffix_of_readDeclared
  have hInside : Inside text block.first block.last (text.drop hit.start) :=
    ⟨hBlock.closed, hit.start, rfl, hFirst, Nat.le_of_lt hLast⟩
  obtain ⟨_, hLow, hHigh⟩ := (hInside.of_readDeclared hRead).offset
  rw [← hStop] at hLow hHigh
  have hNamed := le_skipBlanks text hit.stop
  have hNamedLast := skipBlanks_le hBlock.closed hHigh
  have hTypes := hPart.types
  -- everything behind a place in the block
  have hWithin : block.first < pos → pos ≤ block.last →
      EndsByStop endsInheritance text block.last (inheritanceSpan? text hit) e.body? := by
    intro hPos hPosLast
    obtain ⟨hNext, hNextLast⟩ := hPart.next_le hNested hBlock hPos hPosLast
    exact endsByStop_of_next (fun _ _ => head?_of_endsInheritance) hBlock hNext hNextLast hPart.span
      fun _ hBody => hPart.of_body hNested hBody
  cases hEnd : typesEnd? text hit with
  | none =>
    rw [hEnd] at hTypes
    rcases skipGroup?_cases hTypes with ⟨_, rfl⟩ | ⟨close, hSome, _⟩
    · refine .inl ⟨?_, hWithin (by omega) hNamedLast⟩
      intro close hSome
      cases hSome
    · cases hSome
  | some close =>
    rw [hEnd] at hTypes
    obtain ⟨_, hClose, rfl⟩ := skipGroup?_eq_some hTypes
    have hAfter := le_of_closingFrom hClose
    have hBlanks := le_skipBlanks text (close + 1)
    rcases Nat.lt_trichotomy close block.last with hLess | hSame | hMore
    · refine .inl ⟨?_, hWithin (by omega) (skipBlanks_le hBlock.closed hLess)⟩
      rintro _ ⟨⟩
      exact hLess
    · have hAngle := getElem?_of_closing? hClose
      rw [hSame, hBlock.closed] at hAngle
      cases hAngle
    · have hNext := hPart.le_next
      refine .inr ⟨⟨close, rfl, hMore⟩, behind_of_next (by omega) hPart.span ?_⟩
      intro body hBody
      exact (hPart.of_body hNested hBody).2.1

end Header

theorem brace_mem_returnType {text : List Char} {block : Span} (hBlock : Braced text block)
    {clause? : Option Span} {clause : Span} (hClause : clause? = some clause)
    (hTakes : clause.first ≤ block.last ∧ block.last < clause.last) :
    '}' ∈ typeOf (spanText text clause?) := by
  have hMem : '}' ∈ squeeze (spanText text clause?) := by
    apply mem_squeeze (by decide)
    rw [hClause]
    show '}' ∈ slice text clause.first clause.last
    have hAt : (slice text clause.first clause.last)[block.last - clause.first]? = some '}' := by
      rw [slice, List.getElem?_take_of_lt (by omega), List.getElem?_drop,
        show clause.first + (block.last - clause.first) = block.last by omega, hBlock.closed]
    exact List.mem_of_getElem? hAt
  have hSome : (squeeze (spanText text clause?)).isEmpty = false :=
    List.isEmpty_eq_false_iff.2 (List.ne_nil_of_mem hMem)
  rw [typeOf, hSome]
  exact hMem

/-- Where the clauses of a header in a block end. The brace that closes the block is none of their
stops: the return type or the inheritance clause, and the body behind it, lie before the brace
exactly if a stop fires before it, and else the clause takes the brace in. Nothing of a header
before these is read behind the brace, but for a list in angle brackets of the header itself that
is open there. -/
theorem clauses_in_block {source : List Char} (path : String) (hNested : Nested (mask source))
    {d : Declaration} (hD : d ∈ declarations (mask source)) {block : Span}
    (hBody : d.body? = some block) :
    (∀ hit f, Headed (mask source) hit f → block.first < f.start → f.start < block.last →
      (∀ owner, (methodOf (mask source) (functions (mask source)) owner f).returnType =
        String.ofList (typeOf (spanText (mask source) (returnSpan? (mask source) hit)))) ∧
      (hit.stop ≤ block.last ∧
          EndsByStop endsReturnType (mask source) block.last (returnSpan? (mask source) hit)
            f.body? ∧
          (∀ clause, returnSpan? (mask source) hit = some clause →
            ¬Stopped endsReturnType (mask source) clause.first block.last → '}' ∈ f.returnType) ∨
        block.last < hit.stop ∧ OpenAngle (mask source) hit.start hit.stop block.last ∧
          Behind block.last (returnSpan? (mask source) hit) f.body?)) ∧
    ∀ hit e, Located (mask source) hit e → block.first < e.start → e.start < block.last →
      (∀ parents, parents = inherited (beforeWhere (squeeze
          (spanText (mask source) (inheritanceSpan? (mask source) hit)))) →
        (classFor source path e).superClass = parents.1.map String.ofList ∧
        (classFor source path e).interfaces = parents.2.map String.ofList) ∧
      ((∀ close, typesEnd? (mask source) hit = some close → close < block.last) ∧
          EndsByStop endsInheritance (mask source) block.last
            (inheritanceSpan? (mask source) hit) e.body? ∨
        (∃ close, typesEnd? (mask source) hit = some close ∧ block.last < close) ∧
          Behind block.last (inheritanceSpan? (mask source) hit) e.body?) := by
  have hBlock : Braced (mask source) block := by
    obtain ⟨hit, _, hRead⟩ := List.mem_filterMap.1 hD
    obtain ⟨_, _, _, hPart⟩ := exists_inheritancePart hRead
    rw [hPart.body] at hBody
    exact (braced_of_bracedBody? hNested hBody).2
  constructor
  · intro hit f hHeaded hFirst hLast
    obtain ⟨close, hPart⟩ := exists_returnPart hHeaded.2
    constructor
    · intro owner
      rw [← hPart.returnType]
      rfl
    · rcases hHeaded.in_block hNested hBlock hFirst hLast with ⟨hStop, hEnds⟩ | hOpen
      · refine .inl ⟨hStop, hEnds, ?_⟩
        intro clause hSome hNot
        rw [hPart.returnType]
        exact brace_mem_returnType hBlock hSome (hEnds.takes_brace clause hSome hNot)
      · exact .inr hOpen
  · intro hit e hLocated hFirst hLast
    refine ⟨?_, hLocated.in_block hNested hBlock hFirst hLast⟩
    rintro _ rfl
    obtain ⟨_, _, _, hPart⟩ := exists_inheritancePart hLocated.2.2
    rw [← hPart.inheritance]
    exact ⟨rfl, rfl⟩

/-- A function of an interface whose return type goes on over a line. -/
def memberType : List Char :=
  "interface I \x7b\n fun <T> g(x: T): Map<T,\n  Int>\n\x7d".toList

theorem clauses_in_block_member : ∃ d block hit f clause,
    Nested (mask memberType) ∧ d ∈ declarations (mask memberType) ∧ d.body? = some block ∧
    Headed (mask memberType) hit f ∧ (block.first < f.start ∧ f.start < block.last) ∧
    returnSpan? (mask memberType) hit = some clause ∧
    Stopped endsReturnType (mask memberType) clause.first block.last ∧
    Before block.last (returnSpan? (mask memberType) hit) f.body? := by
  let d : Declaration := ⟨['I'], 0, 1, [], [], some ⟨12, 46⟩⟩
  let hit : Hit (List Char) := ⟨15, 25, ['g']⟩
  let f : Function := ⟨['g'], 15, 2, "x: T".toList, "Map<T, Int>".toList, none, []⟩
  have hNested : Nested (mask memberType) := by decide +kernel
  have hD : d ∈ declarations (mask memberType) := by decide +kernel
  have hHeaded : Headed (mask memberType) hit f := ⟨by decide +kernel, by decide +kernel⟩
  have hSpan : returnSpan? (mask memberType) hit = some ⟨31, 45⟩ := by decide +kernel
  have hStopped : Stopped endsReturnType (mask memberType) 31 46 :=
    ⟨45, by decide, by decide, by decide +kernel, by decide +kernel⟩
  refine ⟨d, ⟨12, 46⟩, hit, f, ⟨31, 45⟩, hNested, hD, rfl, hHeaded, ⟨by decide, by decide⟩, hSpan,
    hStopped, ?_⟩
  have hBody : d.body? = some ⟨12, 46⟩ := rfl
  rcases ((clauses_in_block "I.kt" hNested hD hBody).1 hit f hHeaded (by decide) (by decide)).2 with
    ⟨_, hEnds, _⟩ | ⟨_, _, hBehind⟩
  · apply hEnds.before_iff.2
    intro clause hClause
    obtain rfl := Option.some.inj (hSpan.symm.trans hClause)
    exact hStopped
  · exact absurd (hBehind.1 _ hSpan) (by decide)

/-- The return type of the only function of a one-line interface takes in its closing brace. -/
theorem one_line_return_type_takes_brace :
    (classes "interface I \x7b fun g(): Int \x7d\n".toList "I.kt").map
        (fun c => c.methods.map fun m => (m.name, m.returnType)) = [[("g", "Int \x7d")]] := by
  decide +kernel

end SensorFlow.Kotlin
