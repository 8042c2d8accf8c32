import SensorFlow.Kotlin.Function
import SensorFlow.Proofs.Kotlin.CallSite

/-!
# The pieces of a header

What the readers of a header recognise, as a text in pieces. A `fun` header has lists in angle
brackets up to their first closing bracket, and a name up to the parenthesis of the parameters.
-/
namespace SensorFlow.Kotlin
open Text
set_option autoImplicit false

theorem readFlatTypes_eq_some_iff {text rest : List Char} :
    readFlatTypes text = some rest ↔
      ∃ types, text = '<' :: (types ++ '>' :: rest) ∧ '>' ∉ types := by
  constructor
  · intro hRead
    unfold readFlatTypes at hRead
    split at hRead
    · next inside =>
      split at hRead
      · next more hTypes =>
        obtain rfl := Option.some.inj hRead
        have hSplit := (List.takeWhile_append_dropWhile (p := (· != '>')) (l := inside)).symm
        rw [hTypes] at hSplit
        refine ⟨inside.takeWhile (· != '>'), congrArg ('<' :: ·) hSplit, ?_⟩
        intro hMem
        simpa using List.all_eq_true.1 List.all_takeWhile _ hMem
      · cases hRead
    · cases hRead
  · rintro ⟨types, rfl, hTypes⟩
    have hDrop : (types ++ '>' :: rest).dropWhile (· != '>') = '>' :: rest := by
      refine dropWhile_eq ?_ rfl
      intro c hC
      rw [bne_iff_ne]
      rintro rfl
      exact hTypes hC
    simp [readFlatTypes, hDrop]

theorem readCalledName_eq_some_iff {text name rest : List Char} :
    readCalledName text = some (name, rest) ↔
      ∃ blanks, text = name ++ (blanks ++ '(' :: rest) ∧ IsRun name ∧
        ∀ c ∈ blanks, isBlank c = true := by
  constructor
  · intro hRead
    obtain ⟨⟨word, spaced⟩, hWord, hRead⟩ := Option.bind_eq_some_iff.1 hRead
    obtain ⟨params, hParams, hRead⟩ := Option.bind_eq_some_iff.1 hRead
    obtain ⟨rfl, rfl⟩ := Prod.mk.inj (Option.some.inj hRead)
    obtain ⟨rfl, hRun, _⟩ := isRun_of_readWord? hWord
    refine ⟨spaced.takeWhile isBlank, ?_, hRun, List.all_eq_true.1 List.all_takeWhile⟩
    have hSplit := (List.takeWhile_append_dropWhile (p := isBlank) (l := spaced)).symm
    rw [(after?_eq_some_iff _ _ _).1 hParams] at hSplit
    exact congrArg (word ++ ·) hSplit
  · rintro ⟨blanks, rfl, hRun, hBlanks⟩
    have hOpens : opensArguments '(' = true := rfl
    have hWord : readWord? (name ++ (blanks ++ '(' :: rest)) = _ :=
      readWord?_append hRun (head?_blanks hBlanks hOpens)
    have hDrop : (blanks ++ '(' :: rest).dropWhile isBlank = '(' :: rest :=
      dropWhile_eq hBlanks (kinds_of_opensArguments hOpens).1
    rw [readCalledName, hWord]
    simp [hDrop, after?]

/-- Characters of a header outside angle brackets. -/
def isHeaderChar (c : Char) : Bool := isWord c || isBlank c || c == '.' || c == '?'

/-- Nothing, or a list in angle brackets that ends with the first closing one. -/
def FlatAngles (angles : List Char) : Prop :=
  angles = [] ∨ ∃ types, angles = '<' :: (types ++ ['>']) ∧ '>' ∉ types

/-- `written` holds two lists in angle brackets at most, the second one behind the first. -/
def HeaderPieces (written : List Char) : Prop :=
  ∃ lead first middle second tail, written = lead ++ (first ++ (middle ++ (second ++ tail))) ∧
    FlatAngles first ∧ FlatAngles second ∧
    (∀ c ∈ lead, isHeaderChar c = true) ∧ (∀ c ∈ middle, isHeaderChar c = true) ∧
    ∀ c ∈ tail, isHeaderChar c = true

theorem isHeaderChar_of_isWord {c : Char} (hWord : isWord c = true) : isHeaderChar c = true := by
  simp [isHeaderChar, hWord]

theorem isHeaderChar_of_isBlank {c : Char} (hBlank : isBlank c = true) :
    isHeaderChar c = true := by
  simp [isHeaderChar, hBlank]

theorem exists_of_readCalledName {text name rest : List Char}
    (hRead : readCalledName text = some (name, rest)) :
    ∃ tail, text = tail ++ '(' :: rest ∧ ∀ c ∈ tail, isHeaderChar c = true := by
  obtain ⟨blanks, rfl, hRun, hBlanks⟩ := readCalledName_eq_some_iff.1 hRead
  refine ⟨name ++ blanks, by simp, ?_⟩
  intro c hC
  rcases List.mem_append.1 hC with hC | hC
  · exact isHeaderChar_of_isWord (hRun.isWord c hC)
  · exact isHeaderChar_of_isBlank (hBlanks c hC)

theorem exists_of_getD_readFlatTypes {text behind : List Char}
    (hRead : (readFlatTypes text).getD text = behind) :
    ∃ angles, text = angles ++ behind ∧ FlatAngles angles := by
  cases hTypes : readFlatTypes text with
  | none =>
    rw [hTypes, Option.getD_none] at hRead
    exact ⟨[], hRead, .inl rfl⟩
  | some more =>
    rw [hTypes, Option.getD_some] at hRead
    obtain ⟨types, rfl, hFlat⟩ := readFlatTypes_eq_some_iff.1 hTypes
    exact ⟨'<' :: (types ++ ['>']), by simp [hRead], .inr ⟨types, rfl, hFlat⟩⟩

/-- A receiver may be nullable before its dot. -/
theorem exists_of_after?_getD {text called : List Char}
    (hDot : after? ['.'] ((after? ['?'] text).getD text) = some called) :
    ∃ mark, text = mark ++ '.' :: called ∧ ∀ c ∈ mark, isHeaderChar c = true := by
  have hAfter := (after?_eq_some_iff _ _ _).1 hDot
  cases hMarked : after? ['?'] text with
  | none =>
    rw [hMarked] at hAfter
    exact ⟨[], hAfter, fun c hC => absurd hC List.not_mem_nil⟩
  | some unmarked =>
    rw [hMarked] at hAfter
    rw [(after?_eq_some_iff _ _ _).1 hMarked]
    refine ⟨['?'], congrArg ('?' :: ·) hAfter, ?_⟩
    intro c hC
    rw [List.mem_singleton.1 hC]
    rfl

theorem exists_of_readMember {dotted more name rest : List Char}
    (hMember : readMember dotted more = some (name, rest)) :
    ∃ front tail, dotted ++ more = front ++ (tail ++ '(' :: rest) ∧ (∀ c ∈ front, c ∈ dotted) ∧
      ∀ c ∈ tail, isHeaderChar c = true := by
  rw [readMember] at hMember
  split at hMember
  · obtain ⟨tail, hTail, hPlain⟩ := exists_of_readCalledName hMember
    -- the dotted name up to its last dot, and the name behind it
    obtain ⟨front, hFront⟩ : ∃ front, dotted = front ++
        (dotted.reverse.takeWhile (· != '.')).reverse := by
      refine ⟨(dotted.reverse.dropWhile (· != '.')).reverse, ?_⟩
      rw [← List.reverse_append, List.takeWhile_append_dropWhile, List.reverse_reverse]
    refine ⟨front, tail, ?_, ?_, hPlain⟩
    · rw [← hTail, ← List.append_assoc, ← hFront]
    · intro c hC
      rw [hFront]
      exact List.mem_append_left _ hC
  · cases hMember

theorem exists_of_readReceived {text name rest : List Char}
    (hRead : readReceived text = some (name, rest)) :
    ∃ dotted angles tail, text = dotted ++ (angles ++ (tail ++ '(' :: rest)) ∧ FlatAngles angles ∧
      (∀ c ∈ dotted, isHeaderChar c = true) ∧ ∀ c ∈ tail, isHeaderChar c = true := by
  rw [readReceived] at hRead
  obtain ⟨dotted, more, hSpan⟩ : ∃ dotted more,
      text.span (fun c => isWord c || c == '.') = (dotted, more) := ⟨_, _, rfl⟩
  rw [hSpan] at hRead
  obtain ⟨rfl, hDotted, _⟩ := span_eq_iff.1 hSpan
  have hLead : ∀ c ∈ dotted, isHeaderChar c = true := by
    intro c hC
    have hKind := hDotted c hC
    simp only [isHeaderChar, Bool.or_eq_true] at hKind ⊢
    rcases hKind with hWord | hDot
    · exact .inl (.inl (.inl hWord))
    · exact .inl (.inr hDot)
  rcases Option.or_eq_some_iff.1 hRead with hDirect | ⟨_, hMember⟩
  · split at hDirect
    · cases hDirect
    · obtain ⟨called, hDot, hCalled⟩ := Option.bind_eq_some_iff.1 hDirect
      obtain ⟨tail, rfl, hTail⟩ := exists_of_readCalledName hCalled
      obtain ⟨mark, hMark, hMarked⟩ := exists_of_after?_getD hDot
      obtain ⟨angles, rfl, hFlat⟩ := exists_of_getD_readFlatTypes hMark
      refine ⟨dotted, angles, mark ++ '.' :: tail, by simp, hFlat, hLead, ?_⟩
      intro c hC
      rcases List.mem_append.1 hC with hC | hC
      · exact hMarked c hC
      · rcases List.mem_cons.1 hC with rfl | hC
        · rfl
        · exact hTail c hC
  · obtain ⟨front, tail, hText, hFront, hTail⟩ := exists_of_readMember hMember
    exact ⟨front, [], tail, hText, .inl rfl, fun c hC => hLead c (hFront c hC), hTail⟩

/-- The list of type parameters behind `fun`, if there is one. -/
def skipGenerics (text : List Char) : Option (List Char) :=
  if text.head? == some '<' then (readFlatTypes text).map (·.dropWhile isBlank) else some text

theorem readFunction_eq_some_iff {before text : List Char} {header : List Char × List Char} :
    readFunction before text = some header ↔ atWordStart before = true ∧
      ∃ behind spaced headed, text = "fun".toList ++ behind ∧ readBlanks? behind = some spaced ∧
        skipGenerics spaced = some headed ∧
        (readReceived headed).or (readCalledName headed) = some header := by
  have hEq : readFunction before text = if atWordStart before then
      (after? "fun".toList text).bind fun behind => (readBlanks? behind).bind fun spaced =>
        (skipGenerics spaced).bind fun headed => (readReceived headed).or (readCalledName headed)
      else none := by
    cases hStart : atWordStart before with
    | false => simp [readFunction, hStart]
    | true =>
      simp only [readFunction, hStart, skipGenerics]
      cases after? "fun".toList text with
      | none => rfl
      | some behind =>
        cases hBlanks : readBlanks? behind with
        | none => simp [hBlanks]
        | some spaced =>
          by_cases hTyped : spaced.head? = some '<' <;> simp [hBlanks, hTyped]
  rw [hEq]
  constructor
  · intro hRead
    split at hRead
    · next hStart =>
      obtain ⟨behind, hFun, hRead⟩ := Option.bind_eq_some_iff.1 hRead
      obtain ⟨spaced, hBlanks, hRead⟩ := Option.bind_eq_some_iff.1 hRead
      obtain ⟨headed, hTyped, hRead⟩ := Option.bind_eq_some_iff.1 hRead
      exact ⟨hStart, behind, spaced, headed, (after?_eq_some_iff _ _ _).1 hFun, hBlanks, hTyped,
        hRead⟩
    · cases hRead
  · rintro ⟨hStart, behind, spaced, headed, hText, hBlanks, hTyped, hRead⟩
    rw [if_pos hStart, (after?_eq_some_iff _ _ _).2 hText, Option.bind_some, hBlanks,
      Option.bind_some, hTyped, Option.bind_some, hRead]

/-- What is read of a function header: the word `fun` and a blank, then the pieces up to the
parenthesis of the parameters. -/
theorem pieces_of_readFunction {before text name rest : List Char}
    (hRead : readFunction before text = some (name, rest)) :
    ∃ blank written, text = "fun".toList ++ blank :: (written ++ '(' :: rest) ∧
      isBlank blank = true ∧ atWordStart before = true ∧ HeaderPieces written := by
  obtain ⟨hStart, behind, spaced, headed, rfl, hBlanks, hTyped, hHeaded⟩ :=
    readFunction_eq_some_iff.1 hRead
  obtain ⟨blank, lead, rfl, hBlank, hLead, _⟩ := readBlanks?_eq_some_iff.1 hBlanks
  have hGeneric : ∃ angles blanks, spaced = angles ++ (blanks ++ headed) ∧ FlatAngles angles ∧
      ∀ c ∈ blanks, isBlank c = true := by
    rw [skipGenerics] at hTyped
    split at hTyped
    · obtain ⟨typed, hTypes, rfl⟩ := Option.map_eq_some_iff.1 hTyped
      obtain ⟨types, rfl, hFlat⟩ := readFlatTypes_eq_some_iff.1 hTypes
      refine ⟨'<' :: (types ++ ['>']), typed.takeWhile isBlank, ?_, .inr ⟨types, rfl, hFlat⟩,
        List.all_eq_true.1 List.all_takeWhile⟩
      simp [List.takeWhile_append_dropWhile]
    · obtain rfl := Option.some.inj hTyped
      exact ⟨[], [], rfl, .inl rfl, fun c hC => absurd hC List.not_mem_nil⟩
  obtain ⟨angles, blanks, rfl, hAngles, hSpace⟩ := hGeneric
  have hNamed : ∃ dotted received tail, headed = dotted ++ (received ++ (tail ++ '(' :: rest)) ∧
      FlatAngles received ∧ (∀ c ∈ dotted, isHeaderChar c = true) ∧
      ∀ c ∈ tail, isHeaderChar c = true := by
    rcases Option.or_eq_some_iff.1 hHeaded with hReceived | ⟨_, hCalled⟩
    · exact exists_of_readReceived hReceived
    · obtain ⟨tail, hTail, hPlain⟩ := exists_of_readCalledName hCalled
      exact ⟨[], [], tail, hTail, .inl rfl, fun c hC => absurd hC List.not_mem_nil, hPlain⟩
  obtain ⟨dotted, received, tail, rfl, hReceived, hDotted, hTail⟩ := hNamed
  refine ⟨blank, lead ++ (angles ++ (blanks ++ dotted ++ (received ++ tail))), by simp, hBlank,
    hStart, lead, angles, blanks ++ dotted, received, tail, rfl, hAngles, hReceived,
    fun c hC => isHeaderChar_of_isBlank (hLead c hC), ?_, hTail⟩
  intro c hC
  rcases List.mem_append.1 hC with hC | hC
  · exact isHeaderChar_of_isBlank (hSpace c hC)
  · exact hDotted c hC

/-- What is read of a declaration: a declaring word, blanks on the same line and a name. -/
theorem pieces_of_readDeclared {before text name rest : List Char}
    (hRead : readDeclared before text = some (name, rest)) :
    ∃ word blank blanks, word ∈ declarationWords ∧
      text = word ++ blank :: (blanks ++ (name ++ rest)) ∧
      (∀ c ∈ blank :: blanks, c = ' ' ∨ c = '\t') ∧ atWordStart before = true ∧ IsRun name := by
  rw [readDeclared] at hRead
  split at hRead
  · cases hRead
  · next hBefore =>
    have hStart : atWordStart before = true := by
      rw [Bool.or_eq_true, Bool.not_eq_true', not_or, Bool.not_eq_false] at hBefore
      exact hBefore.2
    obtain ⟨spaced, hWord, hNamed⟩ := Option.bind_eq_some_iff.1 hRead
    obtain ⟨word, hMem, hAfter⟩ := List.exists_of_findSome?_eq_some hWord
    rw [(after?_eq_some_iff _ _ _).1 hAfter]
    split at hNamed
    · next blank more =>
      split at hNamed
      · next hBlank =>
        obtain ⟨hName, hRun, _⟩ := isRun_of_readWord? hNamed
        rw [List.dropWhile_cons_of_pos (by simpa using hBlank)] at hName
        refine ⟨word, blank, more.takeWhile fun c => c == ' ' || c == '\t', hMem, ?_, ?_, hStart,
          hRun⟩
        · rw [← hName, List.takeWhile_append_dropWhile]
        · intro c hC
          rcases List.mem_cons.1 hC with rfl | hC
          · simpa using hBlank
          · simpa using List.all_eq_true.1 List.all_takeWhile _ hC
      · cases hNamed
    · cases hNamed

end SensorFlow.Kotlin
