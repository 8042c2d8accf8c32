import Mathlib.Data.List.TakeWhile
import SensorFlow.Proofs.Kotlin.Quiet
import SensorFlow.Proofs.Source.Nesting

/-!
# Headers of generic functions

A function may have type parameters and a receiver with type arguments. The lists in angle brackets
may be nested to any depth, but a header ends each of them with its first closing bracket: it is
read exactly if neither list has another one inside.
-/
namespace SensorFlow.Kotlin
open Text Source
set_option autoImplicit false

/-- An identifier that does not start with a small letter. -/
structure TypeName where
  text : List Char
  run : IsRun text
  capital : capitalised true text = true

def isListChar (c : Char) : Bool :=
  isWord c || c == '.' || c == ',' || c == ':' || c == '?' || c == ' ' || c == '<' || c == '>'

/-- What may stand between angle brackets. -/
structure TypeList where
  text : List Char
  chars : text.all isListChar = true
  capital : capitalised true text = true
  nested : balanced '<' '>' 0 text = true

/-- Whether a list has no other list inside. -/
def TypeList.flat (types : TypeList) : Bool := !types.text.contains '<'

/-- A sign that opens no literal and no comment. -/
def isCodeChar (c : Char) : Bool := c != '"' && c != '\'' && c != '/'

/-- A name and a type, which is any text in code with nested parentheses and without a header. -/
structure TypedParameter where
  name : List Char
  run : IsRun name
  type : List Char
  nested : balanced '(' ')' 0 type = true
  headless : headless true type = true
  code : type.all isCodeChar = true

structure GenericFunction where
  owner : TypeName
  generics? : Option TypeList
  receiver? : Option (TypeName × TypeList)
  name : List Char
  run : IsRun name
  params : List TypedParameter

namespace GenericFunction

def genericPart : Option TypeList → List Char
  | none => []
  | some types => '<' :: (types.text ++ ['>', ' '])

def receiverPart : Option (TypeName × TypeList) → List Char
  | none => []
  | some (name, types) => name.text ++ '<' :: (types.text ++ ['>', '.'])

def header (g : GenericFunction) : List Char :=
  genericPart g.generics? ++ (receiverPart g.receiver? ++ g.name)

def paramsText (params : List TypedParameter) : List Char :=
  [',', ' '].intercalate (params.map fun p => p.name ++ ':' :: ' ' :: p.type)

/-- The text of the class with its only function. -/
def source (g : GenericFunction) : List Char :=
  "class ".toList ++ g.owner.text ++ " \x7b fun ".toList ++ g.header ++ "(".toList ++
    paramsText g.params ++ ") \x7b\x7d \x7d".toList

/-- Whether no list in angle brackets has another one inside. -/
def flat (g : GenericFunction) : Bool :=
  g.generics?.all (·.flat) && g.receiver?.all (·.2.flat)

end GenericFunction

section Signs

/-- The angle brackets of a text. -/
def angleSigns (text : List Char) : List Char := text.filter fun c => c == '<' || c == '>'

theorem angleSigns_append (text rest : List Char) :
    angleSigns (text ++ rest) = angleSigns text ++ angleSigns rest := List.filter_append ..

theorem angleSigns_eq_nil_iff {text : List Char} :
    angleSigns text = [] ↔ '<' ∉ text ∧ '>' ∉ text := by
  rw [angleSigns, List.filter_eq_nil_iff]
  constructor
  · intro hNone
    exact ⟨fun hMem => hNone _ hMem rfl, fun hMem => hNone _ hMem rfl⟩
  · rintro ⟨hOpen, hClose⟩ c hC
    simp only [Bool.or_eq_true, beq_iff_eq, not_or]
    exact ⟨fun hEq => hOpen (hEq ▸ hC), fun hEq => hClose (hEq ▸ hC)⟩

theorem angleSigns_of_headerChars {text : List Char}
    (hText : ∀ c ∈ text, isHeaderChar c = true) : angleSigns text = [] := by
  rw [angleSigns_eq_nil_iff]
  constructor
  · intro hMem
    exact absurd (hText _ hMem) (by decide)
  · intro hMem
    exact absurd (hText _ hMem) (by decide)

theorem angleSigns_of_isRun {text : List Char} (hRun : IsRun text) : angleSigns text = [] :=
  angleSigns_of_headerChars fun c hC => isHeaderChar_of_isWord (hRun.isWord c hC)

theorem head?_angleSigns {text : List Char} (hText : balanced '<' '>' 0 text = true) :
    (angleSigns text).head? ≠ some '>' := by
  intro hHead
  obtain ⟨more, hSigns⟩ := List.head?_eq_some_iff.1 hHead
  obtain ⟨front, rest, rfl, hFront, _⟩ := List.filter_eq_cons_iff.1 hSigns
  have hPlain : angleSigns front = [] := List.filter_eq_nil_iff.2 hFront
  obtain ⟨hOpen, hClose⟩ := angleSigns_eq_nil_iff.1 hPlain
  have hBehind := balanced_append (balanced_of_plain hOpen hClose) 0 ('>' :: rest)
  rw [Nat.add_zero, hText] at hBehind
  cases hBehind

/-- A list up to its first closing bracket has as many brackets of both kinds only if it is flat. -/
theorem angleSigns_of_flatAngles {angles : List Char} (hAngles : FlatAngles angles) :
    angles.count '>' ≤ angles.count '<' ∧ (angles.count '<' = angles.count '>' →
      angleSigns angles = [] ∨ angleSigns angles = ['<', '>']) := by
  rcases hAngles with rfl | ⟨types, rfl, hTypes⟩
  · exact ⟨Nat.le_refl _, fun _ => .inl rfl⟩
  · have hNone : types.count '>' = 0 := List.count_eq_zero.2 hTypes
    have hClose : ('<' :: (types ++ ['>'])).count '>' = 1 := by simp [hNone]
    have hOpen : ('<' :: (types ++ ['>'])).count '<' = types.count '<' + 1 := by simp
    rw [hClose, hOpen]
    refine ⟨by omega, ?_⟩
    intro hSame
    have hFlat : '<' ∉ types := List.count_eq_zero.1 (by omega)
    have hSigns := angleSigns_eq_nil_iff.2 ⟨hFlat, hTypes⟩
    refine .inr ?_
    rw [← List.singleton_append, angleSigns_append, angleSigns_append, hSigns]
    rfl

theorem count_angles_of_headerChars {text : List Char}
    (hText : ∀ c ∈ text, isHeaderChar c = true) : text.count '<' = 0 ∧ text.count '>' = 0 := by
  obtain ⟨hOpen, hClose⟩ := angleSigns_eq_nil_iff.1 (angleSigns_of_headerChars hText)
  exact ⟨List.count_eq_zero.2 hOpen, List.count_eq_zero.2 hClose⟩

/-- A header that is read and has its angle brackets balanced has two flat lists at most. -/
theorem angleSigns_of_headerPieces {written : List Char} (hPieces : HeaderPieces written)
    (hWritten : balanced '<' '>' 0 written = true) :
    ∃ first second, angleSigns written = first ++ second ∧ (first = [] ∨ first = ['<', '>']) ∧
      (second = [] ∨ second = ['<', '>']) := by
  have hCount := count_of_balanced (by decide) hWritten
  obtain ⟨lead, first, middle, second, tail, rfl, hFirst, hSecond, hLead, hMiddle, hTail⟩ := hPieces
  obtain ⟨hFirstLe, hFirstFlat⟩ := angleSigns_of_flatAngles hFirst
  obtain ⟨hSecondLe, hSecondFlat⟩ := angleSigns_of_flatAngles hSecond
  obtain ⟨hLeadOpen, hLeadClose⟩ := count_angles_of_headerChars hLead
  obtain ⟨hMiddleOpen, hMiddleClose⟩ := count_angles_of_headerChars hMiddle
  obtain ⟨hTailOpen, hTailClose⟩ := count_angles_of_headerChars hTail
  simp only [List.count_append] at hCount
  refine ⟨angleSigns first, angleSigns second, ?_, hFirstFlat (by omega), hSecondFlat (by omega)⟩
  simp only [angleSigns_append, angleSigns_of_headerChars hLead, angleSigns_of_headerChars hMiddle,
    angleSigns_of_headerChars hTail, List.nil_append, List.append_nil]

end Signs

section Peel
variable {piece header rest more : List Char}

theorem peel_plain (hPiece : '(' ∉ piece) (hText : piece ++ rest = header ++ '(' :: more) :
    ∃ behind, header = piece ++ behind ∧ rest = behind ++ '(' :: more := by
  rcases List.append_eq_append_iff.1 hText with ⟨behind, hHeader, hRest⟩ | ⟨ahead, hPrefix, hRest⟩
  · exact ⟨behind, hHeader, hRest⟩
  · cases ahead with
    | nil => exact ⟨[], by simpa using hPrefix.symm, hRest.symm⟩
    | cons c ahead =>
      obtain ⟨rfl, _⟩ := List.cons.inj hRest
      exact absurd (by rw [hPrefix]; simp) hPiece

theorem peel_flatAngles (hAngles : FlatAngles piece) (hHeader : '(' ∉ header)
    (hClosed : ∀ front behind, header = front ++ '<' :: behind → '>' ∈ behind)
    (hText : piece ++ rest = header ++ '(' :: more) :
    ∃ behind, header = piece ++ behind ∧ rest = behind ++ '(' :: more := by
  rcases List.append_eq_append_iff.1 hText with ⟨behind, hSplit, hRest⟩ | ⟨ahead, hPrefix, hRest⟩
  · exact ⟨behind, hSplit, hRest⟩
  · cases ahead with
    | nil => exact ⟨[], by simpa using hPrefix.symm, hRest.symm⟩
    | cons c ahead =>
      -- the list would go on behind the header, where its bracket has been closed
      obtain ⟨rfl, _⟩ := List.cons.inj hRest
      rcases hAngles with rfl | ⟨types, rfl, hTypes⟩
      · simp at hPrefix
      · cases header with
        | nil =>
          obtain ⟨hSign, _⟩ := List.cons.inj hPrefix
          exact absurd hSign (by decide)
        | cons d header =>
          obtain ⟨rfl, hInside⟩ := List.cons.inj hPrefix
          have hMem := hClosed [] header rfl
          rcases List.append_eq_append_iff.1 hInside with ⟨last, rfl, hLast⟩ | ⟨inner, rfl, _⟩
          · cases last with
            | nil =>
              obtain ⟨hSign, _⟩ := List.cons.inj hLast
              exact absurd hSign (by decide)
            | cons e last => simp at hLast
          · exact absurd (List.mem_append_left inner hMem) hTypes

theorem not_mem_of_headerChars (hPiece : ∀ c ∈ piece, isHeaderChar c = true) : '(' ∉ piece := by
  intro hMem
  exact absurd (hPiece _ hMem) (by decide)

/-- A balanced header up to the parenthesis is read in pieces as a whole or not at all. -/
theorem headerPieces_of_readFunction {before name : List Char} (hHeader : '(' ∉ header)
    (hNested : balanced '<' '>' 0 header = true)
    (hRead : readFunction before ("fun".toList ++ ' ' :: (header ++ '(' :: more)) =
      some (name, rest)) : HeaderPieces header := by
  obtain ⟨blank, written, hText, _, _, hPieces⟩ := pieces_of_readFunction hRead
  have hPieces' := hPieces
  have hWritten : written ++ '(' :: rest = header ++ '(' :: more := by
    exact (List.cons.inj (List.append_cancel_left hText)).2.symm
  obtain ⟨lead, first, middle, second, tail, rfl, hFirst, hSecond, hLead, hMiddle, hTail⟩ := hPieces
  simp only [List.append_assoc] at hWritten
  have hClosed : ∀ front behind, header = front ++ '<' :: behind → '>' ∈ behind := by
    rintro front behind rfl
    exact mem_of_balanced (by decide) hNested
  -- piece by piece, what is left of the header keeps its brackets closed
  obtain ⟨fromFirst, rfl, hFromFirst⟩ := peel_plain (not_mem_of_headerChars hLead) hWritten
  rw [List.mem_append, not_or] at hHeader
  obtain ⟨fromMiddle, rfl, hFromMiddle⟩ := peel_flatAngles hFirst hHeader.2
    (fun front behind hSplit => hClosed (lead ++ front) behind (by rw [hSplit, List.append_assoc]))
    hFromFirst
  obtain ⟨fromSecond, rfl, hFromSecond⟩ := peel_plain (not_mem_of_headerChars hMiddle) hFromMiddle
  simp only [List.mem_append, not_or] at hHeader
  obtain ⟨fromTail, rfl, hFromTail⟩ := peel_flatAngles hSecond hHeader.2.2.2
    (fun front behind hSplit => hClosed (lead ++ (first ++ (middle ++ front))) behind
      (by rw [hSplit]; simp only [List.append_assoc]))
    hFromSecond
  obtain ⟨left, rfl, hLeft⟩ := peel_plain (not_mem_of_headerChars hTail) hFromTail
  cases left with
  | nil =>
    rw [List.append_nil]
    exact hPieces'
  | cons c left =>
    obtain ⟨rfl, _⟩ := List.cons.inj hLeft
    simp at hHeader

end Peel

theorem isListChar_of_isWord {c : Char} (hC : isWord c = true) : isListChar c = true := by
  simp [isListChar, hC]

section Lists
variable {types : TypeList}

theorem flat_of_angleSigns (hSigns : angleSigns types.text = []) : types.flat = true := by
  simpa [TypeList.flat] using (angleSigns_eq_nil_iff.1 hSigns).1

theorem not_mem_of_flat (hFlat : types.flat = true) : '>' ∉ types.text := by
  have hOpen : '<' ∉ types.text := by simpa [TypeList.flat] using hFlat
  have hCount := count_of_balanced (by decide) types.nested
  rw [List.count_eq_zero.2 hOpen] at hCount
  exact List.count_eq_zero.1 hCount.symm

theorem balanced_angles (types : TypeList) (rest : List Char) :
    balanced '<' '>' 0 ('<' :: (types.text ++ '>' :: rest)) = balanced '<' '>' 0 rest := by
  rw [balanced, if_pos rfl]
  exact balanced_append types.nested 1 ('>' :: rest)

theorem balanced_run {text : List Char} (hRun : IsRun text) (rest : List Char) :
    balanced '<' '>' 0 (text ++ rest) = balanced '<' '>' 0 rest := by
  obtain ⟨hOpen, hClose⟩ := angleSigns_eq_nil_iff.1 (angleSigns_of_isRun hRun)
  exact balanced_append (balanced_of_plain hOpen hClose) 0 rest

def angled (types? : Option TypeList) : List Char :=
  (types?.map fun types => '<' :: (angleSigns types.text ++ ['>'])).getD []

/-- In place of two flat pairs of brackets there can be two lists only if they are flat. -/
theorem flat_of_angled {first? second? : Option TypeList} {first second : List Char}
    (hSigns : angled first? ++ angled second? = first ++ second)
    (hFirst : first = [] ∨ first = ['<', '>']) (hSecond : second = [] ∨ second = ['<', '>']) :
    first?.all (·.flat) = true ∧ second?.all (·.flat) = true := by
  -- one list alone: a second pair would have to start with a closing bracket inside it
  have hAlone : ∀ types : TypeList, '<' :: (angleSigns types.text ++ ['>']) = first ++ second →
      types.flat = true := by
    intro types hOne
    apply flat_of_angleSigns
    have hHead := head?_angleSigns types.nested
    cases hInside : angleSigns types.text with
    | nil => rfl
    | cons c inside =>
      rw [hInside] at hOne hHead
      rcases hFirst with rfl | rfl <;> rcases hSecond with rfl | rfl <;> simp at hOne
      exact absurd (congrArg some hOne.1) hHead
  cases first? with
  | none =>
    cases second? with
    | none => exact ⟨rfl, rfl⟩
    | some types => exact ⟨rfl, hAlone types hSigns⟩
  | some types =>
    cases second? with
    | none => exact ⟨hAlone types (by simpa [angled] using hSigns), rfl⟩
    | some others =>
      have hLength := congrArg List.length hSigns
      have hShort : first.length ≤ 2 ∧ second.length ≤ 2 := by
        rcases hFirst with rfl | rfl <;> rcases hSecond with rfl | rfl <;> simp
      simp only [angled, Option.map_some, Option.getD_some, List.length_append, List.length_cons,
        List.length_nil] at hLength
      refine ⟨flat_of_angleSigns ?_, flat_of_angleSigns ?_⟩
      · exact List.length_eq_zero_iff.1 (by omega)
      · exact List.length_eq_zero_iff.1 (by omega)

end Lists

namespace GenericFunction

theorem chars_genericPart (types? : Option TypeList) :
    ∀ c ∈ genericPart types?, isListChar c = true := by
  cases types? with
  | none => exact fun c hC => absurd hC List.not_mem_nil
  | some types =>
    intro c hC
    simp only [genericPart, List.mem_cons, List.mem_append, List.not_mem_nil, or_false] at hC
    rcases hC with rfl | hC | rfl | rfl
    · rfl
    · exact List.all_eq_true.1 types.chars c hC
    · rfl
    · rfl

theorem chars_receiverPart (receiver? : Option (TypeName × TypeList)) :
    ∀ c ∈ receiverPart receiver?, isListChar c = true := by
  cases receiver? with
  | none => exact fun c hC => absurd hC List.not_mem_nil
  | some received =>
    intro c hC
    simp only [receiverPart, List.mem_cons, List.mem_append, List.not_mem_nil, or_false] at hC
    rcases hC with hC | rfl | hC | rfl | rfl
    · exact isListChar_of_isWord (received.1.run.isWord c hC)
    · rfl
    · exact List.all_eq_true.1 received.2.chars c hC
    · rfl
    · rfl

theorem chars_header (g : GenericFunction) : ∀ c ∈ g.header, isListChar c = true := by
  intro c hC
  rcases List.mem_append.1 hC with hC | hC
  · exact chars_genericPart _ c hC
  · rcases List.mem_append.1 hC with hC | hC
    · exact chars_receiverPart _ c hC
    · exact isListChar_of_isWord (g.run.isWord c hC)

theorem balanced_header (g : GenericFunction) : balanced '<' '>' 0 g.header = true := by
  have hGeneric : ∀ types? rest,
      balanced '<' '>' 0 (genericPart types? ++ rest) = balanced '<' '>' 0 rest := by
    intro types? rest
    cases types? with
    | none => rfl
    | some types =>
      rw [genericPart, List.cons_append, List.append_assoc]
      exact balanced_angles types (' ' :: rest)
  have hReceiver : ∀ receiver? rest,
      balanced '<' '>' 0 (receiverPart receiver? ++ rest) = balanced '<' '>' 0 rest := by
    intro receiver? rest
    cases receiver? with
    | none => rfl
    | some received =>
      rw [receiverPart, List.append_assoc, balanced_run received.1.run, List.cons_append,
        List.append_assoc]
      exact balanced_angles received.2 ('.' :: rest)
  have hName := balanced_run g.run []
  rw [List.append_nil] at hName
  rw [header, hGeneric, hReceiver, hName]
  rfl

theorem angleSigns_header (g : GenericFunction) :
    angleSigns g.header = angled g.generics? ++ angled (g.receiver?.map (·.2)) := by
  have hGeneric : ∀ types?, angleSigns (genericPart types?) = angled types? := by
    intro types?
    cases types? with
    | none => rfl
    | some types =>
      rw [genericPart, ← List.singleton_append, angleSigns_append, angleSigns_append]
      rfl
  have hReceiver : ∀ receiver?, angleSigns (receiverPart receiver?) =
      angled (receiver?.map (·.2)) := by
    intro receiver?
    cases receiver? with
    | none => rfl
    | some received =>
      rw [receiverPart, angleSigns_append, angleSigns_of_isRun received.1.run,
        ← List.singleton_append, angleSigns_append, angleSigns_append]
      rfl
  rw [header, angleSigns_append, angleSigns_append, hGeneric, hReceiver, angleSigns_of_isRun g.run,
    List.append_nil]

theorem flat_of_readFunction (g : GenericFunction) {before more name rest : List Char}
    (hRead : readFunction before ("fun".toList ++ ' ' :: (g.header ++ '(' :: more)) =
      some (name, rest)) : g.flat = true := by
  have hParen : '(' ∉ g.header := by
    intro hMem
    exact absurd (g.chars_header _ hMem) (by decide)
  have hPieces := headerPieces_of_readFunction hParen g.balanced_header hRead
  obtain ⟨first, second, hSigns, hFirst, hSecond⟩ :=
    angleSigns_of_headerPieces hPieces g.balanced_header
  rw [g.angleSigns_header] at hSigns
  obtain ⟨hGenerics, hReceiver⟩ := flat_of_angled hSigns hFirst hSecond
  rw [Option.all_map] at hReceiver
  rw [flat, hGenerics]
  exact hReceiver

theorem readReceived_name {name : List Char} (hName : IsRun name) (more : List Char) :
    readReceived (name ++ '(' :: more) = none := by
  have hSpan : (name ++ '(' :: more).span (fun c => isWord c || c == '.') =
      (name, '(' :: more) := by
    refine span_eq_iff.2 ⟨rfl, ?_, rfl⟩
    intro c hC
    simp [hName.isWord c hC]
  have hTake : name.reverse.takeWhile (· != '.') = name.reverse := by
    rw [List.takeWhile_eq_self_iff]
    intro c hC
    rw [bne_iff_ne]
    rintro rfl
    exact absurd (hName.isWord _ (List.mem_reverse.1 hC)) (by decide)
  rw [readReceived, hSpan]
  simp [readFlatTypes, readMember, after?, hTake]

theorem readReceived_received {type : List Char} (hType : IsRun type) {types : TypeList}
    (hFlat : types.flat = true) {name : List Char} (hName : IsRun name) (more : List Char) :
    readReceived (type ++ '<' :: (types.text ++ '>' :: '.' :: (name ++ '(' :: more))) =
      some (name, more) := by
  have hSpan : (type ++ '<' :: (types.text ++ '>' :: '.' :: (name ++ '(' :: more))).span
      (fun c => isWord c || c == '.') =
      (type, '<' :: (types.text ++ '>' :: '.' :: (name ++ '(' :: more))) := by
    refine span_eq_iff.2 ⟨rfl, ?_, rfl⟩
    intro c hC
    simp [hType.isWord c hC]
  have hTypes : readFlatTypes ('<' :: (types.text ++ '>' :: '.' :: (name ++ '(' :: more))) =
      some ('.' :: (name ++ '(' :: more)) :=
    readFlatTypes_eq_some_iff.2 ⟨types.text, rfl, not_mem_of_flat hFlat⟩
  have hCalled : readCalledName (name ++ '(' :: more) = some (name, more) :=
    readCalledName_eq_some_iff.2 ⟨[], rfl, hName, fun c hC => absurd hC List.not_mem_nil⟩
  rw [readReceived, hSpan]
  simp [hTypes, after?, hCalled, hType.ne_nil]

theorem head?_receiverPart (receiver? : Option (TypeName × TypeList)) {name : List Char}
    (hName : IsRun name) (more : List Char) :
    ∃ c, (receiverPart receiver? ++ (name ++ more)).head? = some c ∧ isWord c = true := by
  cases receiver? with
  | none => exact head?_run more hName
  | some received =>
    rw [receiverPart, List.append_assoc]
    exact head?_run _ received.1.run

/-- Flat type parameters are passed over with the blank behind them. -/
theorem skipGenerics_genericPart {generics? : Option TypeList}
    (hFlat : generics?.all TypeList.flat = true) {c : Char} {rest : List Char}
    (hHead : rest.head? = some c) (hWord : isWord c = true) (hBlank : isBlank c = false) :
    skipGenerics (genericPart generics? ++ rest) = some rest := by
  cases generics? with
  | none =>
    have hPlain : c ≠ '<' := by
      rintro rfl
      exact absurd hWord (by decide)
    rw [genericPart, List.nil_append, skipGenerics, hHead, if_neg (by simpa using hPlain)]
  | some types =>
    have hTypes : readFlatTypes (genericPart (some types) ++ rest) = some (' ' :: rest) := by
      refine readFlatTypes_eq_some_iff.2 ⟨types.text, ?_, not_mem_of_flat hFlat⟩
      simp [genericPart]
    have hSpace : ∀ d ∈ [' '], isBlank d = true := List.forall_mem_singleton.2 rfl
    have hRest : rest.head?.any isBlank = false := by
      rw [hHead]
      exact hBlank
    have hBlanks := dropWhile_eq hSpace hRest
    rw [skipGenerics, hTypes]
    simpa [genericPart] using hBlanks

/-- A header with flat lists is read up to its parenthesis. -/
theorem readFunction_of_flat (g : GenericFunction) (hFlat : g.flat = true) {before : List Char}
    (hStart : atWordStart before = true) (more : List Char) :
    readFunction before ("fun".toList ++ ' ' :: (g.header ++ '(' :: more)) =
      some (g.name, more) := by
  rw [flat, Bool.and_eq_true] at hFlat
  obtain ⟨c, hHead, hWord⟩ := head?_receiverPart g.receiver? g.run ('(' :: more)
  have hBlank : isBlank c = false := by
    by_contra hBlank
    rw [isWord_of_isBlank (Bool.not_eq_false _ ▸ hBlank)] at hWord
    cases hWord
  have hText : g.header ++ '(' :: more =
      genericPart g.generics? ++ (receiverPart g.receiver? ++ (g.name ++ '(' :: more)) := by
    rw [header, List.append_assoc, List.append_assoc]
  rw [hText]
  refine readFunction_eq_some_iff.2 ⟨hStart, _, genericPart g.generics? ++
    (receiverPart g.receiver? ++ (g.name ++ '(' :: more)),
    receiverPart g.receiver? ++ (g.name ++ '(' :: more), rfl, ?_,
    skipGenerics_genericPart hFlat.1 hHead hWord hBlank, ?_⟩
  · refine readBlanks?_eq_some_iff.2 ⟨' ', [], rfl, rfl, fun d hD => absurd hD List.not_mem_nil, ?_⟩
    cases hGenerics : g.generics? with
    | none =>
      rw [genericPart, List.nil_append, hHead]
      exact hBlank
    | some types => rfl
  · cases hReceiver : g.receiver? with
    | none =>
      have hCalled : readCalledName (g.name ++ '(' :: more) = some (g.name, more) :=
        readCalledName_eq_some_iff.2 ⟨[], rfl, g.run, fun c hC => absurd hC List.not_mem_nil⟩
      rw [receiverPart, List.nil_append, readReceived_name g.run, hCalled]
      rfl
    | some received =>
      rw [hReceiver] at hFlat
      have hRead := readReceived_received received.1.run hFlat.2 g.run more
      rw [receiverPart, List.append_assoc, List.cons_append, List.append_assoc]
      exact Option.or_eq_some_iff.2 (.inl hRead)

theorem readFunction_header (g : GenericFunction) {before : List Char}
    (hStart : atWordStart before = true) (more : List Char) :
    readFunction before ("fun".toList ++ ' ' :: (g.header ++ '(' :: more)) =
      if g.flat then some (g.name, more) else none := by
  cases hFlat : g.flat with
  | true => exact g.readFunction_of_flat hFlat hStart more
  | false =>
    cases hRead : readFunction before ("fun".toList ++ ' ' :: (g.header ++ '(' :: more)) with
    | none => rfl
    | some found =>
      rw [g.flat_of_readFunction hRead] at hFlat
      cases hFlat

end GenericFunction
end SensorFlow.Kotlin
