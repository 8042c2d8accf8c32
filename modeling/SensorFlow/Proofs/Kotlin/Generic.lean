import SensorFlow.Kotlin.Outline
import SensorFlow.Proofs.Kotlin.Attribution
import SensorFlow.Proofs.Kotlin.GenericHeader
import SensorFlow.Proofs.Kotlin.Ownership
import SensorFlow.Proofs.Source.Lines

/-!
# A class with a generic function

The text of a class with one generic function declares that class and nothing else. The function is
a method of it exactly if its header is read.
-/
namespace SensorFlow.Kotlin
open Text Source
set_option autoImplicit false

theorem isRun_of_all {text : List Char} (hText : (!text.isEmpty && text.all isWord) = true) :
    IsRun text := by
  rw [Bool.and_eq_true, Bool.not_eq_true', List.isEmpty_eq_false_iff] at hText
  exact ⟨hText.1, List.all_eq_true.1 hText.2⟩

theorem TypeName.declared (name : TypeName) : name.text ∉ undeclaredNames := by
  intro hMem
  have hHeads : ∀ word ∈ undeclaredNames, capitalised true word = false := by decide
  have hSmall := hHeads name.text hMem
  rw [name.capital] at hSmall
  cases hSmall

section Braced
variable {text front rest : List Char}

/-- A body of two characters or more that is not closed by the first one reaches the second one. -/
theorem exists_bracedBody? {first second : Char}
    (hText : text = front ++ ' ' :: '{' :: first :: second :: rest) (hFirst : first ≠ '}') :
    ∃ last, bracedBody? text (front.length + 1) = some ⟨front.length + 1, last⟩ ∧
      front.length + 3 ≤ last := by
  have hAt : ∀ k, text[front.length + k]? = (' ' :: '{' :: first :: second :: rest)[k]? := by
    intro k
    rw [hText, List.getElem?_append_right (Nat.le_add_right _ _), Nat.add_sub_cancel_left]
  have hBrace : text[front.length + 1]? = some '{' := hAt 1
  refine ⟨_, by rw [bracedBody?, if_pos hBrace], ?_⟩
  cases hClose : closing? text (front.length + 1) '{' '}' with
  | none =>
    have hEnd := congrArg List.length hText
    simp only [List.length_append, List.length_cons] at hEnd
    show front.length + 3 ≤ text.length - 1
    omega
  | some close =>
    have hAfter := le_of_closingFrom hClose
    have hClosed := getElem?_of_closing? hClose
    show front.length + 3 ≤ close
    by_contra hBefore
    obtain rfl | rfl : close = front.length + 1 ∨ close = front.length + 2 := by omega
    · rw [hBrace] at hClosed
      cases hClosed
    · rw [hAt 2] at hClosed
      exact hFirst (Option.some.inj hClosed)

/-- A declaration whose name is followed by a blank and a brace has nothing but its body. -/
theorem exists_declaration?_of_brace {body : Span} (name : List Char)
    (hText : text = front ++ ' ' :: '{' :: rest)
    (hBody : bracedBody? text (front.length + 1) = some body) :
    ∃ d : Declaration, declaration? text ⟨0, front.length, name⟩ = some d ∧
      d.name = name ∧ d.body? = some body := by
  have hDrop : ∀ k, text.drop (front.length + k) = (' ' :: '{' :: rest).drop k := by
    intro k
    rw [hText, ← List.drop_drop, List.drop_left]
  have hBrace : text[front.length + 1]? = some '{' := by
    rw [hText, List.getElem?_append_right (Nat.le_add_right _ _), Nat.add_sub_cancel_left]
    rfl
  have hBlank : skipBlanks text front.length = front.length + 1 := by
    have hHere := hDrop 0
    rw [Nat.add_zero] at hHere
    rw [skipBlanks, hHere]
    rfl
  have hStay : skipBlanks text (front.length + 1) = front.length + 1 := by
    rw [skipBlanks, hDrop 1]
    rfl
  have hIntro : constructorStart? text (front.length + 1) = none := by
    rw [constructorStart?, hDrop 1]
    rfl
  have hSkip : ∀ opening closing, opening ≠ '{' →
      skipGroup? text (front.length + 1) opening closing = some (none, front.length + 1) := by
    intro opening closing hOther
    rw [skipGroup?, hBrace, if_neg]
    simpa using hOther.symm
  have hColon : text[front.length + 1]? ≠ some ':' := by
    rw [hBrace]
    decide
  simp only [declaration?, hBlank, hSkip '<' '>' (by decide), hSkip '(' ')' (by decide), hIntro,
    hColon, hStay, hBody, Option.getD_none, Option.bind_eq_bind, Option.bind_some, if_false]
  exact ⟨_, rfl, rfl, rfl⟩

end Braced

namespace GenericFunction

section Params

theorem paramsText_induction {motive : List Char → Prop} (nil : motive [])
    (single : ∀ p : TypedParameter, motive (p.name ++ (':' :: ' ' :: p.type)))
    (cons : ∀ (p : TypedParameter) (rest : List Char), motive rest →
      motive (p.name ++ (':' :: ' ' :: p.type) ++ (',' :: ' ' :: rest)))
    (params : List TypedParameter) : motive (paramsText params) := by
  induction params with
  | nil => exact nil
  | cons p params ih =>
    cases params with
    | nil =>
      have hText : paramsText [p] = p.name ++ (':' :: ' ' :: p.type) := by simp [paramsText]
      exact hText ▸ single p
    | cons q params =>
      have hText : paramsText (p :: q :: params) =
          p.name ++ (':' :: ' ' :: p.type) ++ (',' :: ' ' :: paramsText (q :: params)) := by
        simp [paramsText, List.intercalate_cons_cons]
      exact hText ▸ cons p _ ih

theorem balanced_param (p : TypedParameter) (rest : List Char) :
    balanced '(' ')' 0 (p.name ++ (':' :: ' ' :: p.type) ++ rest) = balanced '(' ')' 0 rest := by
  have hName : balanced '(' ')' 0 p.name = true := by
    apply balanced_of_plain
    · intro hMem
      exact absurd (p.run.isWord _ hMem) (by decide)
    · intro hMem
      exact absurd (p.run.isWord _ hMem) (by decide)
  rw [List.append_assoc, balanced_append hName 0]
  exact balanced_append p.nested 0 rest

theorem balanced_paramsText (params : List TypedParameter) :
    balanced '(' ')' 0 (paramsText params) = true := by
  refine paramsText_induction (motive := fun text => balanced '(' ')' 0 text = true)
    rfl ?_ ?_ params
  · intro p
    have hParam := balanced_param p []
    rwa [List.append_nil] at hParam
  · intro p rest hRest
    rw [balanced_param]
    exact hRest

theorem quiet_param (p : TypedParameter) {sign : Char} (hSign : isHeaderChar sign = false)
    (before rest : List Char) :
    Quiet before (p.name ++ (':' :: ' ' :: p.type)) (sign :: rest) := by
  have hColon : isHeaderChar ':' = false := by decide
  refine (quiet_of_isRun hColon p.run).append ?_
  refine quiet_cons (fun _ => rfl) (quiet_cons (fun _ => rfl) ?_)
  exact quiet_of_headless hSign p.headless

theorem quiet_paramsText (params : List TypedParameter) (before rest : List Char) :
    Quiet before (paramsText params) (')' :: rest) := by
  have hRound : isHeaderChar ')' = false := by decide
  have hComma : isHeaderChar ',' = false := by decide
  refine paramsText_induction (motive := fun text => ∀ before, Quiet before text (')' :: rest))
    ?_ ?_ ?_ params before
  · exact fun _ => quiet_nil
  · exact fun p before => quiet_param p hRound before rest
  · intro p more hMore before
    refine (quiet_param p hComma before _).append ?_
    exact quiet_cons (fun _ => rfl) (quiet_cons (fun _ => rfl) (hMore _))

end Params

section Scan
variable (g : GenericFunction)

/-- What stands between the first letters of the two header words. -/
def lead : List Char := "lass ".toList ++ (g.owner.text ++ " \x7b ".toList)

/-- The header of the function behind its first letter, with the parenthesis. -/
def call : List Char := "un ".toList ++ (g.header ++ ['('])

def tail : List Char := paramsText g.params ++ ") \x7b\x7d \x7d".toList

theorem source_eq : g.source = 'c' :: (g.lead ++ 'f' :: (g.call ++ g.tail)) := by
  have hClass : "class ".toList = 'c' :: "lass ".toList := by decide
  have hFun : " \x7b fun ".toList = " \x7b ".toList ++ 'f' :: "un ".toList := by decide
  have hParen : "(".toList = ['('] := by decide
  -- the letters do not matter: the two sides differ by their brackets
  have hSplit : ∀ first owner second third header params last : List Char,
      'c' :: first ++ owner ++ (second ++ 'f' :: third) ++ header ++ ['('] ++ params ++ last =
        'c' :: ((first ++ (owner ++ second)) ++ 'f' :: ((third ++ (header ++ ['('])) ++
          (params ++ last))) := by
    intros
    simp
  unfold source
  rw [hClass, hFun, hParen]
  exact hSplit "lass ".toList g.owner.text " \x7b ".toList "un ".toList g.header
    (paramsText g.params) ") \x7b\x7d \x7d".toList

theorem call_eq (more : List Char) :
    'f' :: (g.call ++ more) = "fun".toList ++ ' ' :: (g.header ++ '(' :: more) := by
  have hFun : 'f' :: "un ".toList = "fun".toList ++ [' '] := by decide
  rw [call, ← List.cons_append, ← List.cons_append, hFun, List.append_assoc, List.append_assoc,
    List.append_assoc]
  rfl

theorem capitalised_genericPart (types? : Option TypeList) :
    capitalised true (genericPart types?) = true := by
  cases types? with
  | none => rfl
  | some types => exact capitalised_append types.capital rfl

theorem capitalised_receiverPart (receiver? : Option (TypeName × TypeList)) :
    capitalised true (receiverPart receiver?) = true := by
  cases receiver? with
  | none => rfl
  | some received =>
    have hTypes : capitalised true ('<' :: (received.2.text ++ ['>', '.'])) = true :=
      capitalised_append received.2.capital rfl
    exact capitalised_append received.1.capital hTypes

theorem quiet_lead (rest : List Char) : Quiet ['c'] g.lead rest := by
  apply quiet_of_capitalised
  have hClass : capitalised (atWordStart ['c']) "lass ".toList = true := by decide
  have hBrace : capitalised true " \x7b ".toList = true := by decide
  exact capitalised_append hClass (capitalised_append g.owner.capital hBrace)

theorem quiet_call (before : List Char) : Quiet ('f' :: before) g.call g.tail := by
  have hFun : capitalised (atWordStart ('f' :: before)) "un ".toList = true := by
    have hLetters : capitalised false "un ".toList = true := by decide
    exact hLetters
  have hRound : isHeaderChar '(' = false := by decide
  rw [call, header, ← List.append_assoc, ← List.append_assoc]
  refine Quiet.append ?_ (quiet_cons (fun _ => rfl) quiet_nil)
  rw [← List.append_assoc]
  refine Quiet.append ?_ (quiet_of_isRun hRound g.run)
  apply quiet_of_capitalised
  rw [List.append_assoc]
  exact capitalised_append hFun
    (capitalised_append (capitalised_genericPart _) (capitalised_receiverPart _))

theorem quiet_tail (before : List Char) : Quiet before g.tail [] := by
  have hEnd : capitalised true ") \x7b\x7d \x7d".toList = true := by decide
  refine Quiet.append ?_ (quiet_of_capitalised (capitalised_mono _ hEnd))
  exact quiet_paramsText g.params before _

theorem quiet_behind (before : List Char) : Quiet ('f' :: before) (g.call ++ g.tail) [] := by
  have hCall : Quiet ('f' :: before) g.call (g.tail ++ []) := by
    rw [List.append_nil]
    exact g.quiet_call before
  exact hCall.append (g.quiet_tail _)

theorem lead_eq (rest : List Char) : 'c' :: (g.lead ++ rest) =
    ("class".toList ++ ' ' :: g.owner.text) ++ (' ' :: '{' :: ' ' :: rest) := by
  have hClass : 'c' :: "lass ".toList = "class".toList ++ [' '] := by decide
  have hBrace : " \x7b ".toList = [' ', '{', ' '] := by decide
  rw [lead, hBrace, ← List.cons_append, ← List.cons_append, hClass, List.append_assoc,
    List.append_assoc, List.append_assoc, List.append_assoc]
  rfl

theorem length_lead : g.lead.length = g.owner.text.length + 8 := by
  rw [lead, List.length_append, List.length_append, show "lass ".toList.length = 5 by decide,
    show " \x7b ".toList.length = 3 by decide]
  omega

theorem readFunction_other (before : List Char) {c : Char} (hC : c ≠ 'f') (rest : List Char) :
    readFunction before (c :: rest) = none := by
  cases hRead : readFunction before (c :: rest) with
  | none => rfl
  | some header =>
    obtain ⟨blank, written, hText, _⟩ := pieces_of_readFunction hRead
    exact absurd (List.cons.inj hText).1 hC

theorem readDeclared_fun (before rest : List Char) : readDeclared before ('f' :: rest) = none := by
  cases hRead : readDeclared before ('f' :: rest) with
  | none => rfl
  | some header =>
    obtain ⟨word, blank, blanks, hWord, hText, _⟩ := pieces_of_readDeclared hRead
    have hHeads : ∀ word ∈ declarationWords, word.head?.all (· != 'f') && !word.isEmpty := by decide
    have hHead := hHeads word hWord
    cases word with
    | nil => cases hHead
    | cons c word =>
      obtain ⟨rfl, _⟩ := List.cons.inj hText
      cases hHead

theorem readDeclared_class {name : List Char} (hName : IsRun name) (rest : List Char) :
    readDeclared [] ("class".toList ++ ' ' :: (name ++ ' ' :: rest)) =
      some (name, ' ' :: rest) := by
  have hWord : declarationWords.findSome?
      (after? · ("class".toList ++ ' ' :: (name ++ ' ' :: rest))) =
        some (' ' :: (name ++ ' ' :: rest)) := by
    rw [declarationWords, List.findSome?_cons, (after?_eq_some_iff _ _ _).2 rfl]
  have hDrop : (' ' :: (name ++ ' ' :: rest)).dropWhile (fun c => c == ' ' || c == '\t') =
      name ++ ' ' :: rest := by
    rw [List.dropWhile_cons_of_pos rfl]
    obtain ⟨c, word, rfl⟩ := List.exists_cons_of_ne_nil hName.ne_nil
    have hC := hName.isWord c List.mem_cons_self
    rw [List.cons_append, List.dropWhile_cons_of_neg]
    rw [Bool.or_eq_true, beq_iff_eq, beq_iff_eq, not_or]
    constructor <;> rintro rfl <;> exact absurd hC (by decide)
  have hRead : readWord? (name ++ ' ' :: rest) = some (name, ' ' :: rest) :=
    readWord?_append hName (show isWord ' ' = false by decide)
  rw [readDeclared, if_neg (by decide), hWord]
  simp only [Option.bind_eq_bind, Option.bind_some, hDrop, hRead]
  rfl

theorem findAll_readFunction :
    findAll readFunction g.source = if g.flat then
      [⟨g.lead.length + 1, g.lead.length + 1 + (g.call.length + 1), g.name⟩] else [] := by
  have hReads : ∀ before text found, readFunction before text = some found →
      atWordStart before = true ∧ opensHeader text = true :=
    fun _ _ _ hRead => opensHeader_of_readFunction hRead
  have hClass := readFunction_other [] (show 'c' ≠ 'f' by decide)
    (g.lead ++ 'f' :: (g.call ++ g.tail))
  have hStart : atWordStart (g.lead.reverse ++ ['c']) = true := by
    rw [lead, ← List.append_assoc, List.reverse_append]
    rfl
  rw [findAll, source_eq, findFrom, hClass]
  simp only
  rw [findFrom_of_quiet hReads (g.quiet_lead _), Nat.zero_add, Nat.add_comm 1]
  have hHeader := g.readFunction_header hStart g.tail
  rw [← call_eq] at hHeader
  cases hFlat : g.flat with
  | true =>
    have hRead : readFunction (g.lead.reverse ++ ['c']) ('f' :: g.call ++ g.tail) =
        some (g.name, g.tail) := by
      rw [hFlat] at hHeader
      exact hHeader
    have hTail := findFrom_of_quiet hReads (g.quiet_tail (('f' :: g.call).reverse ++
      (g.lead.reverse ++ ['c']))) (g.lead.length + 1 + ('f' :: g.call).length)
    rw [List.append_nil] at hTail
    rw [← List.cons_append, findFrom_of_read (List.cons_ne_nil _ _) hRead, hTail]
    rfl
  | false =>
    -- the scan goes on behind the first letter, and no header starts there
    have hRead : readFunction (g.lead.reverse ++ ['c']) ('f' :: (g.call ++ g.tail)) = none := by
      rw [hFlat] at hHeader
      exact hHeader
    have hRest := findFrom_of_quiet hReads (g.quiet_behind (g.lead.reverse ++ ['c']))
      (g.lead.length + 1 + 1)
    rw [List.append_nil] at hRest
    rw [findFrom, hRead]
    simp only
    rw [hRest]
    rfl

theorem findAll_readDeclared :
    findAll readDeclared g.source = [⟨0, g.owner.text.length + 6, g.owner.text⟩] := by
  have hReads : ∀ before text found, readDeclared before text = some found →
      atWordStart before = true ∧ opensHeader text = true :=
    fun _ _ _ hRead => opensHeader_of_readDeclared hRead
  have hRead : readDeclared [] (("class".toList ++ ' ' :: g.owner.text) ++
      (' ' :: '{' :: ' ' :: 'f' :: (g.call ++ g.tail))) =
        some (g.owner.text, ' ' :: '{' :: ' ' :: 'f' :: (g.call ++ g.tail)) := by
    rw [List.append_assoc]
    exact readDeclared_class g.owner.run _
  have hSigns : ∀ before, Quiet before [' ', '{', ' '] ('f' :: (g.call ++ g.tail)) := by
    intro before
    exact quiet_of_capitalised (capitalised_mono _ (by decide))
  have hRest : ∀ before pos,
      findFrom readDeclared before pos 0 (' ' :: '{' :: ' ' :: 'f' :: (g.call ++ g.tail)) = [] := by
    intro before pos
    have hBehind := findFrom_of_quiet hReads (g.quiet_behind ([' ', '{', ' '].reverse ++ before))
      (pos + 3 + 1)
    rw [List.append_nil] at hBehind
    have hFront := findFrom_of_quiet hReads (hSigns before) pos
    refine hFront.trans ?_
    rw [findFrom, readDeclared_fun]
    exact hBehind
  have hLength : ("class".toList ++ ' ' :: g.owner.text).length = g.owner.text.length + 6 := by
    rw [List.length_append, List.length_cons, show "class".toList.length = 5 by decide]
    omega
  have hSome : "class".toList ++ ' ' :: g.owner.text ≠ [] := by simp
  rw [findAll, source_eq, lead_eq, findFrom_of_read hSome hRead, hRest, hLength, Nat.zero_add]

/-- The function is located where its header is read: the parenthesis of its parameters closes. -/
theorem functions_source : ∃ f : Function, f.name = g.name ∧ f.start = g.lead.length + 1 ∧
    functions g.source = if g.flat then [f] else [] := by
  obtain ⟨hit, hHit, hStop⟩ : ∃ hit : Hit (List Char),
      hit = ⟨g.lead.length + 1, g.lead.length + 1 + (g.call.length + 1), g.name⟩ ∧
        hit.stop - 1 = g.lead.length + g.call.length + 1 := by
    refine ⟨_, rfl, ?_⟩
    show g.lead.length + 1 + (g.call.length + 1) - 1 = _
    omega
  have hParams : g.source.drop (hit.stop - 1) = '(' :: g.tail := by
    have hText : g.source =
        ('c' :: (g.lead ++ 'f' :: ("un ".toList ++ g.header))) ++ '(' :: g.tail := by
      rw [source_eq, call]
      simp
    have hLength :
        ('c' :: (g.lead ++ 'f' :: ("un ".toList ++ g.header))).length = hit.stop - 1 := by
      rw [hStop, call]
      simp only [List.length_cons, List.length_append, List.length_nil]
      omega
    rw [hText, ← hLength, List.drop_left]
  have hClose : closing? g.source (hit.stop - 1) '(' ')' =
      some (hit.stop - 1 + 1 + (paramsText g.params).length) := by
    have hTail : g.tail = paramsText g.params ++ ')' :: " \x7b\x7d \x7d".toList := by
      rw [tail, show ") \x7b\x7d \x7d".toList = ')' :: " \x7b\x7d \x7d".toList by decide]
    rw [closing?, hParams, hTail, closingFrom_open]
    exact closingFrom_of_balanced closer?_round (balanced_paramsText g.params) _ _ _
  obtain ⟨f, hF⟩ : ∃ f, function? g.source hit = some f := by
    rw [function?, hClose]
    exact ⟨_, rfl⟩
  have hName : f.name = hit.value := by
    rw [function?, hClose] at hF
    exact (congrArg Function.name (Option.some.inj hF)).symm
  refine ⟨f, by rw [hName, hHit], by rw [(position_of_function? hF).1, hHit], ?_⟩
  rw [functions, findAll_readFunction, ← hHit]
  cases g.flat with
  | true => simp [hF]
  | false => rfl

/-- The class is located at the start, and the function stands in its body. -/
theorem declarations_source : ∃ d : Declaration, d.name = g.owner.text ∧
    d.bodyCovers (g.lead.length + 1) = true ∧ declarations g.source = [d] := by
  obtain ⟨front, hFront, hLength⟩ : ∃ front, g.source =
      front ++ ' ' :: '{' :: ' ' :: 'f' :: (g.call ++ g.tail) ∧
        front.length = g.owner.text.length + 6 := by
    refine ⟨"class".toList ++ ' ' :: g.owner.text, by rw [source_eq, lead_eq], ?_⟩
    rw [List.length_append, List.length_cons, show "class".toList.length = 5 by decide]
    omega
  obtain ⟨last, hBody, hLast⟩ := exists_bracedBody? hFront (by decide)
  obtain ⟨d, hD, hName, hSpan⟩ := exists_declaration?_of_brace g.owner.text hFront hBody
  refine ⟨d, hName, ?_, ?_⟩
  · rw [bodyCovers_eq_true_iff]
    refine ⟨_, hSpan, ?_⟩
    rw [length_lead]
    constructor
    · show front.length + 1 < _
      omega
    · show _ ≤ last
      omega
  · rw [declarations, findAll_readDeclared, ← hLength]
    simp [g.owner.declared, hD]

end Scan

theorem isCodeChar_of_isListChar {c : Char} (hC : isListChar c = true) : isCodeChar c = true := by
  simp only [isCodeChar, Bool.and_eq_true, bne_iff_ne]
  refine ⟨⟨?_, ?_⟩, ?_⟩ <;> rintro rfl <;> exact absurd hC (by decide)

theorem code_paramsText (params : List TypedParameter) :
    ∀ c ∈ paramsText params, isCodeChar c = true := by
  have hParam : ∀ p : TypedParameter, ∀ c ∈ p.name ++ (':' :: ' ' :: p.type),
      isCodeChar c = true := by
    intro p c hC
    simp only [List.mem_append, List.mem_cons] at hC
    rcases hC with hC | rfl | rfl | hC
    · exact isCodeChar_of_isListChar (isListChar_of_isWord (p.run.isWord c hC))
    · rfl
    · rfl
    · exact List.all_eq_true.1 p.code c hC
  refine paramsText_induction (motive := fun text => ∀ c ∈ text, isCodeChar c = true)
    (fun c hC => absurd hC List.not_mem_nil) hParam ?_ params
  intro p rest hRest c hC
  rcases List.mem_append.1 hC with hC | hC
  · exact hParam p c hC
  · rcases List.mem_cons.1 hC with rfl | hC
    · rfl
    · rcases List.mem_cons.1 hC with rfl | hC
      · rfl
      · exact hRest c hC

theorem mask_of_code {text : List Char} (hText : ∀ c ∈ text, isCodeChar c = true) :
    mask text = text := by
  have hPlain : ∀ c ∈ text, (c ≠ '"' ∧ c ≠ '\'') ∧ c ≠ '/' := by
    intro c hC
    simpa only [isCodeChar, Bool.and_eq_true, bne_iff_ne] using hText c hC
  have hOpens (c : Char) : ¬['/', c] <:+: text := by
    intro hInfix
    exact (hPlain '/' (hInfix.subset List.mem_cons_self)).2 rfl
  exact mask_eq_self (fun c hC => not_or.2 (hPlain c hC).1) ⟨hOpens '/', hOpens '*'⟩

theorem mask_source (g : GenericFunction) : mask g.source = g.source := by
  have hFixed : ∀ text ∈ ["class ".toList, " \x7b fun ".toList, "(".toList,
      ") \x7b\x7d \x7d".toList], text.all isCodeChar = true := by decide
  apply mask_of_code
  intro c hC
  unfold source at hC
  simp only [List.mem_append] at hC
  rcases hC with (((((hC | hC) | hC) | hC) | hC) | hC) | hC
  · exact List.all_eq_true.1 (hFixed _ (by simp)) c hC
  · exact isCodeChar_of_isListChar (isListChar_of_isWord (g.owner.run.isWord c hC))
  · exact List.all_eq_true.1 (hFixed _ (by simp)) c hC
  · exact isCodeChar_of_isListChar (g.chars_header c hC)
  · exact List.all_eq_true.1 (hFixed _ (by simp)) c hC
  · exact code_paramsText g.params c hC
  · exact List.all_eq_true.1 (hFixed _ (by simp)) c hC

end GenericFunction

/-- The class of a generic function is found, and its function exactly if no list in angle brackets
has another one inside. -/
theorem generic_function_found_iff_flat (g : GenericFunction) (path : String) :
    (classes g.source path).map (fun c => (c.name, c.methods.map (·.name))) =
      [(String.ofList g.owner.text, if g.flat then [String.ofList g.name] else [])] := by
  obtain ⟨f, hName, hStart, hFunctions⟩ := g.functions_source
  obtain ⟨d, hOwner, hCovers, hDeclarations⟩ := g.declarations_source
  rw [← hStart] at hCovers
  have hInner : innermost? [d] f.start = some d := by simp [innermost?, hCovers]
  rw [classes, g.mask_source]
  simp only [hDeclarations, hFunctions]
  cases g.flat with
  | true =>
    have hOwn : ownFunctions [d] [f] d = [f] := by simp [ownFunctions, hInner]
    have hTop : topLevelFunctions [d] [f] = [] := by simp [topLevelFunctions, hInner]
    simp only [if_true, hTop, List.isEmpty_nil, List.append_nil, List.map_cons, List.map_nil]
    rw [← hOwner, ← hName]
    show [(String.ofList d.name, ((ownFunctions [d] [f] d).map _).map _)] = _
    rw [hOwn]
    rfl
  | false =>
    rw [← hOwner]
    rfl

/-- `fun <K, V : Any?> Map<K, V>.pick(key: K, then: (V) -> Unit)` in a class `Cache`. -/
def flatReceiver : GenericFunction where
  owner := ⟨"Cache".toList, isRun_of_all (by decide +kernel), by decide +kernel⟩
  generics? := some ⟨"K, V : Any?".toList, by decide +kernel, by decide +kernel, by decide⟩
  receiver? := some (⟨"Map".toList, isRun_of_all (by decide +kernel), by decide +kernel⟩,
    ⟨"K, V".toList, by decide +kernel, by decide +kernel, by decide⟩)
  name := "pick".toList
  run := isRun_of_all (by decide +kernel)
  params := [⟨"key".toList, isRun_of_all (by decide +kernel), "K".toList, by decide,
      by decide +kernel, by decide⟩,
    ⟨"then".toList, isRun_of_all (by decide +kernel), "(V) -> Unit".toList, by decide,
      by decide +kernel, by decide⟩]

theorem generic_function_found_iff_flat_receiver : flatReceiver.flat = true ∧
    (classes flatReceiver.source "Cache.kt").map (fun c => (c.name, c.methods.map (·.name))) =
      [("Cache", ["pick"])] := by
  refine ⟨by decide, ?_⟩
  rw [generic_function_found_iff_flat flatReceiver "Cache.kt"]
  decide

/-- `fun <T : List<Int>> foo(x: T)` in a class `C`. -/
def nestedBound : GenericFunction where
  owner := ⟨"C".toList, isRun_of_all (by decide +kernel), by decide +kernel⟩
  generics? := some ⟨"T : List<Int>".toList, by decide +kernel, by decide +kernel, by decide⟩
  receiver? := none
  name := "foo".toList
  run := isRun_of_all (by decide +kernel)
  params := [⟨"x".toList, isRun_of_all (by decide +kernel), "T".toList, by decide,
    by decide +kernel, by decide⟩]

/-- A bound that has type arguments of its own hides the function. -/
theorem nested_bound_hides_function :
    nestedBound.source = "class C \x7b fun <T : List<Int>> foo(x: T) \x7b\x7d \x7d".toList ∧
    (classes nestedBound.source "C.kt").map (fun c => (c.name, c.methods.map (·.name))) =
      [("C", [])] := by
  decide +kernel

end SensorFlow.Kotlin
