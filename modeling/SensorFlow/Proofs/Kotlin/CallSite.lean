import SensorFlow.Kotlin.Call
import SensorFlow.Proofs.Order
import SensorFlow.Proofs.Text.Scan

/-!
# The calls of a body, bracket by bracket

Calls are found by two passes, one for names with a receiver and one for bare names, whose hits are
merged by offset. Read backwards from its bracket, a call is told by the text before that bracket
alone. The two passes together find one call for each bracket that has a callee, in the order of the
brackets: nothing that is written before a bracket reaches over another one, so no hit hides a later
one.
-/
namespace SensorFlow.Kotlin
open Text
set_option autoImplicit false

def opensArguments (c : Char) : Bool := c == '(' || c == '{'

/-- What a bracket opens the arguments of, and the offset at which it is written. -/
structure Callee where
  start : Nat
  receiver : Option (List Char)
  name : List Char
  deriving Repr, DecidableEq

/-- The text before a plain, safe or asserted dot. Here and below a text before an offset runs
backwards. -/
def beforeDot? : List Char → Option (List Char)
  | '.' :: '?' :: before => some before
  | '.' :: '!' :: '!' :: before => some before
  | '.' :: before => some before
  | _ => none

def barsBareCall (c : Char) : Bool := isWord c || c == '.' || c == '@' || c == ':'

/-- The word before the blanks before a bracket, with the word before its dot if there is one.
Behind a dot without a word, or behind `@` or `:`, the word is no callee. -/
def calleeBefore? (before : List Char) : Option Callee := do
  let (name, before) ← readWord? (before.dropWhile isBlank)
  match (beforeDot? before).bind readWord? with
  | some (receiver, before) => some ⟨before.length, some receiver.reverse, name.reverse⟩
  | none =>
    if before.head?.any barsBareCall then none
    else some ⟨before.length, none, name.reverse⟩

/-- A bare word is a target only if it can be called; a call on `this` has no receiver. -/
def Callee.target? (callee : Callee) : Option String :=
  match callee.receiver with
  | some receiver =>
    let receiver := if receiver == "this".toList then [] else receiver
    some (callTarget (String.ofList receiver) (String.ofList callee.name))
  | none => if isCallable callee.name then some (String.ofList callee.name) else none

/-- The callee of the bracket at an offset. -/
def calleeAt? (body : List Char) (pos : Nat) : Option Callee :=
  if body[pos]?.any opensArguments then calleeBefore? (body.take pos).reverse else none

def dots : List (List Char) := [['.'], ['?', '.'], ['!', '!', '.']]

structure IsRun (word : List Char) : Prop where
  ne_nil : word ≠ []
  isWord : ∀ c ∈ word, isWord c = true

/-- `written` is a call up to its bracket: behind `front` a name stands alone, or a receiver, a dot
and a name, and then blanks. -/
inductive Written (front : List Char) : Option (List Char) → (name written : List Char) → Prop where
  | bare {name blanks : List Char} (hFront : front.getLast?.any barsBareCall = false)
      (hName : IsRun name) (hBlanks : ∀ c ∈ blanks, isBlank c = true) :
      Written front none name (name ++ blanks)
  | received {receiver dot name blanks : List Char}
      (hFront : front.getLast?.any isWord = false) (hReceiver : IsRun receiver)
      (hDot : dot ∈ dots) (hName : IsRun name) (hBlanks : ∀ c ∈ blanks, isBlank c = true) :
      Written front (some receiver) name (receiver ++ (dot ++ (name ++ blanks)))

/-- A reader recognises the calls that are written with such a receiver and name. -/
def ReadsCalls {α : Type} (read : Reader α) (receiver : α → Option (List Char))
    (name : α → List Char) : Prop :=
  ∀ (front text : List Char) (value : α) (behind : List Char),
    read front.reverse text = some (value, behind) ↔
      ∃ written bracket, text = written ++ bracket :: behind ∧ opensArguments bracket = true ∧
        Written front (receiver value) (name value) written

theorem opensArguments_iff {c : Char} : opensArguments c = true ↔ c = '(' ∨ c = '{' := by
  simp [opensArguments]

theorem kinds_of_opensArguments {c : Char} (hOpens : opensArguments c = true) :
    isBlank c = false ∧ isWord c = false := by
  rcases opensArguments_iff.1 hOpens with rfl | rfl <;> decide

theorem readOpening_eq_some_iff {text rest : List Char} :
    readOpening text = some rest ↔ ∃ blanks bracket, text = blanks ++ bracket :: rest ∧
      (∀ c ∈ blanks, isBlank c = true) ∧ opensArguments bracket = true := by
  constructor
  · intro hRead
    have hText := (List.takeWhile_append_dropWhile (p := isBlank) (l := text)).symm
    have hBlanks : ∀ c ∈ text.takeWhile isBlank, isBlank c = true :=
      List.all_eq_true.1 List.all_takeWhile
    rw [readOpening] at hRead
    split at hRead
    · next behind hBehind =>
      obtain rfl := Option.some.inj hRead
      rw [hBehind] at hText
      exact ⟨_, '(', hText, hBlanks, rfl⟩
    · next behind hBehind =>
      obtain rfl := Option.some.inj hRead
      rw [hBehind] at hText
      exact ⟨_, '{', hText, hBlanks, rfl⟩
    · cases hRead
  · rintro ⟨blanks, bracket, rfl, hBlanks, hBracket⟩
    have hBehind : (blanks ++ bracket :: rest).dropWhile isBlank = bracket :: rest :=
      dropWhile_eq hBlanks (kinds_of_opensArguments hBracket).1
    rw [readOpening, hBehind]
    rcases opensArguments_iff.1 hBracket with rfl | rfl <;> rfl

theorem readDot_eq_some_iff {text rest : List Char} :
    readDot text = some rest ↔ ∃ dot ∈ dots, text = dot ++ rest := by
  constructor
  · intro hRead
    unfold readDot at hRead
    split at hRead
    · exact ⟨['.'], by decide, congrArg ('.' :: ·) (Option.some.inj hRead)⟩
    · exact ⟨['?', '.'], by decide, congrArg ('?' :: '.' :: ·) (Option.some.inj hRead)⟩
    · exact ⟨['!', '!', '.'], by decide, congrArg ('!' :: '!' :: '.' :: ·) (Option.some.inj hRead)⟩
    · cases hRead
  · rintro ⟨dot, hDot, rfl⟩
    simp only [dots, List.mem_cons, List.not_mem_nil, or_false] at hDot
    rcases hDot with rfl | rfl | rfl <;> rfl

theorem readWord?_append {word rest : List Char} (hWord : IsRun word)
    (hRest : rest.head?.any Text.isWord = false) : readWord? (word ++ rest) = some (word, rest) :=
  readWord?_eq_some_iff.2 ⟨rfl, hWord.ne_nil, hWord.isWord, hRest⟩

theorem isRun_of_readWord? {text word rest : List Char}
    (hRead : readWord? text = some (word, rest)) :
    text = word ++ rest ∧ IsRun word ∧ rest.head?.any Text.isWord = false := by
  obtain ⟨hText, hNil, hWord, hRest⟩ := readWord?_eq_some_iff.1 hRead
  exact ⟨hText, ⟨hNil, hWord⟩, hRest⟩

theorem head?_blanks {blanks rest : List Char} {bracket : Char}
    (hBlanks : ∀ c ∈ blanks, isBlank c = true) (hBracket : opensArguments bracket = true) :
    (blanks ++ bracket :: rest).head?.any isWord = false := by
  cases blanks with
  | nil => exact (kinds_of_opensArguments hBracket).2
  | cons c blanks => exact isWord_of_isBlank (hBlanks c List.mem_cons_self)

theorem readsCalls_readBareCall : ReadsCalls readBareCall (fun _ => none) (fun name => name) := by
  intro front text name behind
  constructor
  · intro hRead
    rw [readBareCall] at hRead
    split at hRead
    · cases hRead
    · next hFront =>
      obtain ⟨⟨word, rest⟩, hWord, hRead⟩ := Option.bind_eq_some_iff.1 hRead
      obtain ⟨more, hOpening, hRead⟩ := Option.bind_eq_some_iff.1 hRead
      obtain ⟨rfl, rfl⟩ := Prod.mk.inj (Option.some.inj hRead)
      obtain ⟨rfl, hRun, _⟩ := isRun_of_readWord? hWord
      obtain ⟨blanks, bracket, rfl, hBlanks, hBracket⟩ := readOpening_eq_some_iff.1 hOpening
      refine ⟨word ++ blanks, bracket, by simp, hBracket, .bare ?_ hRun hBlanks⟩
      rw [← List.head?_reverse]
      exact Bool.eq_false_iff.2 hFront
  · rintro ⟨written, bracket, rfl, hBracket, hWritten⟩
    cases hWritten with
    | @bare name blanks hFront hName hBlanks =>
      have hWord : readWord? (name ++ (blanks ++ bracket :: behind)) = _ :=
        readWord?_append hName (head?_blanks hBlanks hBracket)
      have hOpening : readOpening (blanks ++ bracket :: behind) = some behind :=
        readOpening_eq_some_iff.2 ⟨blanks, bracket, rfl, hBlanks, hBracket⟩
      rw [← List.head?_reverse] at hFront
      rw [readBareCall, List.append_assoc, hWord]
      exact (if_neg (Bool.eq_false_iff.1 hFront)).trans (by simp [hOpening])

theorem kinds_of_mem_dots {dot : List Char} (hDot : dot ∈ dots) :
    dot ≠ [] ∧ ∀ c ∈ dot, isWord c = false ∧ opensArguments c = false := by
  have hAll : (dots.all fun dot => !dot.isEmpty &&
      dot.all fun c => !isWord c && !opensArguments c) = true := by decide
  simpa using List.all_eq_true.1 hAll dot hDot

theorem head?_of_mem_dots {dot run : List Char} (hDot : dot ∈ dots) (hSame : ∀ c, c ∈ run ↔ c ∈ dot)
    (rest : List Char) : (run ++ rest).head?.any isWord = false := by
  obtain ⟨hNe, hKinds⟩ := kinds_of_mem_dots hDot
  cases run with
  | nil =>
    have hNone : ∀ c, c ∉ dot := fun c hC => List.not_mem_nil ((hSame c).2 hC)
    exact absurd (List.eq_nil_iff_forall_not_mem.2 hNone) hNe
  | cons c run => exact (hKinds c ((hSame c).1 List.mem_cons_self)).1

theorem readsCalls_readReceiverCall :
    ReadsCalls readReceiverCall (fun value => some value.1) (fun value => value.2) := by
  rintro front text ⟨receiver, name⟩ behind
  constructor
  · intro hRead
    rw [readReceiverCall] at hRead
    split at hRead
    · cases hRead
    · next hFront =>
      obtain ⟨⟨word, rest⟩, hWord, hRead⟩ := Option.bind_eq_some_iff.1 hRead
      obtain ⟨⟨method, more⟩, hMember, hRead⟩ := Option.bind_eq_some_iff.1 hRead
      obtain ⟨last, hOpening, hRead⟩ := Option.bind_eq_some_iff.1 hRead
      obtain ⟨hPair, rfl⟩ := Prod.mk.inj (Option.some.inj hRead)
      obtain ⟨rfl, rfl⟩ := Prod.mk.inj hPair
      obtain ⟨dotted, hDotted, hMethod⟩ := Option.bind_eq_some_iff.1 hMember
      obtain ⟨rfl, hName, _⟩ := isRun_of_readWord? hMethod
      obtain ⟨dot, hDot, rfl⟩ := readDot_eq_some_iff.1 hDotted
      obtain ⟨rfl, hReceiver, _⟩ := isRun_of_readWord? hWord
      obtain ⟨blanks, bracket, rfl, hBlanks, hBracket⟩ := readOpening_eq_some_iff.1 hOpening
      refine ⟨word ++ (dot ++ (method ++ blanks)), bracket, by simp, hBracket, ?_⟩
      refine .received ?_ hReceiver hDot hName hBlanks
      simpa [atWordStart] using hFront
  · rintro ⟨written, bracket, rfl, hBracket, hWritten⟩
    cases hWritten with
    | @received receiver dot name blanks hFront hReceiver hDot hName hBlanks =>
      have hMethod : readWord? (name ++ (blanks ++ bracket :: behind)) = _ :=
        readWord?_append hName (head?_blanks hBlanks hBracket)
      have hWord : readWord? (receiver ++ (dot ++ (name ++ (blanks ++ bracket :: behind)))) = _ :=
        readWord?_append hReceiver (head?_of_mem_dots hDot (fun _ => .rfl) _)
      have hDotted : readDot (dot ++ (name ++ (blanks ++ bracket :: behind))) = _ :=
        readDot_eq_some_iff.2 ⟨dot, hDot, rfl⟩
      have hOpening : readOpening (blanks ++ bracket :: behind) = some behind :=
        readOpening_eq_some_iff.2 ⟨blanks, bracket, rfl, hBlanks, hBracket⟩
      have hStart : atWordStart front.reverse = true := by
        rw [atWordStart, List.head?_reverse, hFront]
        rfl
      simp only [List.append_assoc]
      rw [readReceiverCall, hWord]
      simp [hStart, hDotted, hMethod, hOpening]

theorem IsRun.reverse {word : List Char} (hWord : IsRun word) : IsRun word.reverse where
  ne_nil := by simpa using hWord.ne_nil
  isWord := by simpa using hWord.isWord

theorem head?_run {word : List Char} (rest : List Char) (hWord : IsRun word) :
    ∃ c, (word ++ rest).head? = some c ∧ isWord c = true := by
  obtain ⟨c, more, rfl⟩ := List.exists_cons_of_ne_nil hWord.ne_nil
  exact ⟨c, rfl, hWord.isWord c List.mem_cons_self⟩

theorem readWord?_before_blanks {name blanks front : List Char} (hName : IsRun name)
    (hBlanks : ∀ c ∈ blanks, isBlank c = true) (hFront : front.head?.any isWord = false) :
    readWord? ((blanks.reverse ++ (name.reverse ++ front)).dropWhile isBlank) =
      some (name.reverse, front) := by
  have hHead : (name.reverse ++ front).head?.any isBlank = false := by
    obtain ⟨c, hC, hWord⟩ := head?_run front hName.reverse
    rw [hC]
    by_contra hBlank
    rw [isWord_of_isBlank (by simpa using hBlank)] at hWord
    cases hWord
  rw [dropWhile_eq (by simpa using hBlanks) hHead]
  exact readWord?_append hName.reverse hFront

theorem beforeDot?_eq_none {before : List Char} (hBefore : before.head?.any barsBareCall = false) :
    beforeDot? before = none := by
  unfold beforeDot?
  split <;> simp_all [barsBareCall]

theorem beforeDot?_append {dot before : List Char} (hDot : dot ∈ dots)
    (hBefore : ∃ c, before.head? = some c ∧ isWord c = true) :
    beforeDot? (dot.reverse ++ before) = some before := by
  obtain ⟨c, hC, hWord⟩ := hBefore
  obtain ⟨more, rfl⟩ : ∃ more, before = c :: more := ⟨before.tail, List.eq_cons_of_mem_head? hC⟩
  simp only [dots, List.mem_cons, List.not_mem_nil, or_false] at hDot
  rcases hDot with rfl | rfl | rfl
  · show beforeDot? ('.' :: c :: more) = _
    -- the word character is not taken for a mark of a safe or asserted dot
    rw [beforeDot?]
    · rintro _ hSafe
      obtain ⟨rfl, _⟩ := List.cons.inj hSafe
      exact absurd hWord (by decide)
    · rintro _ hAsserted
      obtain ⟨rfl, _⟩ := List.cons.inj hAsserted
      exact absurd hWord (by decide)
  · rfl
  · rfl

theorem exists_dot_of_beforeDot? {before rest : List Char} (hDot : beforeDot? before = some rest) :
    ∃ dot ∈ dots, before = dot.reverse ++ rest := by
  unfold beforeDot? at hDot
  split at hDot
  · exact ⟨['?', '.'], by decide, congrArg ('.' :: '?' :: ·) (Option.some.inj hDot)⟩
  · exact ⟨['!', '!', '.'], by decide, congrArg ('.' :: '!' :: '!' :: ·) (Option.some.inj hDot)⟩
  · exact ⟨['.'], by decide, congrArg ('.' :: ·) (Option.some.inj hDot)⟩
  · cases hDot

theorem calleeBefore?_of_written {front written name : List Char} {receiver : Option (List Char)}
    (hWritten : Written front receiver name written) :
    calleeBefore? (front ++ written).reverse = some ⟨front.length, receiver, name⟩ := by
  cases hWritten with
  | @bare name blanks hFront hName hBlanks =>
    have hBars : front.reverse.head?.any barsBareCall = false := by rwa [List.head?_reverse]
    have hWord : front.reverse.head?.any isWord = false := by
      cases hLast : front.reverse.head? with
      | none => rfl
      | some c =>
        rw [hLast] at hBars
        simp_all [barsBareCall]
    simp only [List.reverse_append, List.append_assoc]
    rw [calleeBefore?, readWord?_before_blanks hName hBlanks hWord]
    simp [beforeDot?_eq_none hBars, hFront]
  | @received receiver dot name blanks hFront hReceiver hDot hName hBlanks =>
    have hWord : front.reverse.head?.any isWord = false := by rwa [List.head?_reverse]
    have hBefore := beforeDot?_append hDot (head?_run front.reverse hReceiver.reverse)
    simp only [List.reverse_append, List.append_assoc]
    rw [calleeBefore?, readWord?_before_blanks hName hBlanks
      (head?_of_mem_dots hDot (fun _ => List.mem_reverse) _)]
    simp [hBefore, readWord?_append hReceiver.reverse hWord]

theorem exists_written {before : List Char} {callee : Callee}
    (hCallee : calleeBefore? before.reverse = some callee) :
    ∃ front written, before = front ++ written ∧ callee.start = front.length ∧
      Written front callee.receiver callee.name written := by
  rw [calleeBefore?] at hCallee
  obtain ⟨⟨name, front⟩, hName, hCallee⟩ := Option.bind_eq_some_iff.1 hCallee
  obtain ⟨hText, hRun, _⟩ := isRun_of_readWord? hName
  have hBlanks : ∀ c ∈ (before.reverse.takeWhile isBlank).reverse, isBlank c = true := by
    intro c hC
    exact List.all_eq_true.1 List.all_takeWhile c (List.mem_reverse.1 hC)
  -- what was read backwards, put together again
  have hBefore : before = front.reverse ++
      (name.reverse ++ (before.reverse.takeWhile isBlank).reverse) := by
    rw [← List.reverse_append, ← List.reverse_append, List.append_assoc, ← hText,
      List.takeWhile_append_dropWhile, List.reverse_reverse]
  dsimp only at hCallee
  split at hCallee
  · next receiver rest hReceiver =>
    obtain ⟨dotted, hDotted, hRead⟩ := Option.bind_eq_some_iff.1 hReceiver
    obtain ⟨dot, hDot, rfl⟩ := exists_dot_of_beforeDot? hDotted
    obtain ⟨rfl, hReceiverRun, hRest⟩ := isRun_of_readWord? hRead
    obtain rfl := Option.some.inj hCallee
    refine ⟨rest.reverse, _, ?_, by simp,
      .received ?_ hReceiverRun.reverse hDot hRun.reverse hBlanks⟩
    · simpa using hBefore
    · rwa [List.getLast?_reverse]
  · split at hCallee
    · cases hCallee
    · next hBars =>
      obtain rfl := Option.some.inj hCallee
      refine ⟨front.reverse, _, hBefore, by simp, .bare ?_ hRun.reverse hBlanks⟩
      rw [List.getLast?_reverse]
      exact Bool.eq_false_iff.2 hBars

theorem Written.not_opens {front name written : List Char} {receiver : Option (List Char)}
    {c : Char}
    (hWritten : Written front receiver name written) (hC : c ∈ written) :
    opensArguments c = false := by
  by_contra hOpens
  obtain ⟨hBlank, hWord⟩ := kinds_of_opensArguments (by simpa using hOpens)
  cases hWritten with
  | bare hFront hName hBlanks =>
    rcases List.mem_append.1 hC with hC | hC
    · simp [hName.isWord c hC] at hWord
    · simp [hBlanks c hC] at hBlank
  | received hFront hReceiver hDot hName hBlanks =>
    simp only [List.mem_append] at hC
    rcases hC with hC | hC | hC | hC
    · simp [hReceiver.isWord c hC] at hWord
    · exact hOpens ((kinds_of_mem_dots hDot).2 c hC).2
    · simp [hName.isWord c hC] at hWord
    · simp [hBlanks c hC] at hBlank

theorem calleeAt?_eq_some_iff {body : List Char} {pos : Nat} {callee : Callee} :
    calleeAt? body pos = some callee ↔ ∃ front written bracket behind,
      body = front ++ (written ++ bracket :: behind) ∧ pos = front.length + written.length ∧
        opensArguments bracket = true ∧ callee.start = front.length ∧
        Written front callee.receiver callee.name written := by
  constructor
  · intro hCallee
    rw [calleeAt?] at hCallee
    split at hCallee
    · next hBracket =>
      obtain ⟨bracket, hAt, hOpens⟩ := (Option.any_eq_true _ _).1 hBracket
      obtain ⟨hPos, hGet⟩ := List.getElem?_eq_some_iff.1 hAt
      obtain ⟨front, written, hBefore, hStart, hWritten⟩ := exists_written hCallee
      refine ⟨front, written, bracket, body.drop (pos + 1), ?_, ?_, hOpens, hStart, hWritten⟩
      · rw [← List.append_assoc, ← hBefore, ← hGet, List.getElem_cons_drop, List.take_append_drop]
      · rw [← List.length_append, ← hBefore, List.length_take]
        omega
    · cases hCallee
  · rintro ⟨front, written, bracket, behind, rfl, rfl, hOpens, hStart, hWritten⟩
    rw [← List.append_assoc, ← List.length_append, calleeAt?, List.take_left]
    rw [if_pos (by simpa using hOpens), calleeBefore?_of_written hWritten, ← hStart]

theorem start_le_of_calleeAt? {body : List Char} {pos : Nat} {callee : Callee}
    (hCallee : calleeAt? body pos = some callee) : callee.start ≤ pos ∧ pos < body.length := by
  obtain ⟨front, written, bracket, behind, rfl, rfl, _, hStart, _⟩ :=
    calleeAt?_eq_some_iff.1 hCallee
  simp only [List.length_append, List.length_cons]
  omega

/-- Nothing that is written before a bracket holds another bracket. -/
theorem lt_start_of_calleeAt? {body : List Char} {pos later : Nat} {callee next : Callee}
    (hCallee : calleeAt? body pos = some callee) (hNext : calleeAt? body later = some next)
    (hLater : pos < later) : pos < next.start := by
  by_contra hInside
  obtain ⟨front, written, bracket, behind, rfl, rfl, _, hStart, hWritten⟩ :=
    calleeAt?_eq_some_iff.1 hNext
  rw [calleeAt?] at hCallee
  split at hCallee
  · next hBracket =>
    obtain ⟨c, hAt, hOpens⟩ := (Option.any_eq_true _ _).1 hBracket
    rw [List.getElem?_append_right (by omega), List.getElem?_append_left (by omega)] at hAt
    rw [hWritten.not_opens (List.mem_of_getElem? hAt)] at hOpens
    cases hOpens
  · cases hCallee

def callees (body : List Char) : List Callee := (List.range body.length).filterMap (calleeAt? body)

theorem mem_callees_iff {body : List Char} {callee : Callee} :
    callee ∈ callees body ↔ ∃ pos, calleeAt? body pos = some callee := by
  rw [callees, List.mem_filterMap]
  constructor
  · rintro ⟨pos, _, hCallee⟩
    exact ⟨pos, hCallee⟩
  · rintro ⟨pos, hCallee⟩
    exact ⟨pos, List.mem_range.2 (start_le_of_calleeAt? hCallee).2, hCallee⟩

theorem callees_sorted (body : List Char) :
    (callees body).Pairwise fun a b => a.start < b.start := by
  refine List.pairwise_filterMap.2 (List.pairwise_lt_range.imp ?_)
  intro pos later hLater callee hCallee next hNext
  have hStart := (start_le_of_calleeAt? hCallee).1
  have hApart := lt_start_of_calleeAt? hCallee hNext hLater
  omega

section Pass
variable {α : Type} {read : Reader α} {receiver : α → Option (List Char)} {name : α → List Char}

def calleeOf (receiver : α → Option (List Char)) (name : α → List Char) (hit : Hit α) : Callee :=
  ⟨hit.start, receiver hit.value, name hit.value⟩

theorem calleeAt?_of_recognised (hCalls : ReadsCalls read receiver name) {body : List Char}
    {hit : Hit α} {passed rest behind : List Char}
    (hFound : Recognised read [] body 0 hit passed rest behind) :
    ∃ pos, hit.stop = pos + 1 ∧ calleeAt? body pos = some (calleeOf receiver name hit) := by
  obtain ⟨rfl, hStart, hStop, hRead⟩ := hFound
  rw [List.append_nil] at hRead
  obtain ⟨written, bracket, rfl, hOpens, hWritten⟩ := (hCalls _ _ _ _).1 hRead
  refine ⟨passed.length + written.length, ?_, calleeAt?_eq_some_iff.2
    ⟨passed, written, bracket, behind, rfl, rfl, hOpens, hStart.trans (Nat.zero_add _), hWritten⟩⟩
  rw [hStop, hStart, List.length_append, List.length_cons]
  omega

theorem exists_recognised_of_calleeAt? (hCalls : ReadsCalls read receiver name) {body : List Char}
    {hit : Hit α} {pos : Nat} (hStop : hit.stop = pos + 1)
    (hCallee : calleeAt? body pos = some (calleeOf receiver name hit)) :
    ∃ passed rest behind, rest ≠ [] ∧ Recognised read [] body 0 hit passed rest behind := by
  obtain ⟨front, written, bracket, behind, rfl, rfl, hOpens, hStart, hWritten⟩ :=
    calleeAt?_eq_some_iff.1 hCallee
  change hit.start = front.length at hStart
  refine ⟨front, written ++ bracket :: behind, behind, by simp, rfl, by omega, ?_, ?_⟩
  · rw [hStop, hStart, List.length_append, List.length_cons]
    omega
  · rw [List.append_nil]
    exact (hCalls _ _ _ _).2 ⟨written, bracket, rfl, hOpens, hWritten⟩

theorem mem_findAll_iff (hCalls : ReadsCalls read receiver name) {body : List Char} {hit : Hit α} :
    hit ∈ findAll read body ↔
      ∃ pos, hit.stop = pos + 1 ∧ calleeAt? body pos = some (calleeOf receiver name hit) := by
  constructor
  · intro hHit
    obtain ⟨passed, rest, behind, hFound⟩ := exists_recognised_of_mem_findFrom hHit
    exact calleeAt?_of_recognised hCalls hFound
  · rintro ⟨pos, hStop, hCallee⟩
    obtain ⟨passed, rest, behind, hRest, hFound⟩ :=
      exists_recognised_of_calleeAt? hCalls hStop hCallee
    refine mem_findFrom_of_recognised hFound hRest (Nat.zero_le _) ?_
    -- what was recognised earlier stops with its bracket, which stands before this call
    intro other _ _ _ hOther hEarlier
    obtain ⟨first, hFirst, hOther⟩ := calleeAt?_of_recognised hCalls hOther
    have hStart : hit.start ≤ pos := (start_le_of_calleeAt? hCallee).1
    rcases Nat.lt_trichotomy first pos with hLess | rfl | hLess
    · have hApart : first < hit.start := lt_start_of_calleeAt? hOther hCallee hLess
      omega
    · have hSame := congrArg Callee.start (Option.some.inj (hOther.symm.trans hCallee))
      change other.start = hit.start at hSame
      omega
    · have hApart : pos < other.start := lt_start_of_calleeAt? hCallee hOther hLess
      omega

/-- One pass of a reader finds the callees of its kind, in the order of their brackets. -/
theorem map_findAll_eq (hCalls : ReadsCalls read receiver name) (ofKind : Callee → Bool)
    (hKind : ∀ callee, ofKind callee = true ↔
      ∃ value, receiver value = callee.receiver ∧ name value = callee.name) (body : List Char) :
    (findAll read body).map (calleeOf receiver name) = (callees body).filter ofKind := by
  refine eq_of_key_sorted Callee.start ?_ ((callees_sorted body).filter _) ?_
  · exact List.pairwise_map.2 (findFrom_sorted read [] body 0 0)
  -- both lists are in the order of their starts, so it is enough that they have the same members
  · intro callee
    rw [List.mem_filter, mem_callees_iff, hKind, List.mem_map]
    constructor
    · rintro ⟨hit, hHit, rfl⟩
      obtain ⟨pos, _, hCallee⟩ := (mem_findAll_iff hCalls).1 hHit
      exact ⟨⟨pos, hCallee⟩, hit.value, rfl, rfl⟩
    · rintro ⟨⟨pos, hCallee⟩, value, hReceiver, hName⟩
      refine ⟨⟨callee.start, pos + 1, value⟩, (mem_findAll_iff hCalls).2 ⟨pos, rfl, ?_⟩, ?_⟩
      · rw [hCallee, calleeOf, hReceiver, hName]
      · rw [calleeOf, hReceiver, hName]

end Pass

def Callee.located? (callee : Callee) : Option (Nat × String) :=
  callee.target?.map (callee.start, ·)

theorem received_eq (body : List Char) :
    ((findAll readReceiverCall body).map fun hit =>
      (hit.start, callTarget
        (String.ofList (if hit.value.1 == "this".toList then [] else hit.value.1))
        (String.ofList hit.value.2))) =
      ((callees body).filter (·.receiver.isSome)).filterMap Callee.located? := by
  have hKind : ∀ callee : Callee, callee.receiver.isSome = true ↔ ∃ value : List Char × List Char,
      some value.1 = callee.receiver ∧ value.2 = callee.name := by
    intro callee
    cases callee.receiver <;> simp
  rw [← map_findAll_eq readsCalls_readReceiverCall _ hKind, List.filterMap_map]
  rw [← List.filterMap_eq_map]
  congr

theorem bare_eq (body : List Char) :
    (((findAll readBareCall body).filter fun hit => isCallable hit.value).map fun hit =>
      (hit.start, String.ofList hit.value)) =
      ((callees body).filter (!·.receiver.isSome)).filterMap Callee.located? := by
  have hKind : ∀ callee : Callee, (!callee.receiver.isSome) = true ↔ ∃ name : List Char,
      none = callee.receiver ∧ name = callee.name := by
    intro callee
    cases callee.receiver <;> simp
  rw [← map_findAll_eq readsCalls_readBareCall _ hKind, List.filterMap_map]
  rw [← List.filterMap_eq_map, List.filterMap_filter]
  congr
  funext hit
  show (if isCallable hit.value then _ else none) =
    Option.map _ (if isCallable hit.value then _ else none)
  split <;> rfl

theorem locatedCalls_eq (body : List Char) :
    locatedCalls body = (callees body).filterMap Callee.located? := by
  have hSorted : ((callees body).filterMap Callee.located?).Pairwise fun a b => a.1 < b.1 := by
    refine List.pairwise_filterMap.2 ((callees_sorted body).imp ?_)
    intro callee next hLess a hA b hB
    obtain ⟨_, _, rfl⟩ := Option.map_eq_some_iff.1 hA
    obtain ⟨_, _, rfl⟩ := Option.map_eq_some_iff.1 hB
    exact hLess
  have hSplit := List.filter_append_perm (fun c : Callee => c.receiver.isSome) (callees body)
  have hPerm := hSplit.filterMap Callee.located?
  rw [List.filterMap_append, ← received_eq, ← bare_eq] at hPerm
  exact mergeSort_eq_of_perm Prod.fst hPerm hSorted

theorem calls_eq_filterMap_callees (body : List Char) :
    calls body = (callees body).filterMap Callee.target? := by
  rw [calls, locatedCalls_eq, List.map_filterMap]
  congr
  funext callee
  cases hTarget : callee.target? <;> simp [Callee.located?, hTarget]

/-- The calls of a body are the targets of its brackets, one for each bracket that has a target and
in the order of the brackets. -/
theorem calls_eq_bracket_targets (body : List Char) :
    calls body = (List.range body.length).filterMap fun pos =>
      (calleeAt? body pos).bind Callee.target? := by
  rw [calls_eq_filterMap_callees, callees, List.filterMap_filterMap]

end SensorFlow.Kotlin
