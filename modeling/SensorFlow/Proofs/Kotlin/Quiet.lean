import SensorFlow.Proofs.Kotlin.FunctionHeader

/-!
# Stretches without a header

A header starts with a word of its own and a blank behind it. A scan for headers runs over a stretch
in which no such word starts, and it goes on behind what it recognises.
-/
namespace SensorFlow.Kotlin
open Text
set_option autoImplicit false

def headerWords : List (List Char) := "fun".toList :: declarationWords

/-- Whether a text starts with one of these words and a blank. -/
def opensHeader (text : List Char) : Bool :=
  headerWords.any fun word => (after? word text).any fun rest => rest.head?.any isBlank

/-- Whether no header starts in a text. `start` says whether a word may start here. -/
def headless (start : Bool) : List Char → Bool
  | [] => true
  | c :: rest => !(start && opensHeader (c :: rest)) && headless (!isWord c) rest

def isSmall (c : Char) : Bool := decide ('a' ≤ c) && decide (c ≤ 'z')

/-- Whether no word of a text starts with a small letter. -/
def capitalised (start : Bool) : List Char → Bool
  | [] => true
  | c :: rest => !(start && isSmall c) && capitalised (!isWord c) rest

theorem opensHeader_eq_true_iff {text : List Char} :
    opensHeader text = true ↔ ∃ word ∈ headerWords, ∃ blank rest,
      text = word ++ blank :: rest ∧ isBlank blank = true := by
  rw [opensHeader, List.any_eq_true]
  constructor
  · rintro ⟨word, hWord, hAfter⟩
    obtain ⟨spaced, hSpaced, hBlank⟩ := (Option.any_eq_true _ _).1 hAfter
    obtain ⟨blank, hHead, hBlank⟩ := (Option.any_eq_true _ _).1 hBlank
    obtain ⟨rest, rfl⟩ := List.head?_eq_some_iff.1 hHead
    exact ⟨word, hWord, blank, rest, (after?_eq_some_iff _ _ _).1 hSpaced, hBlank⟩
  · rintro ⟨word, hWord, blank, rest, hText, hBlank⟩
    refine ⟨word, hWord, ?_⟩
    rw [(after?_eq_some_iff _ _ _).2 hText]
    exact hBlank

theorem opensHeader_of_readFunction {before text : List Char} {header : List Char × List Char}
    (hRead : readFunction before text = some header) :
    atWordStart before = true ∧ opensHeader text = true := by
  obtain ⟨blank, written, hText, hBlank, hStart, _⟩ := pieces_of_readFunction hRead
  exact ⟨hStart, opensHeader_eq_true_iff.2 ⟨_, List.mem_cons_self, blank, _, hText, hBlank⟩⟩

theorem opensHeader_of_readDeclared {before text : List Char} {header : List Char × List Char}
    (hRead : readDeclared before text = some header) :
    atWordStart before = true ∧ opensHeader text = true := by
  obtain ⟨word, blank, blanks, hWord, hText, hBlanks, hStart, _⟩ := pieces_of_readDeclared hRead
  refine ⟨hStart, opensHeader_eq_true_iff.2
    ⟨word, List.mem_cons_of_mem _ hWord, blank, _, hText, ?_⟩⟩
  rcases hBlanks blank List.mem_cons_self with rfl | rfl <;> rfl

/-- No header starts inside `text`, with `before` in front of it and `rest` behind. -/
def Quiet (before text rest : List Char) : Prop :=
  ∀ front c back, text = front ++ c :: back → atWordStart (front.reverse ++ before) = true →
    opensHeader (c :: (back ++ rest)) = false

section Quiet
variable {before text more rest : List Char}

theorem Quiet.append (hText : Quiet before text (more ++ rest))
    (hMore : Quiet (text.reverse ++ before) more rest) : Quiet before (text ++ more) rest := by
  intro front c back hSplit hStart
  rcases List.append_eq_append_iff.1 hSplit with ⟨passed, rfl, hRest⟩ | ⟨ahead, rfl, hRest⟩
  · refine hMore passed c back hRest ?_
    simpa using hStart
  · cases ahead with
    | nil =>
      refine hMore [] c back hRest.symm ?_
      simpa using hStart
    | cons d ahead =>
      rw [List.cons_append] at hRest
      obtain ⟨rfl, rfl⟩ := List.cons.inj hRest
      rw [List.append_assoc]
      exact hText front c ahead rfl hStart

theorem Quiet.behind (hQuiet : Quiet before (text ++ more) rest) :
    Quiet (text.reverse ++ before) more rest := by
  intro front c back hSplit hStart
  refine hQuiet (text ++ front) c back ?_ ?_
  · rw [hSplit, List.append_assoc]
  · simpa using hStart

theorem atWordStart_cons (c : Char) (before : List Char) :
    atWordStart (c :: before) = !isWord c := rfl

theorem isSmall_of_opensHeader {c : Char} (hOpens : opensHeader (c :: rest) = true) :
    isSmall c = true := by
  obtain ⟨word, hWord, blank, behind, hText, _⟩ := opensHeader_eq_true_iff.1 hOpens
  have hHeads : ∀ word ∈ headerWords, word.head?.any isSmall = true := by decide
  have hHead := hHeads word hWord
  cases word with
  | nil => cases hHead
  | cons d word =>
    obtain ⟨rfl, _⟩ := List.cons.inj hText
    exact hHead

/-- A stretch is quiet if it is so at every step. -/
theorem quiet_cons {c : Char}
    (hHere : atWordStart before = true → opensHeader (c :: (text ++ rest)) = false)
    (hText : Quiet (c :: before) text rest) : Quiet before (c :: text) rest := by
  intro front d back hSplit hStart
  cases front with
  | nil =>
    obtain ⟨rfl, rfl⟩ := List.cons.inj hSplit
    exact hHere hStart
  | cons e front =>
    rw [List.cons_append] at hSplit
    obtain ⟨rfl, hBehind⟩ := List.cons.inj hSplit
    refine hText front d back hBehind ?_
    simpa using hStart

theorem quiet_nil : Quiet before [] rest := by
  intro front c back hSplit
  simp at hSplit

theorem quiet_of_capitalised (hText : capitalised (atWordStart before) text = true) :
    Quiet before text rest := by
  induction text generalizing before with
  | nil => exact quiet_nil
  | cons c text ih =>
    rw [capitalised, Bool.and_eq_true, Bool.not_eq_true'] at hText
    refine quiet_cons ?_ (ih hText.2)
    intro hStart
    by_contra hOpens
    have hSmall := isSmall_of_opensHeader (Bool.not_eq_false _ ▸ hOpens)
    rw [hStart, hSmall] at hText
    cases hText.1

theorem capitalised_mono (start : Bool) (hText : capitalised true text = true) :
    capitalised start text = true := by
  cases text with
  | nil => rfl
  | cons c text =>
    rw [capitalised, Bool.and_eq_true, Bool.true_and] at hText
    rw [capitalised, hText.2]
    cases start
    · rfl
    · rw [Bool.true_and, hText.1]
      rfl

theorem capitalised_append {start : Bool} (hText : capitalised start text = true)
    (hMore : capitalised true more = true) : capitalised start (text ++ more) = true := by
  induction text generalizing start with
  | nil => exact capitalised_mono start hMore
  | cons c text ih =>
    rw [capitalised, Bool.and_eq_true] at hText
    rw [List.cons_append, capitalised, hText.1, ih hText.2]
    rfl

/-- A blank behind a header word is seen before a sign that is none. -/
theorem opensHeader_of_append {sign : Char} (hSign : isHeaderChar sign = false)
    (hOpens : opensHeader (text ++ sign :: rest) = true) : opensHeader text = true := by
  obtain ⟨word, hWord, blank, behind, hText, hBlank⟩ := opensHeader_eq_true_iff.1 hOpens
  have hWords : ∀ word ∈ headerWords, word.all isHeaderChar = true := by decide
  have hPlain : ∀ c ∈ word ++ [blank], isHeaderChar c = true := by
    intro c hC
    rcases List.mem_append.1 hC with hC | hC
    · exact List.all_eq_true.1 (hWords word hWord) c hC
    · rw [List.mem_singleton.1 hC]
      exact isHeaderChar_of_isBlank hBlank
  have hSplit : text ++ sign :: rest = word ++ [blank] ++ behind := by rw [hText]; simp
  rcases List.append_eq_append_iff.1 hSplit with ⟨passed, hPassed, hRest⟩ | ⟨ahead, hAhead, _⟩
  · cases passed with
    | nil =>
      rw [List.append_nil] at hPassed
      exact opensHeader_eq_true_iff.2 ⟨word, hWord, blank, [], hPassed.symm, hBlank⟩
    | cons c passed =>
      obtain ⟨rfl, _⟩ := List.cons.inj hRest
      have hHeader := hPlain sign (by rw [hPassed]; simp)
      rw [hSign] at hHeader
      cases hHeader
  · exact opensHeader_eq_true_iff.2 ⟨word, hWord, blank, ahead, by rw [hAhead]; simp, hBlank⟩

theorem quiet_of_headless {sign : Char} (hSign : isHeaderChar sign = false)
    (hText : headless (atWordStart before) text = true) : Quiet before text (sign :: rest) := by
  induction text generalizing before with
  | nil => exact quiet_nil
  | cons c text ih =>
    rw [headless, Bool.and_eq_true, Bool.not_eq_true'] at hText
    refine quiet_cons ?_ (ih hText.2)
    intro hStart
    by_contra hOpens
    have hAhead : opensHeader (c :: text ++ sign :: rest) = true := Bool.not_eq_false _ ▸ hOpens
    rw [hStart, opensHeader_of_append hSign hAhead] at hText
    cases hText.1

/-- A word before a sign is no word of a header. -/
theorem quiet_of_isRun {sign : Char} (hSign : isHeaderChar sign = false) (hRun : IsRun text) :
    Quiet before text (sign :: rest) := by
  obtain ⟨c, word, rfl⟩ := List.exists_cons_of_ne_nil hRun.ne_nil
  have hWord : ∀ d ∈ word, isWord d = true := fun d hD => hRun.isWord d (List.mem_cons_of_mem _ hD)
  refine quiet_cons ?_ ?_
  · intro _
    by_contra hOpens
    have hAhead : opensHeader (c :: word ++ sign :: rest) = true := Bool.not_eq_false _ ▸ hOpens
    obtain ⟨_, _, blank, behind, hText, hBlank⟩ := opensHeader_eq_true_iff.1
      (opensHeader_of_append hSign hAhead)
    have hBoth := hRun.isWord blank (by rw [hText]; simp)
    rw [isWord_of_isBlank hBlank] at hBoth
    cases hBoth
  · -- behind its first character no word starts
    have hC : isWord c = true := hRun.isWord c List.mem_cons_self
    clear hRun
    induction word generalizing c before with
    | nil => exact quiet_nil
    | cons d word ih =>
      refine quiet_cons ?_ ?_
      · intro hStart
        rw [atWordStart_cons, hC] at hStart
        cases hStart
      · exact ih d (fun e hE => hWord e (List.mem_cons_of_mem _ hE)) (hWord d List.mem_cons_self)

/-- A reader of headers finds nothing in a quiet stretch. -/
theorem findFrom_of_quiet {α : Type} {read : Reader α}
    (hReads : ∀ before text found, read before text = some found →
      atWordStart before = true ∧ opensHeader text = true)
    (hQuiet : Quiet before text rest) (pos : Nat) :
    findFrom read before pos 0 (text ++ rest) =
      findFrom read (text.reverse ++ before) (pos + text.length) 0 rest := by
  induction text generalizing before pos with
  | nil => rfl
  | cons c text ih =>
    have hNone : read before (c :: (text ++ rest)) = none := by
      cases hRead : read before (c :: (text ++ rest)) with
      | none => rfl
      | some found =>
        obtain ⟨hStart, hOpens⟩ := hReads _ _ _ hRead
        rw [hQuiet [] c text rfl hStart] at hOpens
        cases hOpens
    have hHead : Quiet before ([c] ++ text) rest := hQuiet
    have hBehind : Quiet (c :: before) text rest := hHead.behind
    rw [List.cons_append, findFrom, hNone]
    simp only
    rw [ih hBehind, List.length_cons, List.reverse_cons, List.append_assoc, List.singleton_append,
      Nat.add_assoc, Nat.add_comm 1]

theorem findFrom_skip {α : Type} (read : Reader α) (before text rest : List Char) (pos : Nat) :
    findFrom read before pos text.length (text ++ rest) =
      findFrom read (text.reverse ++ before) (pos + text.length) 0 rest := by
  induction text generalizing before pos with
  | nil => rfl
  | cons c text ih =>
    rw [List.length_cons, List.cons_append, findFrom, ih, List.reverse_cons, List.append_assoc,
      List.singleton_append, Nat.add_assoc, Nat.add_comm 1]

theorem findFrom_of_read {α : Type} {read : Reader α} {value : α} (hText : text ≠ [])
    (hRead : read before (text ++ rest) = some (value, rest)) (pos : Nat) :
    findFrom read before pos 0 (text ++ rest) = ⟨pos, pos + text.length, value⟩ ::
      findFrom read (text.reverse ++ before) (pos + text.length) 0 rest := by
  obtain ⟨c, text, rfl⟩ := List.exists_cons_of_ne_nil hText
  rw [List.cons_append] at hRead
  have hSize : (c :: (text ++ rest)).length - rest.length = text.length + 1 := by
    simp only [List.length_cons, List.length_append]
    omega
  rw [List.cons_append, findFrom, hRead]
  simp only [hSize]
  rw [Nat.add_sub_cancel, List.length_cons, findFrom_skip, List.reverse_cons, List.append_assoc,
    List.singleton_append, Nat.add_assoc, Nat.add_comm 1]

end Quiet
end SensorFlow.Kotlin
