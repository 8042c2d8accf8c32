import Mathlib.Data.List.TakeDrop
import SensorFlow.Text.Scan

/-!
# What a scan finds

A reader leaves an end of the text that it was given. A hit of a scan is where its reader has
recognised something, and it stops behind what was recognised.
-/
namespace SensorFlow.Text
set_option autoImplicit false

theorem suffix_of_after? {word text rest : List Char} (hRead : after? word text = some rest) :
    rest <:+ text :=
  ⟨word, ((after?_eq_some_iff word text rest).1 hRead).symm⟩

theorem suffix_of_findSome?_after? {words : List (List Char)} {text rest : List Char}
    (hRead : words.findSome? (after? · text) = some rest) : rest <:+ text := by
  obtain ⟨word, _, hWord⟩ := List.exists_of_findSome?_eq_some hRead
  exact suffix_of_after? hWord

theorem append_of_readWord? {text word rest : List Char}
    (hRead : readWord? text = some (word, rest)) : text = word ++ rest := by
  rw [readWord?, List.span_eq_takeWhile_dropWhile] at hRead
  split at hRead
  · cases hRead
  · next hSpan =>
    obtain ⟨rfl, rfl⟩ := Prod.mk.inj (Option.some.inj hRead)
    obtain ⟨rfl, rfl⟩ := Prod.mk.inj hSpan
    exact (List.takeWhile_append_dropWhile).symm

theorem isWord_of_isBlank {c : Char} (hBlank : isBlank c = true) : isWord c = false := by
  have hTable : ∀ n ∈ [0x09, 0x0A, 0x0B, 0x0C, 0x0D, 0x1C, 0x1D, 0x1E, 0x1F, 0x20, 0x85, 0xA0,
      0x1680, 0x2000, 0x2001, 0x2002, 0x2003, 0x2004, 0x2005, 0x2006, 0x2007, 0x2008, 0x2009, 0x200A,
      0x2028, 0x2029, 0x202F, 0x205F, 0x3000], isWord (Char.ofNat n) = false := by
    decide +kernel
  rw [← Char.ofNat_toNat c]
  apply hTable
  simp only [isBlank, Bool.or_eq_true, Bool.and_eq_true, Nat.ble_eq, beq_iff_eq] at hBlank
  simp only [List.mem_cons, List.not_mem_nil, or_false]
  omega

theorem ne_of_isBlank {c other : Char} (hBlank : isBlank c = true)
    (hOther : isBlank other = false) : c ≠ other := by
  rintro rfl
  rw [hBlank] at hOther
  cases hOther

/-- What does not see a blank at either end does not see that a text is trimmed. -/
theorem apply_trim {α : Type} {f : List Char → α}
    (hFront : ∀ c text, isBlank c = true → f (c :: text) = f text)
    (hBack : ∀ c text, isBlank c = true → f (text ++ [c]) = f text) (text : List Char) :
    f (trim text) = f text := by
  have hStart : ∀ text, f (text.dropWhile isBlank) = f text := by
    intro text
    induction text with
    | nil => rfl
    | cons c text ih =>
      cases hC : isBlank c with
      | false => rw [List.dropWhile_cons_of_neg (by simp [hC])]
      | true => rw [List.dropWhile_cons_of_pos hC, ih, hFront c text hC]
  have hEnd : ∀ text : List Char, f (text.dropWhile isBlank).reverse = f text.reverse := by
    intro text
    induction text with
    | nil => rfl
    | cons c text ih =>
      cases hC : isBlank c with
      | false => rw [List.dropWhile_cons_of_neg (by simp [hC])]
      | true => rw [List.dropWhile_cons_of_pos hC, ih, List.reverse_cons, hBack c _ hC]
  rw [trim, hEnd, List.reverse_reverse, hStart]

theorem trim_cons_blank (c : Char) (text : List Char) (hBlank : isBlank c = true) :
    trim (c :: text) = trim text := by
  rw [trim, List.dropWhile_cons_of_pos hBlank, trim]

theorem trim_concat_blank (c : Char) (text : List Char) (hBlank : isBlank c = true) :
    trim (text ++ [c]) = trim text := by
  rw [trim, trim, List.dropWhile_append]
  split
  · next hEmpty =>
    rw [List.isEmpty_iff.1 hEmpty, List.dropWhile_cons_of_pos hBlank, List.dropWhile_nil]
  · rw [List.reverse_append, List.reverse_singleton, List.singleton_append,
      List.dropWhile_cons_of_pos hBlank]

theorem trim_trim (text : List Char) : trim (trim text) = trim text :=
  apply_trim trim_cons_blank trim_concat_blank text

theorem head?_dropWhile (p : Char → Bool) (text : List Char) :
    (text.dropWhile p).head?.any p = false := by
  induction text with
  | nil => rfl
  | cons c text ih =>
    cases hC : p c with
    | true => rwa [List.dropWhile_cons_of_pos hC]
    | false => simp [hC]

/-- A text is cut where a run of characters ends. -/
theorem span_eq_iff {p : Char → Bool} {text run rest : List Char} :
    text.span p = (run, rest) ↔
      text = run ++ rest ∧ (∀ c ∈ run, p c = true) ∧ rest.head?.any p = false := by
  rw [List.span_eq_takeWhile_dropWhile, Prod.mk.injEq]
  constructor
  · rintro ⟨rfl, rfl⟩
    refine ⟨List.takeWhile_append_dropWhile.symm, ?_, head?_dropWhile p text⟩
    exact List.all_eq_true.1 List.all_takeWhile
  · rintro ⟨rfl, hRun, hRest⟩
    rw [List.takeWhile_append_of_pos hRun, List.dropWhile_append_of_pos hRun]
    cases rest with
    | nil => simp
    | cons c rest =>
      have hC : p c = false := hRest
      simp [hC]

theorem dropWhile_eq {p : Char → Bool} {run rest : List Char} (hRun : ∀ c ∈ run, p c = true)
    (hRest : rest.head?.any p = false) : (run ++ rest).dropWhile p = rest := by
  have hSpan := span_eq_iff.2 ⟨rfl, hRun, hRest⟩
  rw [List.span_eq_takeWhile_dropWhile] at hSpan
  exact (Prod.mk.inj hSpan).2

theorem readWord?_eq_some_iff {text word rest : List Char} :
    readWord? text = some (word, rest) ↔ text = word ++ rest ∧ word ≠ [] ∧
      (∀ c ∈ word, isWord c = true) ∧ rest.head?.any isWord = false := by
  have hRead : readWord? text = some (word, rest) ↔
      text.span isWord = (word, rest) ∧ word ≠ [] := by
    rw [readWord?]
    split <;> grind
  rw [hRead, span_eq_iff]
  grind

theorem suffix_of_readBlanks? {text rest : List Char} (hRead : readBlanks? text = some rest) :
    rest <:+ text := by
  cases text with
  | nil => cases hRead
  | cons c cs =>
    rw [readBlanks?] at hRead
    split at hRead
    · obtain rfl := Option.some.inj hRead
      exact (List.dropWhile_suffix _).trans (List.suffix_cons _ _)
    · cases hRead

theorem readBlanks?_eq_some_iff {text rest : List Char} :
    readBlanks? text = some rest ↔ ∃ blank blanks, text = blank :: (blanks ++ rest) ∧
      isBlank blank = true ∧ (∀ c ∈ blanks, isBlank c = true) ∧ rest.head?.any isBlank = false := by
  constructor
  · intro hRead
    cases text with
    | nil => cases hRead
    | cons blank text =>
      rw [readBlanks?] at hRead
      split at hRead
      · next hBlank =>
        obtain rfl := Option.some.inj hRead
        refine ⟨blank, text.takeWhile isBlank, ?_, hBlank, List.all_eq_true.1 List.all_takeWhile,
          head?_dropWhile isBlank text⟩
        rw [List.takeWhile_append_dropWhile]
      · cases hRead
  · rintro ⟨blank, blanks, rfl, hBlank, hBlanks, hRest⟩
    rw [readBlanks?, if_pos hBlank, dropWhile_eq hBlanks hRest]

theorem le_skipBlanks (text : List Char) (pos : Nat) : pos ≤ skipBlanks text pos :=
  Nat.le_add_right _ _

/-- The reader recognises the value of the hit behind `passed`, where `text` stands at `pos` and
`before` precedes it. -/
structure Recognised {α : Type} (read : Reader α) (before text : List Char) (pos : Nat)
    (hit : Hit α) (passed rest behind : List Char) : Prop where
  text_eq : text = passed ++ rest
  start_eq : hit.start = pos + passed.length
  stop_eq : hit.stop = hit.start + (rest.length - behind.length)
  read_eq : read (passed.reverse ++ before) rest = some (hit.value, behind)

theorem Recognised.cons {α : Type} {read : Reader α} {before text : List Char} {pos : Nat}
    {hit : Hit α} {c : Char} {passed rest behind : List Char}
    (h : Recognised read (c :: before) text (pos + 1) hit passed rest behind) :
    Recognised read before (c :: text) pos hit (c :: passed) rest behind where
  text_eq := by rw [h.text_eq, List.cons_append]
  start_eq := by rw [h.start_eq, List.length_cons]; omega
  stop_eq := h.stop_eq
  read_eq := by simpa using h.read_eq

theorem Recognised.tail {α : Type} {read : Reader α} {before text : List Char} {pos : Nat}
    {hit : Hit α} {c : Char} {passed rest behind : List Char}
    (h : Recognised read before (c :: text) pos hit (c :: passed) rest behind) :
    Recognised read (c :: before) text (pos + 1) hit passed rest behind where
  text_eq := (List.cons.inj h.text_eq).2
  start_eq := by rw [h.start_eq, List.length_cons]; omega
  stop_eq := h.stop_eq
  read_eq := by simpa using h.read_eq

theorem exists_recognised_of_mem_findFrom {α : Type} {read : Reader α} {before text : List Char}
    {pos skip : Nat} {hit : Hit α} (hHit : hit ∈ findFrom read before pos skip text) :
    ∃ passed rest behind, Recognised read before text pos hit passed rest behind := by
  induction text generalizing before pos skip with
  | nil => simp [findFrom] at hHit
  | cons c cs ih =>
    cases skip with
    | succ skip =>
      rw [findFrom] at hHit
      obtain ⟨passed, rest, behind, hFound⟩ := ih hHit
      exact ⟨_, _, _, hFound.cons⟩
    | zero =>
      rw [findFrom] at hHit
      split at hHit
      · obtain ⟨passed, rest, behind, hFound⟩ := ih hHit
        exact ⟨_, _, _, hFound.cons⟩
      · next value behind hRead =>
        rcases List.mem_cons.1 hHit with rfl | hHit
        · exact ⟨[], c :: cs, behind, rfl, rfl, rfl, hRead⟩
        · obtain ⟨passed, rest, behind, hFound⟩ := ih hHit
          exact ⟨_, _, _, hFound.cons⟩

theorem start_le_stop_of_mem_findAll {α : Type} {read : Reader α} {text : List Char} {hit : Hit α}
    (hHit : hit ∈ findAll read text) : hit.start ≤ hit.stop := by
  obtain ⟨passed, rest, behind, hFound⟩ := exists_recognised_of_mem_findFrom hHit
  rw [hFound.stop_eq]
  omega

/-- What is recognised is found, unless something that was recognised earlier reaches over its
start. -/
theorem mem_findFrom_of_recognised {α : Type} {read : Reader α} {before text : List Char}
    {pos skip : Nat} {hit : Hit α} {passed rest behind : List Char}
    (hFound : Recognised read before text pos hit passed rest behind) (hRest : rest ≠ [])
    (hSkip : skip ≤ passed.length)
    (hFree : ∀ other passed rest behind, Recognised read before text pos other passed rest behind →
      other.start < hit.start → other.stop ≤ hit.start) :
    hit ∈ findFrom read before pos skip text := by
  induction text generalizing before pos skip passed with
  | nil => exact absurd (List.append_eq_nil_iff.1 hFound.text_eq.symm).2 hRest
  | cons c cs ih =>
    cases passed with
    | nil =>
      obtain rfl : skip = 0 := by simpa using hSkip
      obtain rfl : c :: cs = rest := hFound.text_eq
      have hRead := hFound.read_eq
      rw [List.reverse_nil, List.nil_append] at hRead
      rw [findFrom, hRead]
      have hStart : hit.start = pos := hFound.start_eq
      have hStop := hFound.stop_eq
      rw [hStart] at hStop
      refine List.mem_cons.2 (.inl ?_)
      cases hit
      simp_all
    | cons d passed =>
      obtain ⟨rfl, _⟩ := List.cons.inj hFound.text_eq
      have hLater := hFound.tail
      have hLaterFree : ∀ other passed rest behind,
          Recognised read (c :: before) cs (pos + 1) other passed rest behind →
            other.start < hit.start → other.stop ≤ hit.start :=
        fun other _ _ _ hOther => hFree other _ _ _ hOther.cons
      rw [List.length_cons] at hSkip
      cases skip with
      | succ skip => exact ih hLater (by omega) hLaterFree
      | zero =>
        rw [findFrom]
        split
        · exact ih hLater (Nat.zero_le _) hLaterFree
        · next value more hRead =>
          refine List.mem_cons_of_mem _ (ih hLater ?_ hLaterFree)
          -- the scan goes on where this hit stops, which is not behind the start of the other one
          have hHere : Recognised read before (c :: cs) pos
              ⟨pos, pos + ((c :: cs).length - more.length), value⟩ [] (c :: cs) more :=
            ⟨rfl, rfl, rfl, hRead⟩
          have hStart := hFound.start_eq
          rw [List.length_cons] at hStart
          have hStop := hFree _ _ _ _ hHere (by show pos < hit.start; omega)
          change pos + ((c :: cs).length - more.length) ≤ hit.start at hStop
          omega

theorem findFrom_sorted {α : Type} (read : Reader α) (before text : List Char) (pos skip : Nat) :
    (findFrom read before pos skip text).Pairwise fun a b => a.start < b.start := by
  induction text generalizing before pos skip with
  | nil => exact .nil
  | cons c cs ih =>
    cases skip with
    | succ skip => exact ih _ _ _
    | zero =>
      rw [findFrom]
      split
      · exact ih _ _ _
      · refine List.pairwise_cons.2 ⟨?_, ih _ _ _⟩
        intro hit hHit
        obtain ⟨passed, rest, behind, hFound⟩ := exists_recognised_of_mem_findFrom hHit
        have hStart := hFound.start_eq
        show pos < hit.start
        omega

theorem stop_le_of_mem_findFrom {α : Type} {read : Reader α} {before text : List Char}
    {pos skip : Nat} {hit : Hit α} (hHit : hit ∈ findFrom read before pos skip text) :
    hit.stop ≤ pos + text.length := by
  obtain ⟨passed, rest, behind, hFound⟩ := exists_recognised_of_mem_findFrom hHit
  rw [hFound.stop_eq, hFound.start_eq, hFound.text_eq, List.length_append]
  omega

/-- The same stretch of a text that has `k` more characters in front. -/
def shifted {α : Type} (k : Nat) (hit : Hit α) : Hit α := ⟨hit.start + k, hit.stop + k, hit.value⟩

theorem findFrom_add {α : Type} (read : Reader α) (before text : List Char) (pos skip k : Nat) :
    findFrom read before (pos + k) skip text =
      (findFrom read before pos skip text).map (shifted k) := by
  induction text generalizing before pos skip with
  | nil => rfl
  | cons c cs ih =>
    cases skip with
    | succ skip =>
      rw [findFrom, findFrom, ← ih, Nat.add_right_comm]
    | zero =>
      rw [findFrom, findFrom]
      cases read before (c :: cs) with
      | none =>
        rw [← ih, Nat.add_right_comm]
      | some found =>
        simp only [List.map_cons, shifted]
        rw [← ih, Nat.add_right_comm pos k 1, Nat.add_right_comm pos k]

/-- A reader that looks back over one character does not see the start of the text. -/
theorem findFrom_congr_before {α : Type} {read : Reader α}
    (hLast : ∀ c before other text, read (c :: before) text = read (c :: other) text)
    {before other : List Char} (hHere : ∀ text, read before text = read other text)
    (text : List Char) (pos skip : Nat) :
    findFrom read before pos skip text = findFrom read other pos skip text := by
  induction text generalizing before other pos skip with
  | nil => rfl
  | cons c cs ih =>
    have hNext : ∀ text, read (c :: before) text = read (c :: other) text := hLast c before other
    cases skip with
    | succ skip => exact ih hNext _ _
    | zero =>
      rw [findFrom, findFrom, hHere]
      cases read other (c :: cs) with
      | none => exact ih hNext _ _
      | some found => exact congrArg _ (ih hNext _ _)

/-- A scan may be cut where the reader never looks over the cut. -/
theorem findFrom_append {α : Type} {read : Reader α} {cut : List Char}
    (hCut : ∀ before text, text ≠ [] → read before (text ++ cut) =
      (read before text).map fun found => (found.1, found.2 ++ cut))
    (before text : List Char) (pos : Nat) {skip : Nat} (hSkip : skip ≤ text.length) :
    findFrom read before pos skip (text ++ cut) = findFrom read before pos skip text ++
      findFrom read (text.reverse ++ before) (pos + text.length) 0 cut := by
  induction text generalizing before pos skip with
  | nil =>
    obtain rfl : skip = 0 := by simpa using hSkip
    rfl
  | cons c cs ih =>
    have hBehind : ∀ next, next ≤ cs.length →
        findFrom read (c :: before) (pos + 1) next (cs ++ cut) =
          findFrom read (c :: before) (pos + 1) next cs ++
            findFrom read ((c :: cs).reverse ++ before) (pos + (c :: cs).length) 0 cut := by
      intro next hNext
      rw [ih (c :: before) (pos + 1) hNext, List.length_cons, List.reverse_cons, List.append_assoc,
        List.singleton_append, Nat.add_right_comm pos 1, Nat.add_assoc]
    cases skip with
    | succ skip => exact hBehind skip (Nat.le_of_succ_le_succ hSkip)
    | zero =>
      have hHere := hCut before (c :: cs) (List.cons_ne_nil _ _)
      rw [List.cons_append, findFrom, findFrom]
      rw [List.cons_append] at hHere
      rw [hHere]
      cases hRead : read before (c :: cs) with
      | none => exact hBehind 0 (Nat.zero_le _)
      | some found =>
        have hSize : (c :: (cs ++ cut)).length - (found.2 ++ cut).length =
            (c :: cs).length - found.2.length := by
          simp only [List.length_cons, List.length_append]
          omega
        simp only [Option.map_some, hSize]
        rw [hBehind _ (by simp only [List.length_cons]; omega), List.cons_append]

theorem exists_read_of_mem_findAll {α : Type} {read : Reader α} {text : List Char} {hit : Hit α}
    (hHit : hit ∈ findAll read text) :
    ∃ before behind, read before (text.drop hit.start) = some (hit.value, behind) := by
  obtain ⟨passed, rest, behind, hFound⟩ := exists_recognised_of_mem_findFrom hHit
  refine ⟨passed.reverse ++ [], behind, ?_⟩
  rw [hFound.start_eq, hFound.text_eq, Nat.zero_add, List.drop_left]
  exact hFound.read_eq

/-- A hit between two offsets is recognised in the text up to the second one. -/
theorem exists_read_of_mem_findBetween {α : Type} {read : Reader α} {text : List Char}
    {first last : Nat} {hit : Hit α} (hHit : hit ∈ findBetween read text first last) :
    ∃ before rest behind, rest <+: text.drop hit.start ∧
      read before rest = some (hit.value, behind) := by
  obtain ⟨passed, rest, behind, hFound⟩ := exists_recognised_of_mem_findFrom hHit
  refine ⟨_, rest, behind, ?_, hFound.read_eq⟩
  obtain ⟨more, hMore⟩ : passed ++ rest <+: text.drop first := by
    rw [← hFound.text_eq]
    exact List.take_prefix _ _
  rw [hFound.start_eq, ← List.drop_drop, ← hMore, List.append_assoc, List.drop_left]
  exact List.prefix_append rest more

/-- A word stands somewhere in a text. -/
def Occurs (word text : String) : Prop := word.toList <:+: text.toList

theorem startsWith_iff {word text : List Char} : startsWith word text = true ↔ word <+: text := by
  rw [startsWith, Option.isSome_iff_exists]
  apply exists_congr
  intro rest
  rw [after?_eq_some_iff, eq_comm]

theorem hasInfix_iff {word text : List Char} : hasInfix word text = true ↔ word <:+: text := by
  induction text with
  | nil => simp [hasInfix]
  | cons c text ih => rw [hasInfix, Bool.or_eq_true, startsWith_iff, ih, List.infix_cons_iff]

theorem contains_iff_occurs {text word : String} : contains text word = true ↔ Occurs word text :=
  hasInfix_iff

end SensorFlow.Text
