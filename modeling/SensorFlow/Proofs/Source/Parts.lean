import SensorFlow.Proofs.Source.Balance
import SensorFlow.Proofs.Text.Scan

/-!
# Parts between commas

A text is cut at its commas outside all brackets. Brackets of all kinds count together, and the
depth is held at zero where one closes that was never opened. The parts are a normal form: written
with commas in between they are cut into the same parts again, because each is scanned from depth
zero, behind a comma or a blank, as it was before.
-/
namespace SensorFlow.Source
open Text
set_option autoImplicit false

def OpensGroupAt (text : List Char) (i : Nat) : Prop :=
  ∃ opening ∈ ['(', '<', '[', '{'], text[i]? = some opening

def ClosesGroupAt (text : List Char) (i : Nat) : Prop :=
  ∃ closing ∈ [')', '>', ']', '}'], ClosesAt text closing i

instance (text : List Char) (i : Nat) : Decidable (OpensGroupAt text i) :=
  inferInstanceAs (Decidable (∃ _ ∈ _, _))

instance (text : List Char) (i : Nat) : Decidable (ClosesGroupAt text i) :=
  inferInstanceAs (Decidable (∃ _ ∈ _, _))

/-- How many brackets are open at an offset, where one that closes nothing does not count. -/
def groupDepth (text : List Char) : Nat → Nat
  | 0 => 0
  | i + 1 =>
    if OpensGroupAt text i then groupDepth text i + 1
    else if ClosesGroupAt text i then groupDepth text i - 1
    else groupDepth text i

/-- A comma outside all brackets. -/
def CutsAt (text : List Char) (i : Nat) : Prop := text[i]? = some ',' ∧ groupDepth text i = 0

instance (text : List Char) (i : Nat) : Decidable (CutsAt text i) :=
  inferInstanceAs (Decidable (_ ∧ _))

/-- The offsets of such commas from `pos` on. -/
def cutsFrom (text : List Char) (pos : Nat) : List Nat :=
  (List.range' pos (text.length - pos)).filter fun i => CutsAt text i

/-- The stretches from `start` on that end at the given offsets or at the end of the text. -/
def stretches (text : List Char) (start : Nat) (cuts : List Nat) : List (List Char) :=
  List.zipWith (slice text) (start :: cuts.map (· + 1)) (cuts ++ [text.length])

/-- The stretches of a text between its commas outside all brackets. -/
def segments (text : List Char) : List (List Char) := stretches text 0 (cutsFrom text 0)

section Offsets
variable {text : List Char} {start pos : Nat} {c : Char}

theorem opensGroupAt_iff (hHere : text[pos]? = some c) :
    OpensGroupAt text pos ↔ opensGroup c = true := by
  simp [OpensGroupAt, opensGroup, hHere, or_assoc]

theorem closesGroupAt_iff (hHere : text[pos]? = some c) :
    ClosesGroupAt text pos ↔ closesGroup (preceding text pos) c = true := by
  simp only [ClosesGroupAt, ClosesAt, closesGroup, hHere]
  grind

theorem groupDepth_succ (hHere : text[pos]? = some c) :
    groupDepth text (pos + 1) = depthAfter (preceding text pos) c (groupDepth text pos) := by
  simp only [groupDepth, depthAfter, opensGroupAt_iff hHere, closesGroupAt_iff hHere]

theorem depthAfter_comma (before : Option Char) (depth : Nat) :
    depthAfter before ',' depth = depth := rfl

theorem cutsAt_iff (hHere : text[pos]? = some c) :
    CutsAt text pos ↔ (c == ',' && groupDepth text (pos + 1) == 0) = true := by
  rw [CutsAt, hHere, Option.some.injEq, Bool.and_eq_true, beq_iff_eq, beq_iff_eq]
  refine and_congr_right ?_
  rintro rfl
  rw [groupDepth_succ hHere, depthAfter_comma]

theorem cutsFrom_of_lt (hPos : pos < text.length) :
    cutsFrom text pos =
      if CutsAt text pos then pos :: cutsFrom text (pos + 1) else cutsFrom text (pos + 1) := by
  have hLength : text.length - pos = text.length - (pos + 1) + 1 := by omega
  rw [cutsFrom, hLength, List.range'_succ, List.filter_cons]
  simp [cutsFrom]

theorem stretches_cons (text : List Char) (start cut : Nat) (cuts : List Nat) :
    stretches text start (cut :: cuts) =
      slice text start cut :: stretches text (cut + 1) cuts := rfl

theorem slice_self (text : List Char) (pos : Nat) : slice text pos pos = [] := by
  rw [slice, Nat.sub_self, List.take_zero]

theorem slice_succ (hStart : start ≤ pos) (hHere : text[pos]? = some c) :
    slice text start (pos + 1) = slice text start pos ++ [c] := by
  rw [slice, Nat.succ_sub hStart, List.take_add_one, List.getElem?_drop, Nat.add_sub_cancel' hStart,
    hHere]
  rfl

theorem cutTopLevel_drop (hStart : start ≤ pos) (hPos : pos ≤ text.length) :
    cutTopLevel (· == ',') (preceding text pos) (groupDepth text pos) (slice text start pos).reverse
      (text.drop pos) = stretches text start (cutsFrom text pos) := by
  -- the unfinished stretch goes from `start` to `pos`
  induction hLength : text.length - pos generalizing start pos with
  | zero =>
    obtain rfl : pos = text.length := by omega
    simp [cutsFrom, stretches, cutTopLevel]
  | succ length ih =>
    have hLess : pos < text.length := by omega
    have hHere : text[pos]? = some text[pos] := List.getElem?_eq_getElem hLess
    have hNext : preceding text (pos + 1) = some text[pos] := hHere
    rw [List.drop_eq_getElem_cons hLess, cutTopLevel, ← groupDepth_succ hHere, ← hNext,
      cutsFrom_of_lt hLess]
    by_cases hCuts : CutsAt text pos
    · have hRest := ih (Nat.le_refl (pos + 1)) hLess (by omega)
      rw [slice_self, List.reverse_nil] at hRest
      rw [if_pos ((cutsAt_iff hHere).1 hCuts), if_pos hCuts, stretches_cons, hRest,
        List.reverse_reverse]
    · have hRest := ih (Nat.le_succ_of_le hStart) hLess (by omega)
      rw [slice_succ hStart hHere, List.reverse_append] at hRest
      rw [if_neg (mt (cutsAt_iff hHere).2 hCuts), if_neg hCuts]
      exact hRest

theorem cutTopLevel_eq_segments (text : List Char) :
    cutTopLevel (· == ',') none 0 [] text = segments text :=
  cutTopLevel_drop (Nat.le_refl 0) (Nat.zero_le text.length)

end Offsets

/-- The depth behind a text without a comma outside brackets. -/
def depthThrough (before : Option Char) (depth : Nat) : List Char → Option Nat
  | [] => some depth
  | c :: rest =>
    let depth := depthAfter before c depth
    if c = ',' ∧ depth = 0 then none else depthThrough (some c) depth rest

section Context
variable {before : Option Char} {c : Char}

/-- Of the character before only an arrow's shaft counts. -/
theorem depthAfter_of_ne (hBefore : before ≠ some '-') (c : Char) (depth : Nat) :
    depthAfter before c depth = depthAfter none c depth := by
  simp [depthAfter, closesGroup, hBefore]

theorem depthThrough_of_ne (hBefore : before ≠ some '-') (depth : Nat) (text : List Char) :
    depthThrough before depth text = depthThrough none depth text := by
  cases text with
  | nil => rfl
  | cons c text => rw [depthThrough, depthThrough, depthAfter_of_ne hBefore]

theorem cutTopLevel_of_ne (hBefore : before ≠ some '-') (depth : Nat) (current text : List Char) :
    cutTopLevel (· == ',') before depth current text =
      cutTopLevel (· == ',') none depth current text := by
  cases text with
  | nil => rfl
  | cons c text => rw [cutTopLevel, cutTopLevel, depthAfter_of_ne hBefore]

theorem depthAfter_blank (hBlank : isBlank c = true) (before : Option Char) (depth : Nat) :
    depthAfter before c depth = depth := by
  have hOpens : ¬opensGroup c = true := by
    simp only [opensGroup, Bool.or_eq_true, beq_iff_eq]
    rintro (((rfl | rfl) | rfl) | rfl) <;> cases hBlank
  have hCloses : ¬closesGroup before c = true := by
    simp only [closesGroup, Bool.or_eq_true, Bool.and_eq_true, beq_iff_eq]
    rintro (((rfl | rfl) | rfl) | ⟨rfl, _⟩) <;> cases hBlank
  rw [depthAfter, if_neg hOpens, if_neg hCloses]

theorem depthThrough_blank (hBlank : isBlank c = true) (before : Option Char) (depth : Nat)
    (text : List Char) : depthThrough before depth (c :: text) = depthThrough none depth text := by
  rw [depthThrough, depthAfter_blank hBlank]
  have hComma : ¬(c = ',' ∧ depth = 0) := fun hBoth => ne_of_isBlank hBlank rfl hBoth.1
  simp only [if_neg hComma]
  refine depthThrough_of_ne ?_ depth text
  rw [ne_eq, Option.some.injEq]
  exact ne_of_isBlank hBlank rfl

theorem depthThrough_concat_blank (hBlank : isBlank c = true) (before : Option Char) (depth : Nat)
    (text : List Char) :
    depthThrough before depth (text ++ [c]) = depthThrough before depth text := by
  induction text generalizing before depth with
  | nil => rw [List.nil_append, depthThrough_blank hBlank, depthThrough, depthThrough]
  | cons d text ih =>
    rw [List.cons_append, depthThrough, depthThrough]
    simp only [ih]

theorem depthThrough_trim (depth : Nat) (text : List Char) :
    depthThrough none depth (trim text) = depthThrough none depth text :=
  apply_trim (fun _ text hBlank => depthThrough_blank hBlank none depth text)
    (fun _ text hBlank => depthThrough_concat_blank hBlank none depth text) text

end Context

section Cuts
variable {before : Option Char} {depth last : Nat} {text : List Char}

theorem inside_of_depthThrough {c : Char}
    (hText : depthThrough before depth (c :: text) = some last) :
    depthThrough (some c) (depthAfter before c depth) text = some last ∧
      ∀ current rest, cutTopLevel (· == ',') before depth current (c :: rest) =
        cutTopLevel (· == ',') (some c) (depthAfter before c depth) (c :: current) rest := by
  rw [depthThrough] at hText
  split at hText
  · cases hText
  · next hInside =>
    refine ⟨hText, fun current rest => ?_⟩
    rw [cutTopLevel]
    simp only [Bool.and_eq_true, beq_iff_eq, if_neg hInside]

theorem cutTopLevel_whole (hText : depthThrough before depth text = some last)
    (current : List Char) :
    cutTopLevel (· == ',') before depth current text = [current.reverse ++ text] := by
  induction text generalizing before depth current with
  | nil => rw [cutTopLevel, List.append_nil]
  | cons c text ih =>
    obtain ⟨hRest, hCut⟩ := inside_of_depthThrough hText
    rw [hCut, ih hRest, List.reverse_cons, List.append_assoc, List.singleton_append]

theorem cutTopLevel_append (hText : depthThrough before depth text = some 0)
    (current rest : List Char) :
    cutTopLevel (· == ',') before depth current (text ++ ',' :: rest) =
      (current.reverse ++ text) :: cutTopLevel (· == ',') none 0 [] rest := by
  induction text generalizing before depth current with
  | nil =>
    obtain rfl : depth = 0 := Option.some.inj hText
    rw [List.nil_append, List.append_nil, cutTopLevel, depthAfter_comma, if_pos (by decide),
      cutTopLevel_of_ne (by decide)]
  | cons c text ih =>
    obtain ⟨hRest, hCut⟩ := inside_of_depthThrough hText
    rw [List.cons_append, hCut, ih hRest, List.reverse_cons, List.append_assoc,
      List.singleton_append]

end Cuts

theorem whole_or_cut (before : Option Char) (depth : Nat) (text : List Char) :
    (∃ last, depthThrough before depth text = some last) ∨
      ∃ front rest, text = front ++ ',' :: rest ∧ depthThrough before depth front = some 0 := by
  induction text generalizing before depth with
  | nil => exact .inl ⟨depth, rfl⟩
  | cons c text ih =>
    by_cases hCut : c = ',' ∧ depthAfter before c depth = 0
    · obtain ⟨rfl, hDepth⟩ := hCut
      rw [depthAfter_comma] at hDepth
      exact .inr ⟨[], text, rfl, congrArg some hDepth⟩
    · have hThrough : ∀ text, depthThrough before depth (c :: text) =
          depthThrough (some c) (depthAfter before c depth) text := fun _ => if_neg hCut
      rcases ih (some c) (depthAfter before c depth) with ⟨last, hLast⟩ | ⟨front, rest, rfl, hFront⟩
      · exact .inl ⟨last, (hThrough text).trans hLast⟩
      · exact .inr ⟨c :: front, rest, rfl, (hThrough front).trans hFront⟩

/-- A text has no comma outside brackets, or it is cut at the first one. -/
theorem cut_induction {motive : List Char → Prop}
    (whole : ∀ text last, depthThrough none 0 text = some last → motive text)
    (cut : ∀ front rest, depthThrough none 0 front = some 0 → motive rest →
      motive (front ++ ',' :: rest)) (text : List Char) : motive text := by
  induction hLength : text.length using Nat.strongRecOn generalizing text with
  | ind length ih =>
    rcases whole_or_cut none 0 text with ⟨last, hLast⟩ | ⟨front, rest, rfl, hFront⟩
    · exact whole text last hLast
    · refine cut front rest hFront (ih rest.length ?_ rest rfl)
      rw [← hLength, List.length_append, List.length_cons]
      omega

/-- The part that a stretch between commas gives, if it is not blank. -/
def partOf (segment : List Char) : List (List Char) := [trim segment].filter (!·.isEmpty)

theorem commaParts_whole {text : List Char} {last : Nat}
    (hText : depthThrough none 0 text = some last) : commaParts text = partOf text := by
  rw [commaParts, splitTopLevel, cutTopLevel_whole hText]
  rfl

theorem commaParts_append {front : List Char} (hFront : depthThrough none 0 front = some 0)
    (rest : List Char) : commaParts (front ++ ',' :: rest) = partOf front ++ commaParts rest := by
  rw [commaParts, splitTopLevel, cutTopLevel_append hFront, List.map_cons]
  exact List.filter_append [trim front] _

theorem partOf_cases (segment : List Char) :
    partOf segment = [] ∨
      partOf segment = [trim segment] ∧ partOf (trim segment) = [trim segment] := by
  by_cases hEmpty : trim segment = []
  · exact .inl (by simp [partOf, hEmpty])
  · exact .inr ⟨by simp [partOf, hEmpty], by simp [partOf, hEmpty, trim_trim]⟩

theorem commaParts_blank {c : Char} (hBlank : isBlank c = true) (text : List Char) :
    commaParts (c :: text) = commaParts text := by
  have hPart : ∀ segment, partOf (c :: segment) = partOf segment := by
    intro segment
    rw [partOf, partOf, trim_cons_blank c segment hBlank]
  rcases whole_or_cut none 0 text with ⟨last, hLast⟩ | ⟨front, rest, rfl, hFront⟩
  · rw [commaParts_whole hLast, ← hPart]
    exact commaParts_whole ((depthThrough_blank hBlank none 0 text).trans hLast)
  · rw [commaParts_append hFront, ← hPart]
    exact commaParts_append ((depthThrough_blank hBlank none 0 front).trans hFront) rest

/-- Parts that can be written with commas in between: none is blank or has blanks around it, none
has a comma outside brackets, and all but the last close what they open. -/
inductive Parted : List (List Char) → Prop where
  | nil : Parted []
  | last {part : List Char} {depth : Nat} (hPart : partOf part = [part])
      (hDepth : depthThrough none 0 part = some depth) : Parted [part]
  | cons {part : List Char} {parts : List (List Char)} (hPart : partOf part = [part])
      (hDepth : depthThrough none 0 part = some 0) (hParts : Parted parts) :
      Parted (part :: parts)

theorem parted_commaParts (text : List Char) : Parted (commaParts text) := by
  induction text using cut_induction with
  | whole text last hText =>
    rw [commaParts_whole hText]
    rcases partOf_cases text with hNone | ⟨hSome, hPart⟩
    · rw [hNone]
      exact .nil
    · rw [hSome]
      exact .last hPart ((depthThrough_trim 0 text).trans hText)
  | cut front rest hFront ih =>
    rw [commaParts_append hFront]
    rcases partOf_cases front with hNone | ⟨hSome, hPart⟩
    · rw [hNone]
      exact ih
    · rw [hSome]
      exact .cons hPart ((depthThrough_trim 0 front).trans hFront) ih

theorem Parted.commaParts_part {parts : List (List Char)} (hParted : Parted parts) :
    ∀ part ∈ parts, commaParts part = [part] := by
  induction hParted with
  | nil => simp
  | last hPart hDepth => simpa using (commaParts_whole hDepth).trans hPart
  | cons hPart hDepth _ ih =>
    rw [List.forall_mem_cons]
    exact ⟨(commaParts_whole hDepth).trans hPart, ih⟩

theorem Parted.commaParts_intercalate {parts : List (List Char)} (hParted : Parted parts) :
    commaParts ([',', ' '].intercalate parts) = parts := by
  induction hParted with
  | nil => rfl
  | last hPart hDepth =>
    rw [List.intercalate_singleton]
    exact (commaParts_whole hDepth).trans hPart
  | @cons part parts hPart hDepth hParts ih =>
    cases parts with
    | nil =>
      rw [List.intercalate_singleton]
      exact (commaParts_whole hDepth).trans hPart
    | cons next parts =>
      have hJoined : [',', ' '].intercalate (part :: next :: parts) =
          part ++ ',' :: ' ' :: [',', ' '].intercalate (next :: parts) := by
        rw [List.intercalate_cons_cons, List.append_assoc]
        rfl
      rw [hJoined, commaParts_append hDepth, hPart, commaParts_blank (by decide), ih]
      rfl

/-- The parts of a text are its stretches between the commas outside all brackets, trimmed and
without the blank ones. Written with commas in between they are cut into the same parts, and each
alone is its only part. -/
theorem comma_parts_are_normal (text : List Char) :
    commaParts text = ((segments text).map trim).filter (!·.isEmpty) ∧
    commaParts ([',', ' '].intercalate (commaParts text)) = commaParts text ∧
    ∀ part ∈ commaParts text, commaParts part = [part] := by
  have hParted := parted_commaParts text
  refine ⟨?_, hParted.commaParts_intercalate, hParted.commaParts_part⟩
  rw [commaParts, splitTopLevel, cutTopLevel_eq_segments]

/-- An arrow stands in one part, and a bracket closes that was never opened. -/
theorem comma_parts_are_normal_arrow :
    let text := "a>, b: (Int, Int) -> Unit ,, c".toList
    let part := "b: (Int, Int) -> Unit".toList
    part ∈ commaParts text ∧ commaParts part = [part] := by
  intro text part
  have hPart : part ∈ commaParts text := by decide +kernel
  exact ⟨hPart, (comma_parts_are_normal text).2.2 part hPart⟩

end SensorFlow.Source
