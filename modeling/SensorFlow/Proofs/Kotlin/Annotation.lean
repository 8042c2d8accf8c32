import Mathlib.Data.List.TakeWhile
import SensorFlow.Kotlin.Outline
import SensorFlow.Proofs.Kotlin.Attribution
import SensorFlow.Proofs.Kotlin.FunctionHeader
import SensorFlow.Proofs.Kotlin.Ownership

/-!
# Which functions an annotation reaches

A function has the annotations of its own line before it, and those of the lines above it as long as
these are blank or start with an annotation. So an annotation reaches every function that is parted
from it by such lines only: also one behind the function it was written for, if the line of that
function starts with an annotation.
-/
namespace SensorFlow.Kotlin
open Text Source
set_option autoImplicit false

/-- A line that is blank or starts with an annotation. -/
def isMark (line : List Char) : Bool := (trim line).head?.all (· == '@')

/-- The lines of a text that end with a line break. -/
def endedLines (text : List Char) : List (List Char) := (text.splitOn '\n').dropLast

/-- Every line that ends between two offsets is blank or starts with an annotation. -/
def marksBetween (text : List Char) (first last : Nat) : Bool :=
  ((endedLines (text.take last)).drop (endedLines (text.take first)).length).all isMark

/-- An annotation reaches an offset behind it over lines that are blank or start with one. -/
def reaches (text : List Char) (a : Hit (List Char)) (pos : Nat) : Bool :=
  decide (a.stop ≤ pos) && marksBetween text a.start pos

section Lines

/-- A text is one line, or a line and the text behind its break. -/
theorem line_induction {motive : List Char → Prop}
    (single : ∀ line, '\n' ∉ line → motive line)
    (append : ∀ line rest, '\n' ∉ line → motive rest → motive (line ++ '\n' :: rest))
    (text : List Char) : motive text := by
  induction hLength : text.length using Nat.strongRecOn generalizing text with
  | ind n ih =>
    by_cases hBreak : '\n' ∈ text
    · obtain ⟨line, rest, rfl, hLine⟩ := List.eq_append_cons_of_mem hBreak
      refine append line rest hLine (ih rest.length ?_ rest rfl)
      rw [← hLength, List.length_append, List.length_cons]
      omega
    · exact single text hBreak

theorem splitOn_line_append {line : List Char} (hLine : '\n' ∉ line) (rest : List Char) :
    (line ++ '\n' :: rest).splitOn '\n' = line :: rest.splitOn '\n' := by
  rw [List.splitOn_append_cons_self, List.splitOn_eq_singleton hLine, List.singleton_append]

theorem endedLines_line {line : List Char} (hLine : '\n' ∉ line) : endedLines line = [] := by
  rw [endedLines, List.splitOn_eq_singleton hLine, List.dropLast_singleton]

theorem endedLines_append {line : List Char} (hLine : '\n' ∉ line) (rest : List Char) :
    endedLines (line ++ '\n' :: rest) = line :: endedLines rest := by
  rw [endedLines, splitOn_line_append hLine,
    List.dropLast_cons_of_ne_nil (List.splitOn_ne_nil _ _), endedLines]

theorem endedLines_prefix (text more : List Char) :
    endedLines text <+: endedLines (text ++ more) := by
  induction text using line_induction with
  | single line hLine =>
    rw [endedLines_line hLine]
    exact List.nil_prefix
  | append line rest hLine ih =>
    rw [List.append_assoc, List.cons_append, endedLines_append hLine, endedLines_append hLine]
    exact (List.prefix_cons_inj line).2 ih

theorem exists_endedLines (text : List Char) {first last : Nat} (hOrder : first ≤ last) :
    ∃ lines, endedLines (text.take last) = endedLines (text.take first) ++ lines := by
  have hTake : text.take last = text.take first ++ (text.drop first).take (last - first) := by
    rw [← List.take_add, Nat.add_sub_of_le hOrder]
  obtain ⟨lines, hLines⟩ := endedLines_prefix (text.take first)
    ((text.drop first).take (last - first))
  exact ⟨lines, by rw [hTake, hLines]⟩

theorem marksBetween_trans (text : List Char) {first middle last : Nat} (hFirst : first ≤ middle)
    (hLast : middle ≤ last) :
    marksBetween text first last =
      (marksBetween text first middle && marksBetween text middle last) := by
  obtain ⟨before, hBefore⟩ := exists_endedLines text hFirst
  obtain ⟨behind, hBehind⟩ := exists_endedLines text hLast
  rw [marksBetween, marksBetween, marksBetween, hBehind, List.drop_left, hBefore, List.append_assoc,
    List.drop_left, List.drop_left, List.all_append]

end Lines

section Cut
variable {c : Char}

theorem readWord?_eq (text : List Char) :
    readWord? text = if text.takeWhile isWord = [] then none
      else some (text.takeWhile isWord, text.dropWhile isWord) := by
  rw [readWord?, List.span_eq_takeWhile_dropWhile]
  split <;> simp_all

theorem readWord?_append_of_not_isWord (hC : isWord c = false) (text rest : List Char) :
    readWord? (text ++ c :: rest) =
      (readWord? text).map fun found => (found.1, found.2 ++ c :: rest) := by
  have hSpan : (text ++ c :: rest).takeWhile isWord = text.takeWhile isWord ∧
      (text ++ c :: rest).dropWhile isWord = text.dropWhile isWord ++ c :: rest := by
    induction text with
    | nil => simp [hC]
    | cons d text ih => cases hD : isWord d <;> simp [hD, ih]
  rw [readWord?_eq, readWord?_eq, hSpan.1, hSpan.2]
  split <;> rfl

theorem readAnnotated_eq (before text : List Char) :
    readAnnotated before text = if before.head?.any (fun c => isWord c || c == '@') then none
      else (after? ['@'] text).bind readWord? := by
  rw [readAnnotated]
  split <;> rfl

theorem readAnnotated_append (hC : isWord c = false) (rest before text : List Char)
    (hText : text ≠ []) : readAnnotated before (text ++ c :: rest) =
      (readAnnotated before text).map fun found => (found.1, found.2 ++ c :: rest) := by
  obtain ⟨d, text, rfl⟩ := List.exists_cons_of_ne_nil hText
  rw [readAnnotated_eq, readAnnotated_eq]
  split
  · rfl
  · by_cases hD : '@' = d
    · subst hD
      exact readWord?_append_of_not_isWord hC text rest
    · simp [after?, hD]

theorem findAll_readAnnotated_append (hC : isWord c = false) (text rest : List Char) :
    findAll readAnnotated (text ++ c :: rest) = findAll readAnnotated text ++
      findFrom readAnnotated text.reverse text.length 0 (c :: rest) := by
  have hCut := findFrom_append (readAnnotated_append hC rest) [] text 0 (Nat.zero_le _)
  rwa [List.append_nil, Nat.zero_add] at hCut

/-- A character that belongs to no annotation cuts a text into two. -/
theorem findAll_readAnnotated_cut (hC : isWord c = false) (hSign : c ≠ '@')
    (text rest : List Char) :
    findAll readAnnotated (text ++ c :: rest) = findAll readAnnotated text ++
      (findAll readAnnotated rest).map (shifted (text.length + 1)) := by
  have hHere : readAnnotated text.reverse (c :: rest) = none := by
    simp [readAnnotated_eq, after?, hSign.symm]
  have hContext : ∀ more, readAnnotated (c :: text.reverse) more = readAnnotated [] more := by
    intro more
    simp [readAnnotated_eq, hC, hSign]
  rw [findAll_readAnnotated_append hC, findFrom, hHere]
  simp only
  have hShift := findFrom_add readAnnotated [] rest 0 0 (text.length + 1)
  rw [Nat.zero_add] at hShift
  rw [findFrom_congr_before (fun _ _ _ _ => by simp [readAnnotated_eq]) hContext, hShift, findAll,
    findAll]

theorem annotationNames_cut (hC : isWord c = false) (hSign : c ≠ '@') (text rest : List Char) :
    annotationNames (text ++ c :: rest) = annotationNames text ++ annotationNames rest := by
  rw [annotationNames, findAll_readAnnotated_cut hC hSign, List.map_append, List.map_map]
  rfl

theorem annotationNames_trim (line : List Char) :
    annotationNames (trim line) = annotationNames line := by
  refine apply_trim ?_ ?_ line
  · intro c text hC
    exact annotationNames_cut (isWord_of_isBlank hC) (ne_of_isBlank hC rfl) [] text
  · intro c text hC
    rw [annotationNames_cut (isWord_of_isBlank hC) (ne_of_isBlank hC rfl) text []]
    exact List.append_nil _

end Cut

/-- The annotations that are collected over the lines up to the last one, from below. -/
def collected (lines : List (List Char)) : List (List Char) :=
  match lines.reverse with
  | [] => []
  | last :: above =>
    (last :: (above.map trim).takeWhile fun line => line.head?.all (· == '@')).reverse.flatMap
      annotationNames

theorem annotationsBefore_eq (text : List Char) (pos : Nat) :
    annotationsBefore text pos = collected ((text.take pos).splitOn '\n') := rfl

theorem collected_concat (lines : List (List Char)) (last : List Char) :
    collected (lines ++ [last]) =
      (lines.reverse.takeWhile isMark).reverse.flatMap annotationNames ++ annotationNames last := by
  have hTrim : ((lines.reverse.map trim).takeWhile fun line => line.head?.all (· == '@')) =
      (lines.reverse.takeWhile isMark).map trim := List.takeWhile_map
  rw [collected, List.reverse_append, List.reverse_singleton, List.singleton_append]
  simp only [hTrim, List.reverse_cons, List.flatMap_append, List.flatMap_singleton,
    ← List.map_reverse, List.flatMap_map, annotationNames_trim]

/-- The first of several lines adds its annotations if all lines but the last one are marks. -/
theorem collected_cons (line : List Char) {lines : List (List Char)} (hLines : lines ≠ []) :
    collected (line :: lines) =
      (if (line :: lines.dropLast).all isMark then annotationNames line else []) ++
        collected lines := by
  obtain ⟨init, last, rfl⟩ : ∃ init last, lines = init ++ [last] :=
    ⟨_, _, (List.dropLast_append_getLast hLines).symm⟩
  rw [← List.cons_append, collected_concat, collected_concat, List.dropLast_concat,
    ← List.append_assoc]
  congr 1
  rw [List.reverse_cons, List.all_cons]
  by_cases hMarks : ∀ other ∈ init.reverse, isMark other = true
  · have hAll : init.all isMark = true := by simpa using hMarks
    rw [List.takeWhile_append_of_pos hMarks, List.takeWhile_eq_self_iff.2 hMarks, hAll]
    cases hLine : isMark line <;> simp [hLine]
  · have hAll : init.all isMark = false := by simpa using hMarks
    have hTake : (init.reverse ++ [line]).takeWhile isMark = init.reverse.takeWhile isMark := by
      rw [List.takeWhile_append, if_neg]
      intro hLength
      apply hMarks
      exact List.takeWhile_eq_self_iff.1 ((List.takeWhile_prefix _).eq_of_length hLength)
    simp [hTake, hAll]

/-- The annotations of a text that are collected are those from which only marks follow. -/
theorem collected_eq (text : List Char) :
    collected (text.splitOn '\n') =
      ((findAll readAnnotated text).filter fun a =>
        ((endedLines text).drop (endedLines (text.take a.start)).length).all isMark).map
          (·.value) := by
  induction text using line_induction with
  | single line hLine =>
    rw [List.splitOn_eq_singleton hLine, endedLines_line hLine]
    simp [collected, annotationNames]
  | append line rest hLine ih =>
    have hWord : isWord '\n' = false := by decide
    rw [splitOn_line_append hLine, collected_cons line (List.splitOn_ne_nil _ _), ih,
      endedLines_append hLine, findAll_readAnnotated_cut hWord (by decide), List.filter_append,
      List.map_append]
    congr 1
    · -- an annotation of the first line has all the lines behind it
      have hFirst : ∀ a ∈ findAll readAnnotated line,
          ((line :: endedLines rest).drop
            (endedLines ((line ++ '\n' :: rest).take a.start)).length).all isMark =
              (line :: endedLines rest).all isMark := by
        intro a hA
        have hStop := stop_le_of_mem_findFrom hA
        have hStart := start_le_stop_of_mem_findAll hA
        rw [List.take_append_of_le_length (by omega), endedLines_line]
        · rfl
        · intro hMem
          exact hLine (List.mem_of_mem_take hMem)
      rw [List.filter_congr hFirst]
      show (if (line :: endedLines rest).all isMark then _ else _) = _
      cases (line :: endedLines rest).all isMark <;> simp [annotationNames]
    · -- one of a later line has the first line before it and not behind
      rw [List.filter_map, List.map_map]
      congr 1
      apply List.filter_congr
      intro a _
      have hTake : (line ++ '\n' :: rest).take (a.start + (line.length + 1)) =
          line ++ '\n' :: rest.take a.start := by
        rw [Nat.add_comm, Nat.add_assoc, List.take_append]
        simp [Nat.add_comm]
      simp only [Function.comp_apply, shifted, hTake, endedLines_append hLine, List.length_cons,
        List.drop_succ_cons]

theorem start_lt_stop_of_mem_annotated {before text : List Char} {pos skip : Nat}
    {a : Hit (List Char)} (hA : a ∈ findFrom readAnnotated before pos skip text) :
    pos ≤ a.start ∧ a.start + 2 ≤ a.stop := by
  obtain ⟨passed, rest, behind, hFound⟩ := exists_recognised_of_mem_findFrom hA
  have hRead := hFound.read_eq
  rw [readAnnotated_eq] at hRead
  split at hRead
  · cases hRead
  · obtain ⟨word, hSign, hWord⟩ := Option.bind_eq_some_iff.1 hRead
    obtain ⟨hWordEq, hSome, _⟩ := readWord?_eq_some_iff.1 hWord
    have hRest := congrArg List.length ((after?_eq_some_iff _ _ _).1 hSign)
    have hLength := congrArg List.length hWordEq
    have hPos := List.length_pos_iff.2 hSome
    rw [List.length_append, List.length_singleton] at hRest
    rw [List.length_append] at hLength
    rw [hFound.stop_eq, hFound.start_eq]
    omega

/-- Before the start of a word the annotations are those of the text up to it. -/
theorem findAll_readAnnotated_take {text front behind : List Char} (hText : text = front ++ behind)
    (hStart : atWordStart front.reverse = true) :
    (findAll readAnnotated text).filter (fun a => decide (a.stop ≤ front.length)) =
      findAll readAnnotated front := by
  have hNone : ∀ before pos skip more, (findFrom readAnnotated before pos skip more).filter
      (fun a => decide (a.stop ≤ pos + 1)) = [] := by
    intro before pos skip more
    rw [List.filter_eq_nil_iff]
    intro a hA
    have hBounds := start_lt_stop_of_mem_annotated hA
    simp only [decide_eq_true_eq]
    omega
  subst hText
  rcases List.eq_nil_or_concat front with rfl | ⟨init, c, rfl⟩
  · rw [List.filter_eq_nil_iff.2]
    · rfl
    · intro a hA
      have hBounds := start_lt_stop_of_mem_annotated hA
      simp only [decide_eq_true_eq, List.length_nil]
      omega
  · have hC : isWord c = false := by simpa [atWordStart] using hStart
    rw [List.concat_eq_append, List.append_assoc, List.singleton_append,
      findAll_readAnnotated_append hC, findAll_readAnnotated_append hC, List.filter_append]
    have hLast : findFrom readAnnotated init.reverse init.length 0 [c] = [] := by
      rw [List.eq_nil_iff_forall_not_mem]
      intro a hA
      have hBounds := start_lt_stop_of_mem_annotated hA
      have hStop := stop_le_of_mem_findFrom hA
      rw [List.length_singleton] at hStop
      omega
    rw [List.length_append, List.length_singleton, hNone, hLast, List.filter_eq_self.2]
    intro a hA
    have hStop := stop_le_of_mem_findFrom hA
    simp only [decide_eq_true_eq]
    omega

section Functions
variable {text : List Char}

theorem annotations_of_mem_functions {f : Function} (hF : f ∈ functions text) :
    f.annotations =
      ((findAll readAnnotated text).filter (reaches text · f.start)).map (·.value) := by
  obtain ⟨hit, hHit, hRead⟩ := List.mem_filterMap.1 hF
  rw [function?] at hRead
  obtain ⟨close, _, hRead⟩ := Option.bind_eq_some_iff.1 hRead
  obtain rfl := Option.some.inj hRead
  obtain ⟨front, rest, behind, hFound⟩ := exists_recognised_of_mem_findFrom hHit
  have hWord : atWordStart front.reverse = true := by
    have hStart := (readFunction_eq_some_iff.1 hFound.read_eq).1
    rwa [List.append_nil] at hStart
  have hStart : hit.start = front.length := by rw [hFound.start_eq, Nat.zero_add]
  show annotationsBefore text hit.start =
    ((findAll readAnnotated text).filter (reaches text · hit.start)).map (·.value)
  have hFront : text.take hit.start = front := by rw [hStart, hFound.text_eq, List.take_left]
  rw [annotationsBefore_eq, hFront, collected_eq, ← findAll_readAnnotated_take hFound.text_eq hWord,
    List.filter_filter]
  congr 1
  apply List.filter_congr
  intro a hA
  rw [reaches, marksBetween, hFront, ← hStart, Bool.and_comm]
  cases hStop : decide (a.stop ≤ hit.start) with
  | false => rfl
  | true =>
    have hOrder := start_le_stop_of_mem_findAll hA
    rw [decide_eq_true_eq] at hStop
    rw [← hFront, List.take_take, Nat.min_eq_left (by omega)]

theorem reaches_later_iff {a : Hit (List Char)} (hA : a ∈ findAll readAnnotated text)
    {first later : Nat} (hFirst : a.stop ≤ first) (hLater : first ≤ later) :
    reaches text a later = true ↔
      reaches text a first = true ∧ marksBetween text first later = true := by
  have hOrder := start_le_stop_of_mem_findAll hA
  have hStop : a.stop ≤ later := Nat.le_trans hFirst hLater
  rw [reaches, reaches, marksBetween_trans text (Nat.le_trans hOrder hFirst) hLater]
  simp [hFirst, hStop]

/-- What holds of all functions before one that it holds of is cut off from the front. -/
theorem filter_eq_takeWhile {p : Function → Bool} {fs : List Function}
    (hSorted : fs.Pairwise fun f g => f.start < g.start)
    (hEarlier : ∀ f ∈ fs, ∀ g ∈ fs, f.start < g.start → p g = true → p f = true) :
    fs.filter p = fs.takeWhile p := by
  induction fs with
  | nil => rfl
  | cons f fs ih =>
    obtain ⟨hFirst, hSorted⟩ := List.pairwise_cons.1 hSorted
    have hRest := ih hSorted fun g hG h hH =>
      hEarlier g (List.mem_cons_of_mem _ hG) h (List.mem_cons_of_mem _ hH)
    cases hF : p f with
    | true => rw [List.filter_cons_of_pos hF, List.takeWhile_cons_of_pos hF, hRest]
    | false =>
      rw [List.filter_cons_of_neg (by simp [hF]), List.takeWhile_cons_of_neg (by simp [hF]),
        List.filter_eq_nil_iff]
      intro g hG hHolds
      have hBefore := hEarlier f List.mem_cons_self g (List.mem_cons_of_mem _ hG) (hFirst g hG)
        hHolds
      rw [hF] at hBefore
      cases hBefore

theorem filter_reaches_eq {a : Hit (List Char)} (hA : a ∈ findAll readAnnotated text) :
    (functions text).filter (fun f => reaches text a f.start) =
      ((functions text).filter fun f => decide (a.stop ≤ f.start)).takeWhile fun f =>
        marksBetween text a.start f.start := by
  have hOrder := start_le_stop_of_mem_findAll hA
  rw [← filter_eq_takeWhile ((functions_sorted text).filter _), List.filter_filter]
  · apply List.filter_congr
    intro f _
    rw [reaches, Bool.and_comm]
  · intro f hF g _ hLater hMarks
    have hStop : a.stop ≤ f.start := by simpa using (List.mem_filter.1 hF).2
    rw [marksBetween_trans text (Nat.le_trans hOrder hStop) (Nat.le_of_lt hLater),
      Bool.and_eq_true] at hMarks
    exact hMarks.1

theorem any_isComposableMethod_iff {fs : List Function} (hFs : ∀ f ∈ fs, f ∈ functions text)
    (owner : String) :
    (fs.map (methodOf text (functions text) owner)).any isComposableMethod = true ↔
      ∃ f ∈ fs, ∃ a ∈ findAll readAnnotated text,
        String.ofList a.value = composable ∧ reaches text a f.start = true := by
  rw [List.any_map, List.any_eq_true]
  constructor
  · rintro ⟨f, hF, hComposable⟩
    have hMem : composable ∈ f.annotations.map String.ofList := by
      simpa [isComposableMethod, methodOf] using hComposable
    rw [annotations_of_mem_functions (hFs f hF), List.map_map] at hMem
    obtain ⟨a, hA, hName⟩ := List.mem_map.1 hMem
    obtain ⟨hFound, hReaches⟩ := List.mem_filter.1 hA
    exact ⟨f, hF, a, hFound, hName, hReaches⟩
  · rintro ⟨f, hF, a, hA, hName, hReaches⟩
    refine ⟨f, hF, ?_⟩
    have hMem : composable ∈ f.annotations.map String.ofList := by
      rw [annotations_of_mem_functions (hFs f hF), List.map_map]
      exact List.mem_map.2 ⟨a, List.mem_filter.2 ⟨hA, hReaches⟩, hName⟩
    simpa [isComposableMethod, methodOf] using hMem

end Functions

/-- Where an annotation is reported. A function reports those that reach it; of the functions
behind an annotation these are the first ones, and a later function shares it with an earlier one
exactly if every line that ends between the two is blank or starts with an annotation. A class is
composable by its name or by a function of its own that a composable annotation reaches. -/
theorem annotation_shared_iff (source : List Char) (path : String) :
    (∀ f ∈ functions (mask source), ∀ owner,
      (methodOf (mask source) (functions (mask source)) owner f).annotations =
        ((findAll readAnnotated (mask source)).filter (reaches (mask source) · f.start)).map
          fun a => String.ofList a.value) ∧
    (∀ a ∈ findAll readAnnotated (mask source),
      (functions (mask source)).filter (fun f => reaches (mask source) a f.start) =
        ((functions (mask source)).filter fun f => decide (a.stop ≤ f.start)).takeWhile
          fun f => marksBetween (mask source) a.start f.start) ∧
    (∀ a ∈ findAll readAnnotated (mask source), ∀ f ∈ functions (mask source),
      ∀ g ∈ functions (mask source), a.stop ≤ f.start → f.start < g.start →
        (reaches (mask source) a g.start = true ↔ reaches (mask source) a f.start = true ∧
          marksBetween (mask source) f.start g.start = true)) ∧
    (∀ d ∈ declarations (mask source), ((classFor source path d).isComposable = true ↔
      hasComposableNamed (mask source) d.name = true ∨
        ∃ f ∈ ownFunctions (declarations (mask source)) (functions (mask source)) d,
          ∃ a ∈ findAll readAnnotated (mask source),
            String.ofList a.value = composable ∧ reaches (mask source) a f.start = true)) ∧
    ∀ topLevel, topLevel = topLevelFunctions (declarations (mask source))
        (functions (mask source)) →
      ((facadeOf (mask source) path (functions (mask source)) topLevel).isComposable = true ↔
        ∃ f ∈ topLevel, ∃ a ∈ findAll readAnnotated (mask source),
          String.ofList a.value = composable ∧ reaches (mask source) a f.start = true) := by
  refine ⟨?_, ?_, ?_, ?_, ?_⟩
  · intro f hF owner
    show f.annotations.map String.ofList = _
    rw [annotations_of_mem_functions hF, List.map_map]
    rfl
  · intro a hA
    exact filter_reaches_eq hA
  · intro a hA f _ g _ hFirst hLater
    exact reaches_later_iff hA hFirst (Nat.le_of_lt hLater)
  · intro d _
    show (hasComposableNamed (mask source) d.name || _) = true ↔ _
    rw [Bool.or_eq_true, any_isComposableMethod_iff]
    intro f hF
    exact (List.mem_filter.1 hF).1
  · rintro _ rfl
    apply any_isComposableMethod_iff
    intro f hF
    exact (List.mem_filter.1 hF).1

/-- Three functions: the second one is parted from the first by lines that start with annotations,
the third one is not. -/
def annotatedRun : List Char :=
  "@A fun f() \x7b\x7d\n @B(1)\n\nfun g() \x7b\x7d\nfun h() = 0\n".toList

theorem annotation_shared_iff_run : ∃ a f g h,
    a ∈ findAll readAnnotated (mask annotatedRun) ∧ f ∈ functions (mask annotatedRun) ∧
    g ∈ functions (mask annotatedRun) ∧ h ∈ functions (mask annotatedRun) ∧
    (a.stop ≤ f.start ∧ f.start < g.start ∧ g.start < h.start) ∧
    reaches (mask annotatedRun) a g.start = true ∧ reaches (mask annotatedRun) a h.start = false ∧
    (methodOf (mask annotatedRun) (functions (mask annotatedRun)) "C" g).annotations =
      ["A", "B"] := by
  let a : Hit (List Char) := ⟨0, 2, ['A']⟩
  let f : Function := ⟨['f'], 3, 1, [], "Unit".toList, some ⟨11, 12⟩, [['A']]⟩
  let g : Function := ⟨['g'], 22, 4, [], "Unit".toList, some ⟨30, 31⟩, [['A'], ['B']]⟩
  let h : Function := ⟨['h'], 33, 5, [], "Unit".toList, some ⟨41, 44⟩, []⟩
  have hA : a ∈ findAll readAnnotated (mask annotatedRun) := by decide +kernel
  have hF : f ∈ functions (mask annotatedRun) := by decide +kernel
  have hG : g ∈ functions (mask annotatedRun) := by decide +kernel
  have hH : h ∈ functions (mask annotatedRun) := by decide +kernel
  have hShared := (annotation_shared_iff annotatedRun "C.kt").2.2.1 a hA
  have hReaches : reaches (mask annotatedRun) a g.start = true :=
    (hShared f hF g hG (by decide) (by decide)).2 ⟨by decide +kernel, by decide +kernel⟩
  refine ⟨a, f, g, h, hA, hF, hG, hH, by decide, hReaches, ?_, ?_⟩
  · rw [Bool.eq_false_iff]
    intro hReached
    have hMarks := ((hShared g hG h hH (by decide) (by decide)).1 hReached).2
    exact absurd hMarks (by decide +kernel)
  · rw [(annotation_shared_iff annotatedRun "C.kt").1 g hG "C"]
    decide +kernel

/-- A function on the line of its annotation leaves the annotation to the function on the next
line. -/
theorem annotation_of_line_above_shared :
    (classes "@Composable fun f() \x7b\x7d\nfun g() \x7b\x7d\n".toList "I.kt").map
        (fun c => c.methods.map fun m => (m.name, m.annotations)) =
      [[("f", ["Composable"]), ("g", ["Composable"])]] := by
  decide +kernel

end SensorFlow.Kotlin
