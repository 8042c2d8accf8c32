import Mathlib.Data.List.Forall2
import SensorFlow.Source.Masking

/-!
# The scan behind masking

Masking goes over a text sign by sign: a delimiter, an escape or a single character. `Step` says
for each region which sign comes next and where it leads; the mask of a text is put together from
the masks of its signs.
-/
namespace SensorFlow.Source
set_option autoImplicit false

/-- In a region, with `piece` and then `rest` ahead, the scan passes `piece` and is in the next
region. -/
inductive Step : Region → List Char → Region → List Char → Prop where
  | openLine (rest : List Char) : Step .code ['/', '/'] .lineComment rest
  | openBlock (rest : List Char) : Step .code ['/', '*'] .blockComment rest
  | openRaw (rest : List Char) : Step .code ['"', '"', '"'] .rawString rest
  | openQuote (q : Char) (rest : List Char) (hQuote : q = '"' ∨ q = '\'')
      (hRaw : q = '"' → rest.take 2 ≠ ['"', '"']) : Step .code [q] (.quoted q) rest
  | plain (c : Char) (rest : List Char) (hQuote : ¬(c = '"' ∨ c = '\''))
      (hComment : c = '/' → rest.head? ≠ some '/' ∧ rest.head? ≠ some '*') :
      Step .code [c] .code rest
  | inLine (c : Char) (rest : List Char) (hInside : c ≠ '\n') :
      Step .lineComment [c] .lineComment rest
  | closeLine (rest : List Char) : Step .lineComment ['\n'] .code rest
  | inBlock (c : Char) (rest : List Char) (hInside : c = '*' → rest.head? ≠ some '/') :
      Step .blockComment [c] .blockComment rest
  | closeBlock (rest : List Char) : Step .blockComment ['*', '/'] .code rest
  | inRaw (c : Char) (rest : List Char) (hInside : c = '"' → rest.take 2 ≠ ['"', '"']) :
      Step .rawString [c] .rawString rest
  | closeRaw (rest : List Char) : Step .rawString ['"', '"', '"'] .code rest
  | inQuoted (q c : Char) (rest : List Char) (hEscape : c ≠ '\\') (hInside : ¬(c = q ∨ c = '\n')) :
      Step (.quoted q) [c] (.quoted q) rest
  | escape (q c : Char) (rest : List Char) : Step (.quoted q) ['\\', c] (.quoted q) rest
  | lastEscape (q : Char) : Step (.quoted q) ['\\'] (.quoted q) []
  | closeQuoted (q c : Char) (rest : List Char) (hEscape : c ≠ '\\') (hClosing : c = q ∨ c = '\n') :
      Step (.quoted q) [c] .code rest

/-- Whether the sign that leads from one region to the next stays visible: code does, and the
quotes of a literal. -/
def shows : Region → Region → Bool
  | .code, .lineComment => false
  | .code, .blockComment => false
  | .code, _ => true
  | .rawString, .code => true
  | .quoted _, .code => true
  | _, _ => false

def shown (region next : Region) (piece : List Char) : List Char :=
  if shows region next then piece else piece.map blank

theorem maskFrom_step {region next : Region} {piece rest : List Char}
    (hStep : Step region piece next rest) :
    maskFrom region (piece ++ rest) = shown region next piece ++ maskFrom next rest := by
  cases hStep with
  | openLine => rfl
  | openBlock => rfl
  | openRaw => rfl
  | openQuote q rest hQuote hRaw =>
    have hMask : maskFrom .code (q :: rest) = q :: maskFrom (.quoted q) rest := by
      rw [maskFrom, if_pos hQuote]
      · grind
      · grind
      · rintro more rfl rfl
        exact hRaw rfl rfl
    exact hMask
  | plain c rest hQuote hComment =>
    have hMask : maskFrom .code (c :: rest) = c :: maskFrom .code rest := by
      rw [maskFrom, if_neg hQuote]
      · rintro more rfl rfl
        exact (hComment rfl).1 rfl
      · rintro more rfl rfl
        exact (hComment rfl).2 rfl
      · rintro more rfl rfl
        exact hQuote (.inl rfl)
    exact hMask
  | inLine c rest hInside => simp [maskFrom, shown, shows, hInside]
  | closeLine => rfl
  | inBlock c rest hInside =>
    have hMask : maskFrom .blockComment (c :: rest) = blank c :: maskFrom .blockComment rest := by
      rw [maskFrom]
      rintro more rfl rfl
      exact hInside rfl rfl
    exact hMask
  | closeBlock => rfl
  | inRaw c rest hInside =>
    have hMask : maskFrom .rawString (c :: rest) = blank c :: maskFrom .rawString rest := by
      rw [maskFrom]
      rintro more rfl rfl
      exact hInside rfl rfl
    exact hMask
  | closeRaw => rfl
  | inQuoted q c rest hEscape hInside =>
    have hMask : maskFrom (.quoted q) (c :: rest) = ' ' :: maskFrom (.quoted q) rest := by
      rw [maskFrom, if_neg hInside]
      · exact fun hBackslash _ => hEscape hBackslash
      · exact fun _ _ hBackslash _ => hEscape hBackslash
    rw [not_or] at hInside
    simpa [shown, shows, blank, hInside.2] using hMask
  | escape q c rest => rfl
  | lastEscape q => rfl
  | closeQuoted q c rest hEscape hClosing =>
    have hMask : maskFrom (.quoted q) (c :: rest) = c :: maskFrom .code rest := by
      rw [maskFrom, if_pos hClosing]
      · exact fun hBackslash _ => hEscape hBackslash
      · exact fun _ _ hBackslash _ => hEscape hBackslash
    exact hMask

theorem Step.piece_ne_nil {region next : Region} {piece rest : List Char}
    (hStep : Step region piece next rest) : piece ≠ [] := by
  cases hStep <;> simp

theorem ne_escape {c : Char} {rest : List Char} (hLast : c = '\\' → rest = [] → False)
    (hPair : ∀ d more, c = '\\' → rest = d :: more → False) : c ≠ '\\' := by
  rintro rfl
  cases rest with
  | nil => exact hLast rfl rfl
  | cons d more => exact hPair d more rfl rfl

/-- Every text has a next sign, whatever region the scan is in. -/
theorem exists_step (region : Region) {text : List Char} (hText : text ≠ []) :
    ∃ piece next rest, text = piece ++ rest ∧ Step region piece next rest := by
  fun_cases maskFrom region text with
  | case1 => exact absurd rfl hText
  | case2 rest => exact ⟨_, _, rest, rfl, .openLine rest⟩
  | case3 rest => exact ⟨_, _, rest, rfl, .openBlock rest⟩
  | case4 rest => exact ⟨_, _, rest, rfl, .openRaw rest⟩
  | case5 c rest hLine hBlock hRaw =>
    by_cases hQuote : c = '"' ∨ c = '\''
    · refine ⟨[c], _, rest, rfl, .openQuote c rest hQuote ?_⟩
      intro hC hTwo
      exact hRaw (rest.drop 2) hC (by rw [← List.take_append_drop 2 rest, hTwo]; rfl)
    · refine ⟨[c], _, rest, rfl, .plain c rest hQuote ?_⟩
      intro hC
      constructor
      · intro hHead
        exact hLine rest.tail hC (List.eq_cons_of_mem_head? hHead)
      · intro hHead
        exact hBlock rest.tail hC (List.eq_cons_of_mem_head? hHead)
  | case6 c rest =>
    by_cases hEnd : c = '\n'
    · subst hEnd
      exact ⟨_, _, rest, rfl, .closeLine rest⟩
    · exact ⟨[c], _, rest, rfl, .inLine c rest hEnd⟩
  | case7 rest => exact ⟨_, _, rest, rfl, .closeBlock rest⟩
  | case8 c rest hClose =>
    refine ⟨[c], _, rest, rfl, .inBlock c rest ?_⟩
    intro hC hHead
    exact hClose rest.tail hC (List.eq_cons_of_mem_head? hHead)
  | case9 rest => exact ⟨_, _, rest, rfl, .closeRaw rest⟩
  | case10 c rest hClose =>
    refine ⟨[c], _, rest, rfl, .inRaw c rest ?_⟩
    intro hC hTwo
    exact hClose (rest.drop 2) hC (by rw [← List.take_append_drop 2 rest, hTwo]; rfl)
  | case11 q => exact ⟨_, _, [], rfl, .lastEscape q⟩
  | case12 q c rest => exact ⟨_, _, rest, rfl, .escape q c rest⟩
  | case13 q c rest hLast hEscape hClosing =>
    exact ⟨[c], _, rest, rfl, .closeQuoted q c rest (ne_escape hLast hEscape) hClosing⟩
  | case14 q c rest hLast hEscape hInside =>
    exact ⟨[c], _, rest, rfl, .inQuoted q c rest (ne_escape hLast hEscape) hInside⟩

/-- What holds at the end of a text in every region, and before a sign if it does behind it, holds
everywhere. -/
theorem scan_induction {motive : Region → List Char → Prop} (nil : ∀ region, motive region [])
    (step : ∀ region piece next rest, Step region piece next rest → motive next rest →
      motive region (piece ++ rest)) (region : Region) (text : List Char) : motive region text := by
  induction hLength : text.length using Nat.strongRecOn generalizing region text with
  | ind length ih =>
    by_cases hText : text = []
    · rw [hText]
      exact nil region
    · obtain ⟨piece, next, rest, rfl, hStep⟩ := exists_step region hText
      have hPiece := List.length_pos_iff.2 hStep.piece_ne_nil
      rw [List.length_append] at hLength
      exact step region piece next rest hStep (ih rest.length (by omega) next rest rfl)

/-- What a masked text may hold in the place of a character. -/
def Masks (c masked : Char) : Prop := masked = c ∨ masked = ' ' ∧ c ≠ '\n'

theorem masks_blank (c : Char) : Masks c (blank c) := by
  by_cases hBreak : c = '\n'
  · exact .inl (by rw [blank, if_pos hBreak, hBreak])
  · exact .inr ⟨if_neg hBreak, hBreak⟩

theorem masks_shown (region next : Region) (piece : List Char) :
    List.Forall₂ Masks piece (shown region next piece) := by
  rw [shown]
  split
  · exact List.forall₂_same.2 fun c _ => .inl rfl
  · rw [List.forall₂_map_right_iff]
    exact List.forall₂_same.2 fun c _ => masks_blank c

theorem masks_maskFrom (region : Region) (text : List Char) :
    List.Forall₂ Masks text (maskFrom region text) := by
  induction region, text using scan_induction with
  | nil region =>
    rw [maskFrom]
    exact .nil
  | step region piece next rest hStep ih =>
    rw [maskFrom_step hStep]
    exact List.rel_append (masks_shown region next piece) ih

theorem masks_mask (text : List Char) : List.Forall₂ Masks text (mask text) :=
  masks_maskFrom .code text

theorem count_eq_of_masks {text masked : List Char} (hMasks : List.Forall₂ Masks text masked) :
    masked.count '\n' = text.count '\n' := by
  induction hMasks with
  | nil => rfl
  | cons hHead _ ih =>
    rcases hHead with rfl | ⟨rfl, hBreak⟩
    · rw [List.count_cons, List.count_cons, ih]
    · simp [ih, hBreak]

/-- A line break stands where it did, so every offset keeps its line. -/
theorem lineBreaks_mask (text : List Char) (pos : Nat) :
    ((mask text).take pos).count '\n' = (text.take pos).count '\n' :=
  count_eq_of_masks (List.forall₂_take pos (masks_mask text))

theorem prefix_of_masks {word text masked : List Char} (hMasks : List.Forall₂ Masks text masked)
    (hWord : ' ' ∉ word) (hPrefix : word <+: masked) : word <+: text := by
  induction hMasks generalizing word with
  | nil => exact hPrefix
  | cons hHead _ ih =>
    cases word with
    | nil => exact List.nil_prefix
    | cons w word =>
      obtain ⟨rfl, hRest⟩ := List.cons_prefix_cons.1 hPrefix
      rw [List.mem_cons, not_or] at hWord
      rcases hHead with rfl | ⟨hSpace, _⟩
      · exact List.cons_prefix_cons.2 ⟨rfl, ih hWord.2 hRest⟩
      · exact absurd hSpace.symm hWord.1

/-- A text without spaces that is read at an offset of the masked text is read there in the text
itself. -/
theorem prefix_of_mask {word text : List Char} {pos : Nat} (hWord : ' ' ∉ word)
    (hPrefix : word <+: (mask text).drop pos) : word <+: text.drop pos :=
  prefix_of_masks (List.forall₂_drop pos (masks_mask text)) hWord hPrefix

/-- From one region, before `passed` and `rest`, the scan comes to be in another one before
`rest`. -/
inductive Passes : Region → List Char → Region → List Char → Prop where
  | refl (region : Region) (rest : List Char) : Passes region [] region rest
  | head {region middle next : Region} {piece passed rest : List Char}
      (hStep : Step region piece middle (passed ++ rest))
      (hPasses : Passes middle passed next rest) :
      Passes region (piece ++ passed) next rest

/-- The scan of a text in a region goes on in it to the end of `inside`. -/
inductive Fills (region : Region) : List Char → List Char → Prop where
  | nil (rest : List Char) : Fills region [] rest
  | cons {piece inside rest : List Char} (hStep : Step region piece region (inside ++ rest))
      (hFills : Fills region inside rest) : Fills region (piece ++ inside) rest

/-- A step looks at one character ahead, and at a second one only where it does not lead to code. -/
theorem Step.of_ahead {region next : Region} {piece rest other : List Char}
    (hStep : Step region piece next rest) (hFirst : other.head? = rest.head?)
    (hSecond : next ≠ .code → other.take 2 = rest.take 2) : Step region piece next other := by
  cases hStep with
  | openQuote q _ hQuote hRaw =>
    refine .openQuote q other hQuote ?_
    rw [hSecond (by simp)]
    exact hRaw
  | inRaw c _ hInside =>
    refine .inRaw c other ?_
    rw [hSecond (by simp)]
    exact hInside
  | plain c _ hQuote hComment =>
    refine .plain c other hQuote ?_
    rwa [hFirst]
  | inBlock c _ hInside =>
    refine .inBlock c other ?_
    rwa [hFirst]
  | lastEscape q =>
    rw [List.head?_eq_none_iff.1 hFirst]
    exact .lastEscape q
  | openLine => exact .openLine other
  | openBlock => exact .openBlock other
  | openRaw => exact .openRaw other
  | inLine c _ hInside => exact .inLine c other hInside
  | closeLine => exact .closeLine other
  | closeBlock => exact .closeBlock other
  | closeRaw => exact .closeRaw other
  | inQuoted q c _ hEscape hInside => exact .inQuoted q c other hEscape hInside
  | escape q c => exact .escape q c other
  | closeQuoted q c _ hEscape hClosing => exact .closeQuoted q c other hEscape hClosing

theorem Passes.eq_of_nil {region next : Region} {passed rest : List Char}
    (hPasses : Passes region passed next rest) (hNil : passed = []) : region = next := by
  cases hPasses with
  | refl => rfl
  | head hStep _ => exact absurd (List.append_eq_nil_iff.1 hNil).1 hStep.piece_ne_nil

/-- The mask of what the scan has passed to come back to code depends only on it and on the next
character. -/
theorem Passes.exists_mask {region : Region} {passed rest : List Char}
    (hPasses : Passes region passed .code rest) :
    ∃ masked, ∀ other : List Char, other.head? = rest.head? →
      maskFrom region (passed ++ other) = masked ++ maskFrom .code other := by
  generalize hCode : Region.code = next at hPasses
  induction hPasses with
  | refl region rest => exact ⟨[], fun other _ => by rw [← hCode]; rfl⟩
  | @head region middle next piece passed rest hStep hPasses ih =>
    obtain ⟨masked, hMasked⟩ := ih hCode
    refine ⟨shown region middle piece ++ masked, ?_⟩
    intro other hHead
    have hAhead : Step region piece middle (passed ++ other) := by
      refine hStep.of_ahead ?_ ?_
      · cases passed with
        | nil => exact hHead
        | cons c passed => rfl
      · intro hMiddle
        -- what leads back to code lies in `passed`, so the second character ahead is the next one
        -- behind it at most
        rcases passed with _ | ⟨c, _ | ⟨d, passed⟩⟩
        · exact absurd ((hPasses.eq_of_nil rfl).trans hCode.symm) hMiddle
        · cases other <;> cases rest <;> simp_all
        · rfl
    rw [List.append_assoc, maskFrom_step hAhead, hMasked other hHead, List.append_assoc]

theorem shows_self {region : Region} (hRegion : region ≠ .code) : shows region region = false := by
  cases region with
  | code => exact absurd rfl hRegion
  | _ => rfl

theorem maskFrom_of_fills {region : Region} {inside rest : List Char} (hRegion : region ≠ .code)
    (hFills : Fills region inside rest) :
    maskFrom region (inside ++ rest) = inside.map blank ++ maskFrom region rest := by
  induction hFills with
  | nil rest => rfl
  | cons hStep _ ih =>
    rw [List.append_assoc, maskFrom_step hStep, ih, shown, shows_self hRegion, List.map_append,
      List.append_assoc]
    rfl

theorem fills_of_forall {region : Region} {inside : List Char} (rest : List Char)
    (hStep : ∀ c ∈ inside, ∀ rest, Step region [c] region rest) : Fills region inside rest := by
  induction inside with
  | nil => exact .nil rest
  | cons c inside ih =>
    rw [List.forall_mem_cons] at hStep
    exact .cons (hStep.1 _) (ih hStep.2)

theorem Step.cases_code {region next : Region} {piece rest : List Char}
    (hStep : Step region piece next rest) : region = .code ∨ next = .code ∨ next = region := by
  cases hStep <;> simp

/-- A region goes on until a sign leads back to code, or to the end of the text. -/
theorem exists_fills {region : Region} (hRegion : region ≠ .code) (text : List Char) :
    ∃ inside rest, text = inside ++ rest ∧ Fills region inside rest ∧
      (rest = [] ∨ ∃ closing more, rest = closing ++ more ∧ Step region closing .code more) := by
  induction region, text using scan_induction with
  | nil region => exact ⟨[], [], rfl, .nil _, .inl rfl⟩
  | step region piece next text hStep ih =>
    by_cases hNext : next = .code
    · subst hNext
      exact ⟨[], piece ++ text, rfl, .nil _, .inr ⟨piece, text, rfl, hStep⟩⟩
    · obtain rfl := (hStep.cases_code.resolve_left hRegion).resolve_left hNext
      obtain ⟨inside, rest, rfl, hFills, hEnd⟩ := ih hNext
      exact ⟨piece ++ inside, rest, by rw [List.append_assoc], .cons hStep hFills, hEnd⟩

theorem not_mem_of_fills_line {inside rest : List Char} (hFills : Fills .lineComment inside rest) :
    '\n' ∉ inside := by
  induction hFills with
  | nil rest => exact List.not_mem_nil
  | cons hStep _ ih =>
    cases hStep with
    | inLine c _ hInside => simpa [hInside.symm] using ih

theorem not_mem_of_fills_quoted {q : Char} {inside rest : List Char}
    (hFills : Fills (.quoted q) inside rest) (hEscape : ¬['\\', '\n'] <:+: inside) :
    '\n' ∉ inside := by
  induction hFills with
  | nil rest => exact List.not_mem_nil
  | @cons piece inside rest hStep _ ih =>
    have hInside := ih fun hInfix =>
      hEscape (hInfix.trans (List.suffix_append piece inside).isInfix)
    generalize inside ++ rest = behind at hStep
    cases hStep with
    | inQuoted _ c _ _ hPlain =>
      rw [not_or] at hPlain
      simpa [Ne.symm hPlain.2] using hInside
    | escape _ c _ =>
      have hBreak : c ≠ '\n' := by
        rintro rfl
        exact hEscape (List.prefix_append _ inside).isInfix
      simpa [hBreak.symm] using hInside
    | lastEscape => simpa using hInside

end SensorFlow.Source
