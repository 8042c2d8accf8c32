import SensorFlow.Proofs.Source.Masking

/-!
# What a masked text keeps

A masked text has the length and the lines of the text that it is made from, and at each offset the
same character or a space. No comment is left in it: a slash stays visible only in code, where the
scan has seen that the next character opens no comment with it.
-/
namespace SensorFlow.Source
set_option autoImplicit false

theorem getElem?_of_masks {text masked : List Char} (hMasks : List.Forall₂ Masks text masked)
    (i : Nat) : Option.Rel Masks text[i]? masked[i]? := by
  induction hMasks generalizing i with
  | nil => exact .none
  | cons hHead _ ih =>
    cases i with
    | zero => exact .some hHead
    | succ i => exact ih i

theorem getElem?_mask (text : List Char) (i : Nat) :
    ((mask text)[i]? = some '\n' ↔ text[i]? = some '\n') ∧
      ((mask text)[i]? = text[i]? ∨ (mask text)[i]? = some ' ') := by
  have hMasks := getElem?_of_masks (masks_mask text) i
  generalize text[i]? = found, (mask text)[i]? = masked at hMasks
  cases hMasks with
  | none => exact ⟨Iff.rfl, .inl rfl⟩
  | some hMasks =>
    rcases hMasks with rfl | ⟨rfl, hBreak⟩
    · exact ⟨Iff.rfl, .inl rfl⟩
    · exact ⟨by simp [hBreak], .inr rfl⟩

/-- The scan is in a region that it can come to from code: a literal has one of the two quotes. -/
def Region.IsReached (region : Region) : Prop := ∀ q, region = .quoted q → q = '"' ∨ q = '\''

theorem Step.isReached {region next : Region} {piece rest : List Char}
    (hStep : Step region piece next rest) (hRegion : region.IsReached) : next.IsReached := by
  intro q hNext
  cases hStep with
  | openQuote q' _ hQuote _ =>
    cases hNext
    exact hQuote
  | inQuoted | escape | lastEscape => exact hRegion q hNext
  | _ => cases hNext

theorem blank_ne_slash (c : Char) : blank c ≠ '/' := by
  rw [blank]
  split <;> decide

/-- A visible slash is a sign of its own, and it opens no comment. -/
theorem Step.slash_shown {region next : Region} {piece rest : List Char}
    (hStep : Step region piece next rest) (hRegion : region.IsReached)
    (hSlash : '/' ∈ shown region next piece) :
    piece = ['/'] ∧ rest.head? ≠ some '/' ∧ rest.head? ≠ some '*' := by
  have hShows : shows region next = true := by
    by_contra hHidden
    rw [shown, if_neg hHidden] at hSlash
    obtain ⟨c, _, hC⟩ := List.mem_map.1 hSlash
    exact blank_ne_slash c hC
  rw [shown, if_pos hShows] at hSlash
  cases hStep with
  | plain c _ _ hComment =>
    obtain rfl := List.mem_singleton.1 hSlash
    exact ⟨rfl, hComment rfl⟩
  | openQuote q _ hQuote _ =>
    obtain rfl := List.mem_singleton.1 hSlash
    exact absurd hQuote (by decide)
  | closeQuoted q c _ _ hClosing =>
    obtain rfl := List.mem_singleton.1 hSlash
    rcases hClosing with rfl | hBreak
    · exact absurd (hRegion '/' rfl) (by decide)
    · exact absurd hBreak (by decide)
  | openRaw | closeRaw => exact absurd hSlash (by decide)
  | _ => cases hShows

theorem slash_maskFrom {region : Region} {text : List Char} (hRegion : region.IsReached) {i : Nat}
    (hSlash : (maskFrom region text)[i]? = some '/') :
    text[i + 1]? ≠ some '/' ∧ text[i + 1]? ≠ some '*' := by
  induction region, text using scan_induction generalizing i with
  | nil region =>
    rw [maskFrom] at hSlash
    cases hSlash
  | step region piece next rest hStep ih =>
    have hLength := (masks_shown region next piece).length_eq
    rw [maskFrom_step hStep] at hSlash
    -- the slash belongs to the first sign or lies behind it
    by_cases hInside : i < piece.length
    · rw [List.getElem?_append_left (by omega)] at hSlash
      obtain ⟨rfl, hAhead⟩ := hStep.slash_shown hRegion (List.mem_of_getElem? hSlash)
      obtain rfl : i = 0 := by simpa using hInside
      rwa [List.singleton_append, List.getElem?_cons_succ, ← List.head?_eq_getElem?]
    · rw [List.getElem?_append_right (by omega), ← hLength] at hSlash
      have hRest := ih (hStep.isReached hRegion) hSlash
      rwa [List.getElem?_append_right (by omega),
        show i + 1 - piece.length = i - piece.length + 1 by omega]

theorem isReached_code : Region.code.IsReached := by
  intro q hQuoted
  cases hQuoted

theorem not_infix_mask (text : List Char) {c : Char} (hOpens : c = '/' ∨ c = '*') :
    ¬['/', c] <:+: mask text := by
  rintro ⟨before, after, hText⟩
  have hSlash : (mask text)[before.length]? = some '/' := by simp [← hText]
  have hMasked : (mask text)[before.length + 1]? = some c := by simp [← hText]
  have hNext : text[before.length + 1]? = some c := by
    rw [← hMasked]
    refine ((getElem?_mask text (before.length + 1)).2.resolve_right ?_).symm
    rw [hMasked]
    rintro ⟨⟩
    exact absurd hOpens (by decide)
  obtain ⟨hNotSlash, hNotStar⟩ := slash_maskFrom isReached_code hSlash
  rcases hOpens with rfl | rfl
  · exact hNotSlash hNext
  · exact hNotStar hNext

/-- Without quotes and comments there is nothing to mask. -/
theorem mask_eq_self {text : List Char} (hQuotes : ∀ c ∈ text, ¬(c = '"' ∨ c = '\''))
    (hComments : ¬['/', '/'] <:+: text ∧ ¬['/', '*'] <:+: text) : mask text = text := by
  rw [mask]
  induction text with
  | nil => rfl
  | cons c text ih =>
    have hAhead {d : Char} (hHead : text.head? = some d) : ['/', d] <:+: '/' :: text := by
      obtain ⟨rest, rfl⟩ := List.head?_eq_some_iff.1 hHead
      exact ⟨[], rest, rfl⟩
    have hStep : Step .code [c] .code text := by
      refine .plain c text (hQuotes c List.mem_cons_self) ?_
      rintro rfl
      exact ⟨fun hHead => hComments.1 (hAhead hHead), fun hHead => hComments.2 (hAhead hHead)⟩
    have hRest := ih (fun d hD => hQuotes d (List.mem_cons_of_mem c hD))
      ⟨fun hInfix => hComments.1 (List.infix_cons hInfix),
        fun hInfix => hComments.2 (List.infix_cons hInfix)⟩
    have hMask := maskFrom_step hStep
    rw [List.singleton_append, hRest] at hMask
    exact hMask

/-- Masking keeps the length, the line breaks and every character but for spaces in the place of
some. It leaves no comment, and it changes nothing where there is neither a comment nor a quote. -/
theorem mask_keeps_places (text : List Char) :
    (mask text).length = text.length ∧
    (∀ i : Nat, ((mask text)[i]? = some '\n' ↔ text[i]? = some '\n') ∧
      ((mask text)[i]? = text[i]? ∨ (mask text)[i]? = some ' ')) ∧
    (¬['/', '/'] <:+: mask text ∧ ¬['/', '*'] <:+: mask text) ∧
    ((∀ c ∈ text, ¬(c = '"' ∨ c = '\'')) → ¬['/', '/'] <:+: text ∧ ¬['/', '*'] <:+: text →
      mask text = text) := by
  refine ⟨(masks_mask text).length_eq.symm, getElem?_mask text, ⟨?_, ?_⟩, mask_eq_self⟩
  · exact not_infix_mask text (.inl rfl)
  · exact not_infix_mask text (.inr rfl)

theorem mask_keeps_places_division :
    let text := "a / b\n".toList
    (∀ c ∈ text, ¬(c = '"' ∨ c = '\'')) ∧ mask text = text := by
  intro text
  have hQuotes : ∀ c ∈ text, ¬(c = '"' ∨ c = '\'') := by simp [text]
  exact ⟨hQuotes, (mask_keeps_places text).2.2.2 hQuotes
    ⟨by decide +kernel, by decide +kernel⟩⟩

end SensorFlow.Source
