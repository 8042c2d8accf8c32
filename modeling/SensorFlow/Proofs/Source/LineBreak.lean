import SensorFlow.Proofs.Source.Masking

/-!
# Masking line by line

A line break ends a line comment, and a literal that has not been closed. So the mask of a text is
put together from the masks of its lines, as long as no block comment and no raw string goes over
the break and no backslash takes it along.
-/
namespace SensorFlow.Source
set_option autoImplicit false

theorem exists_passes (region : Region) (text : List Char) :
    ∃ next, Passes region text next [] := by
  induction region, text using scan_induction with
  | nil region => exact ⟨region, .refl region []⟩
  | step region piece next rest hStep ih =>
    obtain ⟨last, hPasses⟩ := ih
    exact ⟨last, .head (by rwa [List.append_nil]) hPasses⟩

section Ahead
variable {rest : List Char} (more : List Char)

theorem head?_append_break {c : Char} (hBreak : c ≠ '\n') (hHead : rest.head? ≠ some c) :
    (rest ++ '\n' :: more).head? ≠ some c := by
  cases rest with
  | nil => simpa using hBreak.symm
  | cons d rest => exact hHead

theorem take_append_break (hTwo : rest.take 2 ≠ ['"', '"']) :
    (rest ++ '\n' :: more).take 2 ≠ ['"', '"'] := by
  rcases rest with _ | ⟨c, _ | ⟨d, rest⟩⟩
  · simp
  · simp
  · exact hTwo

theorem Step.append_break {region next : Region} {piece : List Char}
    (hStep : Step region piece next rest) (hLast : (piece ++ rest).getLast? ≠ some '\\') :
    Step region piece next (rest ++ '\n' :: more) := by
  -- what a step looks for ahead is no line break; only an escape at the end of the text takes one
  cases hStep with
  | openQuote q _ hQuote hRaw =>
    exact .openQuote q _ hQuote fun hQ => take_append_break more (hRaw hQ)
  | plain c _ hQuote hComment =>
    refine .plain c _ hQuote fun hC => ⟨?_, ?_⟩
    · exact head?_append_break more (by decide) (hComment hC).1
    · exact head?_append_break more (by decide) (hComment hC).2
  | inBlock c _ hInside =>
    exact .inBlock c _ fun hC => head?_append_break more (by decide) (hInside hC)
  | inRaw c _ hInside => exact .inRaw c _ fun hC => take_append_break more (hInside hC)
  | lastEscape q => exact absurd rfl hLast
  | _ => constructor <;> assumption

end Ahead

theorem getLast?_ne_of_append {front rest : List Char} {c : Char}
    (hLast : (front ++ rest).getLast? ≠ some c) : rest.getLast? ≠ some c := by
  intro hRest
  rw [List.getLast?_append, hRest] at hLast
  exact hLast rfl

theorem Passes.maskFrom_append_break {region next : Region} {text : List Char}
    (hPasses : Passes region text next []) (hLast : text.getLast? ≠ some '\\') (more : List Char) :
    maskFrom region (text ++ '\n' :: more) =
      maskFrom region text ++ maskFrom next ('\n' :: more) := by
  generalize hEnd : ([] : List Char) = rest at hPasses
  induction hPasses with
  | refl region rest => rw [maskFrom, List.nil_append, List.nil_append]
  | @head region middle next piece passed rest hStep hPasses ih =>
    subst hEnd
    rw [List.append_nil] at hStep
    rw [List.append_assoc, maskFrom_step (hStep.append_break more hLast), maskFrom_step hStep,
      ih (getLast?_ne_of_append hLast) rfl, List.append_assoc]

theorem maskFrom_break {region : Region} (hBlock : region ≠ .blockComment)
    (hRaw : region ≠ .rawString) (rest : List Char) :
    maskFrom region ('\n' :: rest) = '\n' :: mask rest := by
  cases region with
  | code => exact maskFrom_step (.plain '\n' rest (by decide) (absurd · (by decide)))
  | lineComment => exact maskFrom_step (.closeLine rest)
  | quoted q => exact maskFrom_step (.closeQuoted q '\n' rest (by decide) (.inr rfl))
  | blockComment => exact absurd rfl hBlock
  | rawString => exact absurd rfl hRaw

/-- The scan of a text ends in some region. If that is neither a block comment nor a raw string, and
the text does not end in a backslash, then what follows on the next line is masked as on its own:
a line comment or an open literal does not reach it. -/
theorem mask_line_by_line (text : List Char) :
    (∃ region, Passes .code text region []) ∧
    ∀ region, Passes .code text region [] → region ≠ .blockComment → region ≠ .rawString →
      text.getLast? ≠ some '\\' → ∀ rest : List Char,
        mask (text ++ '\n' :: rest) = mask text ++ '\n' :: mask rest := by
  refine ⟨exists_passes .code text, ?_⟩
  intro region hPasses hBlock hRaw hLast rest
  rw [mask, hPasses.maskFrom_append_break hLast, maskFrom_break hBlock hRaw]
  rfl

/-- A literal is left open at the end of the first line. -/
theorem mask_line_by_line_open_literal :
    let text := ['f', '(', '\'', '{']
    let rest := ['}', '\'']
    Passes .code text (.quoted '\'') [] ∧
      mask (text ++ '\n' :: rest) = mask text ++ '\n' :: mask rest := by
  intro text rest
  have hScan : Passes .code text (.quoted '\'') [] := by
    change Passes .code (['f'] ++ (['('] ++ (['\''] ++ (['{'] ++ [])))) (.quoted '\'') []
    refine .head (.plain 'f' _ (by decide) (by decide)) ?_
    refine .head (.plain '(' _ (by decide) (by decide)) ?_
    refine .head (.openQuote '\'' _ (by decide) (by decide)) ?_
    exact .head (.inQuoted '\'' '{' _ (by decide) (by decide)) (.refl _ _)
  exact ⟨hScan, (mask_line_by_line text).2 _ hScan (by decide) (by decide) (by decide) rest⟩

end SensorFlow.Source
