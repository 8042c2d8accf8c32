import SensorFlow.Kotlin.Outline
import SensorFlow.Proofs.Source.Masking

/-!
# What stands in comments and literals

The classes of a source are read off its masked text, and the mask does not depend on what a
comment or a literal holds: other contents with the same line breaks, and without the signs that
could end them, are masked in the same way.
-/
namespace SensorFlow.Kotlin
open Source
set_option autoImplicit false

/-- The scan of a source opens a comment or a literal behind `before`. -/
structure Opens (source before opening : List Char) (region : Region) (behind : List Char) :
    Prop where
  source_eq : source = before ++ (opening ++ behind)
  reached : Passes .code before .code (opening ++ behind)
  opened : Step .code opening region behind
  special : region ≠ .code

/-- What stands behind an opening: the contents of the region, up to its end or to the end of the
text. -/
structure Contents (region : Region) (behind inside rest : List Char) : Prop where
  text_eq : behind = inside ++ rest
  filled : Fills region inside rest
  ended : rest = [] ∨ ∃ closing more, rest = closing ++ more ∧ Step region closing .code more

/-- Other contents for a region: line breaks at the same places, none of the signs that end or
escape, and no escaped line break in the quoted text that they stand for. -/
structure Replaces (region : Region) (inside other : List Char) : Prop where
  breaks : other.map (· == '\n') = inside.map (· == '\n')
  plain : ∀ c ∈ other, c ∉ ['"', '\'', '\\', '*', '/']
  unescaped : ∀ q, region = .quoted q → ¬['\\', '\n'] <:+: inside

theorem map_blank_eq {inside other : List Char}
    (hBreaks : other.map (· == '\n') = inside.map (· == '\n')) :
    other.map blank = inside.map blank := by
  have hBlank : blank = (fun isBreak => if isBreak then '\n' else ' ') ∘ (· == '\n') := by
    funext c
    simp [blank]
  rw [hBlank, ← List.map_map, hBreaks, List.map_map]

theorem mem_break_iff {inside other : List Char}
    (hBreaks : other.map (· == '\n') = inside.map (· == '\n')) : '\n' ∈ other ↔ '\n' ∈ inside := by
  have hMem : ∀ text : List Char, '\n' ∈ text ↔ true ∈ text.map (· == '\n') := by simp
  rw [hMem, hBreaks, ← hMem]

theorem quote_of_opened {opening behind : List Char} {q : Char}
    (hStep : Step .code opening (.quoted q) behind) : q = '"' ∨ q = '\'' := by
  cases hStep with
  | openQuote _ _ hQuote => exact hQuote

/-- Other contents fill the region as the old ones did. -/
theorem fills_of_replaces {opening inside rest other : List Char} {region : Region}
    (hOpened : Step .code opening region (inside ++ rest)) (hRegion : region ≠ .code)
    (hFills : Fills region inside rest) (hReplaces : Replaces region inside other) :
    Fills region other rest := by
  apply fills_of_forall
  intro c hC behind
  have hPlain := hReplaces.plain c hC
  cases region with
  | code => exact absurd rfl hRegion
  | lineComment =>
    apply Step.inLine
    rintro rfl
    exact not_mem_of_fills_line hFills ((mem_break_iff hReplaces.breaks).1 hC)
  | blockComment =>
    apply Step.inBlock
    rintro rfl
    exact absurd hPlain (by decide)
  | rawString =>
    apply Step.inRaw
    rintro rfl
    exact absurd hPlain (by decide)
  | quoted q =>
    apply Step.inQuoted
    · rintro rfl
      exact hPlain (by decide)
    · rintro (rfl | rfl)
      · rcases quote_of_opened hOpened with rfl | rfl <;> exact hPlain (by decide)
      · exact not_mem_of_fills_quoted hFills (hReplaces.unescaped q rfl)
          ((mem_break_iff hReplaces.breaks).1 hC)

/-- Other contents are opened by the same sign: they do not start with a quote. -/
theorem opened_of_replaces {opening inside rest other : List Char} {region : Region}
    (hOpened : Step .code opening region (inside ++ rest)) (hRegion : region ≠ .code)
    (hReplaces : Replaces region inside other) : Step .code opening region (other ++ rest) := by
  cases hOpened with
  | openLine => exact .openLine _
  | openBlock => exact .openBlock _
  | openRaw => exact .openRaw _
  | plain => exact absurd rfl hRegion
  | openQuote q _ hQuote hRaw =>
    refine .openQuote q _ hQuote ?_
    intro hQ
    cases other with
    | nil =>
      have hInside : inside = [] := by simpa using hReplaces.breaks.symm
      rw [hInside] at hRaw
      exact hRaw hQ
    | cons c other =>
      have hC := hReplaces.plain c List.mem_cons_self
      intro hTwo
      obtain ⟨rfl, _⟩ := List.cons.inj hTwo
      exact hC (by decide)

/-- Whatever the scan of a source opens has contents, and other contents with the same line breaks
and without delimiters or escapes leave the mask of the source and its classes as they are. -/
theorem contents_do_not_matter {source before opening behind : List Char} {region : Region}
    (hOpens : Opens source before opening region behind) :
    (∃ inside rest, Contents region behind inside rest) ∧
    ∀ inside rest other, Contents region behind inside rest → Replaces region inside other →
      mask (before ++ (opening ++ (other ++ rest))) = mask source ∧
      ∀ path, classes (before ++ (opening ++ (other ++ rest))) path = classes source path := by
  obtain ⟨rfl, hReached, hOpened, hSpecial⟩ := hOpens
  constructor
  · obtain ⟨inside, rest, hText, hFills, hEnd⟩ := exists_fills hSpecial behind
    exact ⟨inside, rest, hText, hFills, hEnd⟩
  rintro inside rest other ⟨rfl, hFills, _⟩ hReplaces
  -- whatever the contents, the mask is that of `before` and of the opening, blanks, and the mask of
  -- the rest from the same region on
  obtain ⟨masked, hMasked⟩ := hReached.exists_mask
  have hMask : ∀ contents, Step .code opening region (contents ++ rest) →
      Fills region contents rest → mask (before ++ (opening ++ (contents ++ rest))) =
        masked ++ (shown .code region opening ++ (contents.map blank ++ maskFrom region rest)) := by
    intro contents hStep hContents
    rw [mask, hMasked, maskFrom_step hStep, maskFrom_of_fills hSpecial hContents]
    rw [List.head?_append_of_ne_nil _ hStep.piece_ne_nil,
      List.head?_append_of_ne_nil _ hStep.piece_ne_nil]
  have hSame : mask (before ++ (opening ++ (other ++ rest))) =
      mask (before ++ (opening ++ (inside ++ rest))) := by
    rw [hMask inside hOpened hFills, hMask other (opened_of_replaces hOpened hSpecial hReplaces)
      (fills_of_replaces hOpened hSpecial hFills hReplaces), map_blank_eq hReplaces.breaks]
  refine ⟨hSame, ?_⟩
  intro path
  rw [classes, classes, hSame]

/-- A literal that holds an escaped quote and a brace. -/
def escapedQuote : List Char := "x\"\\\"\x7b\"".toList

theorem contents_do_not_matter_escaped :
    Opens escapedQuote ['x'] ['"'] (.quoted '"') ['\\', '"', '{', '"'] ∧
    Contents (.quoted '"') ['\\', '"', '{', '"'] ['\\', '"', '{'] ['"'] ∧
    Replaces (.quoted '"') ['\\', '"', '{'] ['a', 'b', 'c'] ∧
    mask "x\"abc\"".toList = mask escapedQuote := by
  have hOpens : Opens escapedQuote ['x'] ['"'] (.quoted '"') ['\\', '"', '{', '"'] := by
    refine ⟨rfl, ?_, .openQuote '"' _ (by decide) (by decide), by decide⟩
    exact .head (.plain 'x' _ (by decide) (by decide)) (.refl _ _)
  have hContents : Contents (.quoted '"') ['\\', '"', '{', '"'] ['\\', '"', '{'] ['"'] := by
    refine ⟨rfl, ?_, .inr ⟨['"'], [], rfl, .closeQuoted '"' '"' [] (by decide) (by decide)⟩⟩
    exact .cons (.escape '"' '"' _) (.cons (.inQuoted '"' '{' _ (by decide) (by decide)) (.nil _))
  have hReplaces : Replaces (.quoted '"') ['\\', '"', '{'] ['a', 'b', 'c'] :=
    ⟨rfl, by simp, fun q _ => by decide⟩
  exact ⟨hOpens, hContents, hReplaces,
    ((contents_do_not_matter hOpens).2 _ _ _ hContents hReplaces).1⟩

end SensorFlow.Kotlin
