import SensorFlow.Kotlin.Outline
import SensorFlow.Proofs.Kotlin.Header

/-!
# Whose field a property is

The fields of a declaration are the properties at the top of its body and those among its own
constructor parameters. A declaration nested in it keeps all its properties to itself if it has a
body. One without a body ends where it starts, so nothing hides its constructor parameters from
the declaration around it.
-/
namespace SensorFlow.Kotlin
open Text Source
set_option autoImplicit false

/-- The header at `hit` declares `d`. -/
def Located (text : List Char) (hit : Hit (List Char)) (d : Declaration) : Prop :=
  hit ∈ findAll readDeclared text ∧ undeclaredNames.contains hit.value = false ∧
    declaration? text hit = some d

/-- An offset between the parentheses of the constructor or inside the body. -/
def InMembers (text : List Char) (hit : Hit (List Char)) (d : Declaration) (pos : Nat) : Prop :=
  (∃ span, constructorSpan? text hit = some span ∧ span.first < pos ∧ pos < span.last) ∨
    d.bodyCovers pos = true

/-- The properties at the top of the body. -/
def topProperties (text : List Char) (d : Declaration) : List (Hit (List Char × List Char)) :=
  match d.body? with
  | none => []
  | some body =>
    (findBetween readTypedProperty text (body.first + 1) body.last).filter fun hit =>
      braceDepth text hit.start == braceDepth text (body.first + 1)

/-- Those of them that no nested declaration covers. -/
def ownProperties (text : List Char) (d : Declaration) : List (Hit (List Char × List Char)) :=
  (topProperties text d).filter fun hit =>
    !(nestedIn (declarations text) d).any (·.covers hit.start)

def fieldAt (text : List Char) (hit : Hit (List Char × List Char)) : FieldSymbol :=
  fieldOf hit.value.1 (squeeze hit.value.2) (lineOf text hit.start)

/-- The class that a source has for a declaration. -/
def classFor (source : List Char) (path : String) (d : Declaration) : ClassSymbol :=
  classOf (mask source) path (declarations (mask source)) (functions (mask source)) d

theorem bodyFields_eq (text : List Char) (d : Declaration) :
    bodyFields text (declarations text) d = (ownProperties text d).map (fieldAt text) := by
  rw [bodyFields, ownProperties, topProperties]
  cases d.body? with
  | none => rfl
  | some body =>
    rw [List.filter_filter]
    simp only [Bool.and_comm]
    rfl

theorem fields_classFor (source : List Char) (path : String) (d : Declaration) :
    (classFor source path d).fields =
      (ownProperties (mask source) d).map (fieldAt (mask source)) ++ constructorFields d := by
  rw [← bodyFields_eq]
  rfl

section Located

variable {text : List Char} {hit inner : Hit (List Char)} {d e : Declaration}

theorem Located.mem_declarations (hLocated : Located text hit d) : d ∈ declarations text := by
  obtain ⟨hHit, hName, hRead⟩ := hLocated
  exact List.mem_filterMap.2 ⟨hit, List.mem_filter.2 ⟨hHit, by rw [hName]; rfl⟩, hRead⟩

theorem Located.layout (hLocated : Located text hit d) : Layout text hit d :=
  layout_of_declaration? (start_le_stop_of_mem_findAll hLocated.1) hLocated.2.2

theorem bodyCovers_eq_true_iff {pos : Nat} :
    d.bodyCovers pos = true ↔ ∃ body, d.body? = some body ∧ body.first < pos ∧ pos ≤ body.last := by
  rw [Declaration.bodyCovers]
  cases d.body? with
  | none => simp
  | some body => simp

theorem covers_of_inMembers (hLayout : Layout text inner e) (hBody : e.body? ≠ none) {pos : Nat}
    (hMembers : InMembers text inner e pos) : e.covers pos = true := by
  obtain ⟨body, hBody⟩ := Option.ne_none_iff_exists'.1 hBody
  have hOrder := hLayout.body body hBody
  have hBounds : e.start ≤ pos ∧ pos ≤ body.last := by
    rcases hMembers with ⟨span, hSpan, hFirst, hLast⟩ | hInside
    · have hStart := hLayout.span span hSpan
      have hBefore := hLayout.span_before_body span body hSpan hBody
      omega
    · obtain ⟨same, hSame, hFirst, hLast⟩ := bodyCovers_eq_true_iff.1 hInside
      obtain rfl := Option.some.inj (hBody.symm.trans hSame)
      omega
  simpa [Declaration.covers, Declaration.stop, hBody] using hBounds

theorem start_le_of_inMembers (hLayout : Layout text inner e) {pos : Nat}
    (hMembers : InMembers text inner e pos) : e.start ≤ pos := by
  rcases hMembers with ⟨span, hSpan, hFirst, _⟩ | hInside
  · have hStart := hLayout.span span hSpan
    omega
  · obtain ⟨body, hBody, hFirst, _⟩ := bodyCovers_eq_true_iff.1 hInside
    have hStart := hLayout.body body hBody
    omega

theorem mem_nestedIn_iff (hLayout : Layout text hit d) {all : List Declaration} :
    e ∈ nestedIn all d ↔ e ∈ all ∧ d.bodyCovers e.start = true := by
  rw [nestedIn, bodyCovers_eq_true_iff]
  cases hBody : d.body? with
  | none => simp
  | some body =>
    -- the declaration itself starts before its body
    have hStart := (hLayout.body body hBody).1
    simp only [List.mem_filter, Bool.and_eq_true, bne_iff_ne, decide_eq_true_eq, Option.some.injEq,
      exists_eq_left']
    constructor
    · rintro ⟨hAll, ⟨_, hFirst⟩, hLast⟩
      exact ⟨hAll, hFirst, hLast⟩
    · rintro ⟨hAll, hFirst, hLast⟩
      exact ⟨hAll, ⟨by omega, hFirst⟩, hLast⟩

theorem mem_ownProperties_iff (hLayout : Layout text hit d)
    (property : Hit (List Char × List Char)) :
    property ∈ ownProperties text d ↔ property ∈ topProperties text d ∧
      ∀ other ∈ declarations text, d.bodyCovers other.start = true →
        other.covers property.start = false := by
  rw [ownProperties, List.mem_filter, Bool.not_eq_true', List.any_eq_false]
  simp only [mem_nestedIn_iff hLayout, Bool.not_eq_true, and_imp]

theorem word_of_mem_topProperties {property : Hit (List Char × List Char)}
    (hProperty : property ∈ topProperties text d) :
    ∃ word ∈ propertyWords, word <+: text.drop property.start := by
  rw [topProperties] at hProperty
  split at hProperty
  · cases hProperty
  · next body hBody =>
    obtain ⟨before, rest, behind, hPrefix, hRead⟩ :=
      exists_read_of_mem_findBetween (List.mem_filter.1 hProperty).1
    obtain ⟨_, hRead, _⟩ := Option.bind_eq_some_iff.1 hRead
    obtain ⟨_, hRead, _⟩ := Option.bind_eq_some_iff.1 hRead
    obtain ⟨spaced, hRead, _⟩ := Option.bind_eq_some_iff.1 hRead
    rw [readPropertyWord] at hRead
    split at hRead
    · obtain ⟨word, hWord, hAfter⟩ := List.exists_of_findSome?_eq_some hRead
      rw [(after?_eq_some_iff word rest spaced).1 hAfter] at hPrefix
      exact ⟨word, hWord, (List.prefix_append word spaced).trans hPrefix⟩
    · cases hRead

end Located

/-- A property among the members of a declaration that is nested in another is a field of the
outer one exactly if the nested declaration has no body, and the property stands at the top of the
outer body, outside the other nested declarations. The other fields of the outer declaration are
written before the nested one, in its own constructor. -/
theorem nested_property_reported_iff (source : List Char) (path : String)
    {outer inner : Hit (List Char)} {d e : Declaration} (hOuter : Located (mask source) outer d)
    (hInner : Located (mask source) inner e) (hNested : d.bodyCovers e.start = true) :
    (classFor source path d ∈ classes source path ∧
      (classFor source path d).fields =
        (ownProperties (mask source) d).map (fieldAt (mask source)) ++ constructorFields d) ∧
    (∀ property ∈ ownProperties (mask source) d,
      ∃ word ∈ propertyWords, word <+: (mask source).drop property.start) ∧
    (∀ property, InMembers (mask source) inner e property.start →
      (property ∈ ownProperties (mask source) d ↔
        e.body? = none ∧ property ∈ topProperties (mask source) d ∧
          ∀ other ∈ declarations (mask source), d.bodyCovers other.start = true →
            other.covers property.start = false)) ∧
    d.constructorParams = ((constructorSpan? (mask source) outer).map fun span =>
      slice (mask source) (span.first + 1) span.last).getD [] ∧
    ∀ span pos, constructorSpan? (mask source) outer = some span →
      InMembers (mask source) inner e pos → span.last < pos := by
  have hLayout := hOuter.layout
  refine ⟨⟨?_, fields_classFor _ _ _⟩, ?_, ?_, hLayout.params, ?_⟩
  · exact List.mem_append_left _ (List.mem_map.2 ⟨d, hOuter.mem_declarations, rfl⟩)
  · intro property hProperty
    exact word_of_mem_topProperties ((mem_ownProperties_iff hLayout _).1 hProperty).1
  · intro property hMembers
    rw [mem_ownProperties_iff hLayout]
    constructor
    · rintro ⟨hTop, hFree⟩
      refine ⟨?_, hTop, hFree⟩
      cases hBody : e.body? with
      | none => rfl
      | some body =>
        -- with a body the nested declaration reaches over its constructor and hides the property
        have hCovers := covers_of_inMembers hInner.layout (by simp [hBody]) hMembers
        rw [hFree e hInner.mem_declarations hNested] at hCovers
        cases hCovers
    · rintro ⟨_, hTop, hFree⟩
      exact ⟨hTop, hFree⟩
  · intro span pos hSpan hMembers
    obtain ⟨body, hBody, hFirst, _⟩ := bodyCovers_eq_true_iff.1 hNested
    have hBefore := hLayout.span_before_body span body hSpan hBody
    have hStart := start_le_of_inMembers hInner.layout hMembers
    omega

/-- A nested class with a body and a property in its constructor. -/
def braced : List Char :=
  "class A \x7b\n class B(\n  val x: Int\n ) \x7b \x7d\n val y: Int = 0\n\x7d".toList

theorem nested_property_reported_iff_braced : ∃ outer inner d e property,
    Located (mask braced) outer d ∧ Located (mask braced) inner e ∧ d.bodyCovers e.start = true ∧
    InMembers (mask braced) inner e property.start ∧ property ∈ topProperties (mask braced) d ∧
    property ∉ ownProperties (mask braced) d := by
  let outer : Hit (List Char) := ⟨0, 7, ['A']⟩
  let inner : Hit (List Char) := ⟨11, 18, ['B']⟩
  let d : Declaration := ⟨['A'], 0, 1, [], [], some ⟨8, 56⟩⟩
  let e : Declaration := ⟨['B'], 11, 2, "\n  val x: Int\n ".toList, [], some ⟨36, 38⟩⟩
  let x : Hit (List Char × List Char) := ⟨22, 32, ['x'], "Int".toList⟩
  have hOuter : Located (mask braced) outer d :=
    ⟨by decide +kernel, by decide +kernel, by decide +kernel⟩
  have hInner : Located (mask braced) inner e :=
    ⟨by decide +kernel, by decide +kernel, by decide +kernel⟩
  have hNested : d.bodyCovers e.start = true := by decide
  have hMembers : InMembers (mask braced) inner e x.start :=
    .inl ⟨⟨18, 34⟩, by decide +kernel, by decide, by decide⟩
  refine ⟨outer, inner, d, e, x, hOuter, hInner, hNested, hMembers, by decide +kernel, ?_⟩
  intro hOwn
  have hBody := (((nested_property_reported_iff braced "A.kt" hOuter hInner hNested).2.2.1 x
    hMembers).1 hOwn).1
  cases hBody

/-- The constructor property of a nested class without a body is a field of both classes. -/
theorem bodyless_constructor_property_leaks :
    (classes ("class Outer \x7b\n    class Inner(\n        val x: Int\n    )\n\n" ++
      "    val y: Int = 0\n\x7d\n").toList "Outer.kt").map
        (fun c => (c.name, c.fields.map (·.name))) =
      [("Outer", ["x", "y"]), ("Inner", ["x"])] := by
  decide +kernel

end SensorFlow.Kotlin
