import Mathlib.Data.List.Forall2
import SensorFlow.Report.Codec

/-!
# Documents with further members

A document is widened by members that its reader does not know, in any object at any depth. Which
members an object has is said by the names of its plain members, which stay as they are, and of its
nested ones, which may be widened themselves. A reader of typed values recovers a value if it reads
the same value off every widening of a document.
-/
namespace SensorFlow.Json
set_option autoImplicit false

abbrev Widening := Json → Json → Prop

/-- The members that are known are those of the narrow object, in their order. -/
def ObjectWidens (plain : List String) (nested : List (String × Widening)) : Widening :=
  fun narrow wide => ∃ members more, narrow = .obj members ∧ wide = .obj more ∧
    List.Forall₂
      (fun member later => member.1 = later.1 ∧ (member.1 ∈ plain → member.2 = later.2) ∧
        ∀ entry ∈ nested, entry.1 = member.1 → entry.2 member.2 later.2)
      members (more.filter fun member => (plain ++ nested.map Prod.fst).contains member.1)

def ItemsWiden (widens : Widening) : Widening :=
  fun narrow wide => ∃ items later, narrow = .arr items ∧ wide = .arr later ∧
    List.Forall₂ widens items later

/-- A part that is absent stays absent. -/
def PartWidens (widens : Widening) : Widening :=
  fun narrow wide => (narrow = .null ∧ wide = .null) ∨ widens narrow wide

theorem member?_filter {known : List String} {key : String} (hKey : key ∈ known)
    (members : List (String × Json)) :
    member? key (members.filter fun member => known.contains member.1) = member? key members := by
  induction members with
  | nil => rfl
  | cons member members ih =>
    obtain ⟨name, value⟩ := member
    by_cases hKnown : name ∈ known
    · rw [List.filter_cons_of_pos (by simpa using hKnown), member?, member?, ih]
    · have hOther : (name == key) = false :=
        beq_eq_false_iff_ne.2 fun hSame => hKnown (hSame ▸ hKey)
      rw [List.filter_cons_of_neg (by simpa using hKnown), ih, member?, hOther]
      cases member? key members <;> rfl

theorem member?_of_forall₂ {related : String × Json → String × Json → Prop}
    (hNames : ∀ member later, related member later → member.1 = later.1) {key : String}
    {members more : List (String × Json)} (hRelated : List.Forall₂ related members more) :
    (member? key members = none ∧ member? key more = none) ∨
      ∃ value later, member? key members = some value ∧ member? key more = some later ∧
        related (key, value) (key, later) := by
  induction members generalizing more with
  | nil =>
    cases hRelated
    exact .inl ⟨rfl, rfl⟩
  | cons member members ih =>
    obtain ⟨later, more, hHead, hTail, rfl⟩ := List.forall₂_cons_left_iff.1 hRelated
    obtain ⟨name, value⟩ := member
    obtain ⟨_, laterValue⟩ := later
    obtain rfl := hNames _ _ hHead
    rcases ih hTail with
      ⟨hNone, hNoneLater⟩ | ⟨found, foundLater, hFound, hFoundLater, hFoundRelated⟩
    · by_cases hKey : name = key
      · subst hKey
        exact .inr
          ⟨value, laterValue, by simp [member?, hNone], by simp [member?, hNoneLater], hHead⟩
      · exact .inl ⟨by simp [member?, hNone, hKey], by simp [member?, hNoneLater, hKey]⟩
    · -- of several members of one name the last one counts, in both objects
      exact .inr ⟨found, foundLater, by simp [member?, hFound], by simp [member?, hFoundLater],
        hFoundRelated⟩

section Objects

variable {plain : List String} {nested : List (String × Widening)} {members : List (String × Json)}
  {wide : Json}

/-- What a reader sees of a widened object: the plain members unchanged, and the nested ones
widened. -/
theorem ObjectWidens.exists_members (hWidens : ObjectWidens plain nested (.obj members) wide) :
    ∃ more, wide = .obj more ∧ (∀ key ∈ plain, member? key more = member? key members) ∧
      ∀ entry ∈ nested, ∀ value, member? entry.1 members = some value →
        ∃ later, member? entry.1 more = some later ∧ entry.2 value later := by
  obtain ⟨_, more, hSame, rfl, hRelated⟩ := hWidens
  cases hSame
  refine ⟨more, rfl, ?_, ?_⟩
  · intro key hKey
    rw [← member?_filter (List.mem_append_left (nested.map Prod.fst) hKey) more]
    rcases member?_of_forall₂ (fun _ _ hRelated => hRelated.1) hRelated with
      ⟨hNone, hNoneLater⟩ | ⟨value, later, hValue, hLater, _, hPlain, _⟩
    · rw [hNone, hNoneLater]
    · rw [hValue, hLater]
      exact congrArg some (hPlain hKey).symm
  · intro entry hEntry value hValue
    have hKnown : entry.1 ∈ plain ++ nested.map Prod.fst :=
      List.mem_append_right _ (List.mem_map.2 ⟨entry, hEntry, rfl⟩)
    rw [← member?_filter hKnown more]
    rcases member?_of_forall₂ (fun _ _ hRelated => hRelated.1) hRelated with
      ⟨hNone, _⟩ | ⟨found, later, hFound, hLater, _, _, hNested⟩
    · rw [hNone] at hValue
      cases hValue
    · rw [hFound] at hValue
      cases hValue
      exact ⟨later, hLater, hNested entry hEntry rfl⟩

/-- An object all of whose members are known is the least widening of itself. -/
theorem ObjectWidens.self
    (hKnown : ∀ member ∈ members, member.1 ∈ plain ++ nested.map Prod.fst)
    (hNested : ∀ entry ∈ nested, ∀ member ∈ members, entry.1 = member.1 →
      entry.2 member.2 member.2) :
    ObjectWidens plain nested (.obj members) (.obj members) := by
  refine ⟨members, members, rfl, rfl, ?_⟩
  rw [List.filter_eq_self.2 fun member hMember => List.contains_iff_mem.2 (hKnown member hMember)]
  refine List.forall₂_same.2 fun member hMember => ⟨rfl, fun _ => rfl, fun entry hEntry hName => ?_⟩
  exact hNested entry hEntry member hMember hName

theorem ObjectWidens.isEmpty_eq {member : String × Json}
    (hWidens : ObjectWidens plain nested (.obj (member :: members)) wide) :
    wide.isEmpty = false := by
  obtain ⟨_, more, hSame, rfl, hRelated⟩ := hWidens
  cases hSame
  cases more with
  | nil => cases hRelated
  | cons => rfl

end Objects

theorem ItemsWiden.self {α : Type} {widens : Widening} {toJson : α → Json}
    (hSelf : ∀ value, widens (toJson value) (toJson value)) (values : List α) :
    ItemsWiden widens (.arr (values.map toJson)) (.arr (values.map toJson)) := by
  refine ⟨_, _, rfl, rfl, List.forall₂_same.2 fun item hItem => ?_⟩
  obtain ⟨value, _, rfl⟩ := List.mem_map.1 hItem
  exact hSelf value

theorem PartWidens.self {α : Type} {widens : Widening} {toJson : α → Json}
    (hSelf : ∀ value, widens (toJson value) (toJson value)) (part : Option α) :
    PartWidens widens ((part.map toJson).getD .null) ((part.map toJson).getD .null) := by
  cases part with
  | none => exact .inl ⟨rfl, rfl⟩
  | some value => exact .inr (hSelf value)

/-- Every widening of the document is read as the value. -/
def Recovers {α : Type} (widens : Widening) (read : Json → Decoded α) (json : Json) (value : α) :
    Prop :=
  ∀ wide, widens json wide → read wide = .ok value

variable {α : Type} {widens : Widening} {toJson : α → Json}

theorem mapM_eq_ok {β : Type} {read : β → Decoded α} {values : List α} {items : List β}
    (hRead : List.Forall₂ (fun value item => read item = .ok value) values items) :
    items.mapM read = .ok values := by
  induction hRead with
  | nil => rfl
  | cons hItem _ ih =>
    rw [List.mapM_cons, hItem, ih]
    rfl

theorem recovers_list {read : Json → Decoded α}
    (hRead : ∀ value, Recovers widens read (toJson value) value) (values : List α) :
    Recovers (ItemsWiden widens) (asList read) (.arr (values.map toJson)) values := by
  rintro wide ⟨_, later, hSame, rfl, hLater⟩
  cases hSame
  refine mapM_eq_ok ((List.forall₂_map_left_iff.1 hLater).imp ?_)
  intro value item hItem
  exact hRead value item hItem

theorem recovers_indexed {read : Nat → Json → Decoded α}
    (hRead : ∀ pos value, Recovers widens (read pos) (toJson value) value) (values : List α) :
    Recovers (ItemsWiden widens) (asIndexed read) (.arr (values.map toJson)) values := by
  rintro wide ⟨_, later, hSame, rfl, hLater⟩
  cases hSame
  rw [← List.zipIdx_map_fst 0 later] at hLater
  refine mapM_eq_ok ((List.forall₂_map_right_iff.1 (List.forall₂_map_left_iff.1 hLater)).imp ?_)
  intro value item hItem
  exact hRead item.2 value item.1 hItem

/-- A part that is there stands for something, also when it is widened. -/
theorem recovers_part {plain : List String} {nested : List (String × Widening)}
    {read : Json → Decoded α}
    (hRead : ∀ value, Recovers (ObjectWidens plain nested) read (toJson value) value)
    (hObject : ∀ value, ∃ member members, toJson value = .obj (member :: members))
    (part : Option α) :
    Recovers (PartWidens (ObjectWidens plain nested)) (asPart read)
      ((part.map toJson).getD .null) part := by
  intro wide hWidens
  cases part with
  | none =>
    rcases hWidens with ⟨_, rfl⟩ | ⟨members, _, hNull, _⟩
    · rfl
    · cases hNull
  | some value =>
    obtain ⟨member, members, hValue⟩ := hObject value
    rcases hWidens with ⟨hNull, _⟩ | hWidens
    · rw [Option.map_some, Option.getD_some, hValue] at hNull
      cases hNull
    · have hFull : wide.isEmpty = false := by
        rw [Option.map_some, Option.getD_some, hValue] at hWidens
        exact hWidens.isEmpty_eq
      rw [asPart, hFull, hRead value wide hWidens]
      rfl

end SensorFlow.Json
