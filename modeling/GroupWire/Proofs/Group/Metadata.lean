import Mathlib
import GroupWire.Group.Tags

/-! # Metadata read from its tags

A field that says nothing has no tag, and each other one has a tag of its own with one value, in a
fixed order. So a reader that looks for names finds every field again, an empty text apart from
none, whatever the texts are; a picture is found by the normal form of its address. -/

namespace GroupWire.Metadata

/-- What a reader notes of the metadata. -/
structure Noted where
  name : Option Text
  about : Option Text
  picture : Option Text
  privacy : Privacy
  access : Access

def noted (m : Metadata) : Noted := ⟨m.name, m.about, m.picture.map Url.text, m.privacy, m.access⟩

/-- The value of the first tag of a name. -/
def valueOf? (n : TagName) (tags : List (List Text)) : Option Text :=
  tags.findSome? fun fields =>
    match fields with
    | token :: value :: _ => if token = n.token then some value else none
    | _ => none

/-- Fields are looked up by their names, and the policies must be there. -/
def read? (tags : List (List Text)) : Option Noted := do
  let privacy ← (valueOf? .privacy tags).bind Privacy.parse?
  let access ← (valueOf? .closed tags).bind Access.parse?
  return ⟨valueOf? .name tags, valueOf? .description tags, valueOf? .image tags, privacy, access⟩

/-- Whether there is anything to write under a name. -/
def states (m : Metadata) : TagName → Bool
  | .name => m.name.isSome
  | .description => m.about.isSome
  | .image => m.picture.isSome
  | n => n = .privacy || n = .closed

/-! ## Values under names -/

/-- The tags of a list of values, those that are absent left out. -/
def tagsOf (values : List (TagName × Option Text)) : List Tag :=
  values.flatMap fun v => optionalTag v.1 v.2

section Values

variable {n : TagName} {value : Option Text} {values : List (TagName × Option Text)}

theorem valueOf?_append (n : TagName) (s t : List (List Text)) :
    valueOf? n (s ++ t) = (valueOf? n s).or (valueOf? n t) := by
  rw [valueOf?, List.findSome?_append]
  rfl

theorem valueOf?_optionalTag (n : TagName) (value : Option Text) :
    valueOf? n ((optionalTag n value).map Tag.fields) = value := by
  cases value with
  | none => rfl
  | some t => simp [valueOf?, optionalTag, Tag.fields]

theorem valueOf?_optionalTag_of_ne {other : TagName} (ne : other ≠ n) (value : Option Text) :
    valueOf? n ((optionalTag other value).map Tag.fields) = none := by
  have tokens : other.token ≠ n.token := fun same => ne (TagName.token_injective same)
  cases value with
  | none => rfl
  | some t => simp [valueOf?, optionalTag, Tag.fields, tokens]

theorem valueOf?_tagsOf_of_not_mem (absent : n ∉ values.map Prod.fst) :
    valueOf? n ((tagsOf values).map Tag.fields) = none := by
  induction values with
  | nil => rfl
  | cons v values ih =>
    obtain ⟨ne, absent⟩ := not_or.mp (List.mem_cons.not.mp absent)
    rw [tagsOf, List.flatMap_cons, List.map_append, valueOf?_append,
      valueOf?_optionalTag_of_ne (Ne.symm ne)]
    exact ih absent

/-- Where every name occurs once, each value is found under its name. -/
theorem valueOf?_tagsOf (once : (values.map Prod.fst).Nodup) (listed : (n, value) ∈ values) :
    valueOf? n ((tagsOf values).map Tag.fields) = value := by
  induction values with
  | nil => cases listed
  | cons v values ih =>
    obtain ⟨absent, once⟩ := List.nodup_cons.mp once
    rw [tagsOf, List.flatMap_cons, List.map_append, valueOf?_append, ← tagsOf]
    rcases List.mem_cons.mp listed with rfl | listed
    · rw [valueOf?_optionalTag, valueOf?_tagsOf_of_not_mem absent, Option.or_none]
    · have ne : v.1 ≠ n := by
        intro same
        apply absent
        rw [same]
        exact List.mem_map_of_mem (f := Prod.fst) listed
      rw [valueOf?_optionalTag_of_ne ne, Option.none_or]
      exact ih once listed

theorem names_tagsOf (values : List (TagName × Option Text)) :
    (tagsOf values).map Tag.name = (values.filter (·.2.isSome)).map Prod.fst := by
  induction values with
  | nil => rfl
  | cons v values ih =>
    obtain ⟨n, value⟩ := v
    rw [tagsOf, List.flatMap_cons, List.map_append, ← tagsOf, ih]
    cases value <;> rfl

theorem values_of_mem_tagsOf {t : Tag} (h : t ∈ tagsOf values) : ∃ value, t.values = [value] := by
  obtain ⟨v, -, ht⟩ := List.mem_flatMap.mp h
  obtain ⟨value, -, rfl⟩ := Option.map_eq_some_iff.mp (Option.mem_toList.mp ht)
  exact ⟨value, rfl⟩

end Values

/-! ## The fields of metadata -/

def Noted.values (e : Noted) : List (TagName × Option Text) :=
  [(.name, e.name), (.description, e.about), (.image, e.picture), (.privacy, some e.privacy.token),
    (.closed, some e.access.token)]

theorem tags_eq_tagsOf (m : Metadata) : m.tags = tagsOf m.noted.values := by
  simp [tags, tagsOf, Noted.values, noted, optionalTag]

theorem read?_tagsOf (e : Noted) : read? ((tagsOf e.values).map Tag.fields) = some e := by
  have once : (e.values.map Prod.fst).Nodup := by simp [Noted.values]
  have found (n : TagName) (value : Option Text) (listed : (n, value) ∈ e.values) :=
    valueOf?_tagsOf once listed
  have title := found .name e.name (by simp [Noted.values])
  have about := found .description e.about (by simp [Noted.values])
  have picture := found .image e.picture (by simp [Noted.values])
  have privacy := found .privacy (some e.privacy.token) (by simp [Noted.values])
  have access := found .closed (some e.access.token) (by simp [Noted.values])
  have readPrivacy : Privacy.parse? e.privacy.token = some e.privacy := by cases e.privacy <;> rfl
  have readAccess : Access.parse? e.access.token = some e.access := by cases e.access <;> rfl
  rw [read?, title, about, picture, privacy, access, Option.bind_some, Option.bind_some,
    readPrivacy, readAccess]
  rfl

/-- Pictures are compared by the texts of their addresses. -/
theorem beq_iff_noted_eq (m n : Metadata) : (m == n) = true ↔ m.noted = n.noted := by
  have pictures :
      (m.picture == n.picture) = true ↔ m.picture.map Url.text = n.picture.map Url.text := by
    cases m.picture <;> cases n.picture <;> simp [Url.beq_iff_text_eq]
  have fields : (m == n) =
      (m.name = n.name && m.about = n.about && m.picture == n.picture &&
        m.privacy = n.privacy && m.access = n.access) := rfl
  rw [fields, noted, noted, Noted.mk.injEq]
  simp only [Bool.and_eq_true, decide_eq_true_eq, pictures, and_assoc]

/-- The tags follow the fields in their order and leave out exactly those that say nothing. Each
has one value, the policies come last, and whoever looks the names up finds every field again. So
the tags tell the metadata. -/
theorem tags_tell_fields (m : Metadata) :
    m.tags.map Tag.name = [TagName.name, .description, .image, .privacy, .closed].filter m.states ∧
      (∀ t ∈ m.tags, ∃ value, t.values = [value]) ∧
      [⟨.privacy, [m.privacy.token]⟩, ⟨.closed, [m.access.token]⟩] <:+ m.tags ∧
      read? (m.tags.map Tag.fields) = some m.noted ∧
      ∀ n : Metadata, m.tags.map Tag.fields = n.tags.map Tag.fields ↔ (m == n) = true := by
  have read (n : Metadata) : read? (n.tags.map Tag.fields) = some n.noted := by
    rw [tags_eq_tagsOf, read?_tagsOf]
  refine ⟨?_, ?_, List.suffix_append _ _, read m, fun n => ?_⟩
  · rw [tags_eq_tagsOf, names_tagsOf]
    obtain ⟨title, about, picture, privacy, access⟩ := m
    cases title <;> cases about <;> cases picture <;> rfl
  · intro t ht
    rw [tags_eq_tagsOf] at ht
    exact values_of_mem_tagsOf ht
  · rw [beq_iff_noted_eq]
    constructor
    · intro same
      have seen := read m
      rw [same, read n] at seen
      exact (Option.some.inj seen).symm
    · intro same
      rw [tags_eq_tagsOf, tags_eq_tagsOf, same]

end GroupWire.Metadata
