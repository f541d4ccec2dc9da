import Mathlib
import GroupWire.Config
import GroupWire.Proofs.Config.Field

/-! # Definitions of groups as texts

A definition of plain data is known by its texts. It is read exactly if each of them passes the
check of what it stands for, and what is read is what the texts mean, entry by entry. -/

namespace GroupWire.Config
open Checked Outcome

/-! ## Definitions as texts

A key that is missing is `none`; where null may stand for a text, it is `some none`. -/

structure MetadataTexts where
  name : Option (Option Text)
  about : Option (Option Text)
  picture : Option (Option Text)
  privacy : Option Text
  access : Option Text

structure RoleTexts where
  name : Text
  description : Option (Option Text)

structure AdminTexts where
  key : Text
  roles : Option (List Text)

structure GroupTexts where
  relay : Text
  id : Text
  metadata : Option MetadataTexts
  roles : Option (List RoleTexts)
  admins : Option (List AdminTexts)
  members : Option (List Text)

/-! Keys come in any order, among others that mean nothing. -/

structure HasMetadata (es : List (Value × Value)) (w : MetadataTexts) : Prop where
  name : HasKey es "name" IsTextOrNull w.name
  about : HasKey es "about" IsTextOrNull w.about
  picture : HasKey es "picture" IsTextOrNull w.picture
  privacy : HasKey es "privacy" IsText w.privacy
  access : HasKey es "closed" IsText w.access

structure HasRole (es : List (Value × Value)) (w : RoleTexts) : Prop where
  name : HasKey es "name" IsText (some w.name)
  description : HasKey es "description" IsTextOrNull w.description

structure HasAdmin (es : List (Value × Value)) (w : AdminTexts) : Prop where
  key : HasKey es "public_key" IsText (some w.key)
  roles : HasKey es "roles" (IsList IsText) w.roles

structure HasGroup (es : List (Value × Value)) (w : GroupTexts) : Prop where
  relay : HasKey es "relay_url" IsText (some w.relay)
  id : HasKey es "id" IsText (some w.id)
  metadata : HasKey es "metadata" (IsDict HasMetadata) w.metadata
  roles : HasKey es "roles" (IsList (IsDict HasRole)) w.roles
  admins : HasKey es "admins" (IsList (IsDict HasAdmin)) w.admins
  members : HasKey es "members" (IsList IsText) w.members

/-! ## What the texts mean -/

section
variable {α ω : Type} {Means : ω → α → Prop}

theorem meansOr_textOrNull {o : Option (Option Text)} {x : Option Text} :
    MeansOr none (Option.Rel Eq) o x ↔ x = o.join := by
  rcases o with _ | _ | t <;> cases x <;> simp [MeansOr, eq_comm]

theorem meansOr_nil {o : Option (List ω)} {xs : List α} :
    MeansOr [] (List.Forall₂ Means) o xs ↔ List.Forall₂ Means (o.getD []) xs := by
  cases o <;> simp [MeansOr]

theorem meansOr_texts {o : Option (List Text)} {xs : List Text} :
    MeansOr [] (List.Forall₂ Eq) o xs ↔ xs = o.getD [] := by
  rw [meansOr_nil, List.forall₂_eq_eq_eq, eq_comm]

theorem exists_meansOr {d : α} {o : Option ω} :
    (∃ x, MeansOr d Means o x) ↔ ∀ w ∈ o, ∃ x, Means w x := by
  cases o <;> simp [MeansOr]

theorem exists_rel {o : Option ω} : (∃ x, Option.Rel Means o x) ↔ ∀ w ∈ o, ∃ x, Means w x := by
  cases o with
  | none => exact iff_of_true ⟨none, .none⟩ (by simp)
  | some w =>
    constructor
    · rintro ⟨_, ⟨means⟩⟩ _ ⟨⟩
      exact ⟨_, means⟩
    · intro h
      obtain ⟨x, means⟩ := h w rfl
      exact ⟨some x, .some means⟩

theorem exists_forall₂ {ws : List ω} :
    (∃ xs, List.Forall₂ Means ws xs) ↔ ∀ w ∈ ws, ∃ x, Means w x := by
  induction ws with
  | nil => simp
  | cons w ws ih => simp [List.forall₂_cons_left_iff, ← ih]

end

structure MetadataTexts.Means (w : MetadataTexts) (m : Metadata) : Prop where
  name : m.name = w.name.join
  about : m.about = w.about.join
  picture : MeansOr none (Option.Rel fun t u => Url.parse t = .ok u) w.picture m.picture
  privacy : MeansOr .anyone (fun t p => Privacy.parse? t = some p) w.privacy m.privacy
  access : MeansOr .opened (fun t a => Access.parse? t = some a) w.access m.access

structure RoleTexts.Means (w : RoleTexts) (r : Role) : Prop where
  name : r.name = w.name ∧ w.name ≠ []
  description : r.description = w.description.join

structure AdminTexts.Means (w : AdminTexts) (a : Admin) : Prop where
  key : PublicKey.parse? w.key = some a.key
  roles : a.roles = w.roles.getD []

structure GroupTexts.Means (w : GroupTexts) (c : GroupConfig) : Prop where
  relay : Url.parse w.relay = .ok c.group.relay
  id : GroupId.check w.id = .ok ⟨c.group.id, c.group.valid⟩
  metadata : MeansOr .blank MetadataTexts.Means w.metadata c.metadata
  roles : List.Forall₂ RoleTexts.Means (w.roles.getD []) c.roles.items
  admins : List.Forall₂ AdminTexts.Means (w.admins.getD []) c.admins.items
  members : List.Forall₂ (fun t k => PublicKey.parse? t = some k) (w.members.getD [])
    c.members.items

theorem reads_metadata : Reads readMetadata (IsDict HasMetadata) MetadataTexts.Means := by
  rintro _ w ⟨has⟩ m
  simp only [readMetadata, entriesOf, bind_eq_ok_iff, Except.ok.injEq, exists_eq_left',
    both_eq_ok_iff, reads_text.orNull.optional has.name, reads_text.orNull.optional has.about,
    reads_url.orNull.optional has.picture, reads_privacy.optional has.privacy,
    reads_access.optional has.access, meansOr_textOrNull]
  constructor
  · rintro ⟨_, ⟨name, about, picture, privacy, access⟩, rfl⟩
    exact ⟨name, about, picture, privacy, access⟩
  · rintro ⟨name, about, picture, privacy, access⟩
    exact ⟨(m.name, m.about, m.picture, m.privacy, m.access),
      ⟨name, about, picture, privacy, access⟩, rfl⟩

theorem reads_role : Reads readRole (IsDict HasRole) RoleTexts.Means := by
  rintro _ w ⟨has⟩ r
  simp only [readRole, entriesOf, bind_eq_ok_iff, Except.ok.injEq, exists_eq_left', both_eq_ok_iff,
    reads_name.needed has.name, reads_text.orNull.optional has.description, meansOr_textOrNull]
  constructor
  · rintro ⟨_, ⟨name, description⟩, rfl⟩
    exact ⟨name, description⟩
  · rintro ⟨name, description⟩
    exact ⟨(r.name, r.description), ⟨name, description⟩, rfl⟩

theorem reads_admin : Reads readAdmin (IsDict HasAdmin) AdminTexts.Means := by
  rintro _ w ⟨has⟩ a
  simp only [readAdmin, entriesOf, bind_eq_ok_iff, Except.ok.injEq, exists_eq_left', both_eq_ok_iff,
    reads_key.needed has.key, reads_text.list.optional has.roles, meansOr_texts]
  constructor
  · rintro ⟨_, ⟨key, roles⟩, rfl⟩
    exact ⟨key, roles⟩
  · rintro ⟨key, roles⟩
    exact ⟨(a.key, a.roles), ⟨key, roles⟩, rfl⟩

theorem reads_group : Reads readGroup (IsDict HasGroup) GroupTexts.Means := by
  rintro _ w ⟨has⟩ c
  simp only [readGroup, entriesOf, bind_eq_ok_iff, Except.ok.injEq, exists_eq_left', both_eq_ok_iff,
    reads_url.needed has.relay, reads_id.needed has.id, reads_metadata.optional has.metadata,
    reads_role.list.optional has.roles, reads_admin.list.optional has.admins,
    reads_members.optional has.members, meansOr_nil]
  constructor
  · rintro ⟨_, ⟨relay, id, metadata, roles, admins, members⟩, rfl⟩
    exact ⟨relay, id, metadata, roles, admins, members⟩
  · rintro ⟨relay, id, metadata, roles, admins, members⟩
    exact ⟨(c.group.relay, ⟨c.group.id, c.group.valid⟩, c.metadata, c.roles.items,
        c.admins.items, c.members.items),
      ⟨relay, id, metadata, roles, admins, members⟩, rfl⟩

/-! ## Definitions without a fault -/

structure MetadataTexts.IsSound (w : MetadataTexts) : Prop where
  picture : ∀ o ∈ w.picture, ∀ t ∈ o, ∃ u, Url.parse t = .ok u
  privacy : ∀ t ∈ w.privacy, ∃ p, Privacy.parse? t = some p
  access : ∀ t ∈ w.access, ∃ a, Access.parse? t = some a

structure GroupTexts.IsSound (w : GroupTexts) : Prop where
  relay : ∃ u, Url.parse w.relay = .ok u
  id : ∃ n, GroupId.check w.id = .ok n
  metadata : ∀ m ∈ w.metadata, m.IsSound
  roles : ∀ r ∈ w.roles.getD [], r.name ≠ []
  admins : ∀ a ∈ w.admins.getD [], ∃ k, PublicKey.parse? a.key = some k
  members : ∀ t ∈ w.members.getD [], ∃ k, PublicKey.parse? t = some k

theorem MetadataTexts.exists_means_iff {w : MetadataTexts} : (∃ m, w.Means m) ↔ w.IsSound := by
  constructor
  · rintro ⟨m, means⟩
    exact {
      picture := fun o ho => exists_rel.mp (exists_meansOr.mp ⟨_, means.picture⟩ o ho)
      privacy := exists_meansOr.mp ⟨_, means.privacy⟩
      access := exists_meansOr.mp ⟨_, means.access⟩ }
  · intro sound
    obtain ⟨picture, hu⟩ := exists_meansOr.mpr fun o ho => exists_rel.mpr (sound.picture o ho)
    obtain ⟨privacy, hp⟩ := exists_meansOr.mpr sound.privacy
    obtain ⟨access, ha⟩ := exists_meansOr.mpr sound.access
    exact ⟨⟨_, _, picture, privacy, access⟩, rfl, rfl, hu, hp, ha⟩

theorem RoleTexts.exists_means_iff {w : RoleTexts} : (∃ r, w.Means r) ↔ w.name ≠ [] := by
  constructor
  · rintro ⟨r, means⟩
    exact means.name.2
  · intro ne
    exact ⟨⟨w.name, _⟩, ⟨rfl, ne⟩, rfl⟩

theorem AdminTexts.exists_means_iff {w : AdminTexts} :
    (∃ a, w.Means a) ↔ ∃ k, PublicKey.parse? w.key = some k := by
  constructor
  · rintro ⟨a, means⟩
    exact ⟨a.key, means.key⟩
  · rintro ⟨k, key⟩
    exact ⟨⟨k, _⟩, key, rfl⟩

theorem GroupTexts.exists_means_iff {w : GroupTexts} : (∃ c, w.Means c) ↔ w.IsSound := by
  constructor
  · rintro ⟨c, means⟩
    exact {
      relay := ⟨_, means.relay⟩
      id := ⟨_, means.id⟩
      metadata := fun m hm =>
        MetadataTexts.exists_means_iff.mp (exists_meansOr.mp ⟨_, means.metadata⟩ m hm)
      roles := fun r hr => RoleTexts.exists_means_iff.mp (exists_forall₂.mp ⟨_, means.roles⟩ r hr)
      admins := fun a ha => AdminTexts.exists_means_iff.mp
        (exists_forall₂.mp ⟨_, means.admins⟩ a ha)
      members := exists_forall₂.mp ⟨_, means.members⟩ }
  · intro sound
    obtain ⟨relay, hr⟩ := sound.relay
    obtain ⟨id, hi⟩ := sound.id
    obtain ⟨metadata, hm⟩ :=
      exists_meansOr.mpr fun m hm => MetadataTexts.exists_means_iff.mpr (sound.metadata m hm)
    obtain ⟨roles, hrs⟩ :=
      exists_forall₂.mpr fun r hr => RoleTexts.exists_means_iff.mpr (sound.roles r hr)
    obtain ⟨admins, has⟩ :=
      exists_forall₂.mpr fun a ha => AdminTexts.exists_means_iff.mpr (sound.admins a ha)
    obtain ⟨members, hms⟩ := exists_forall₂.mpr sound.members
    exact ⟨⟨.ofName relay id, metadata, ⟨roles⟩, ⟨admins⟩, ⟨members⟩⟩, hr, hi, hm, hrs, has, hms⟩

end GroupWire.Config
