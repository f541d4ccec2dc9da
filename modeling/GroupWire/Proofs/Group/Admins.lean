import Mathlib
import GroupWire.Group.Tags

/-! # Admins read from their tags

Nothing but the order of the tags says whose roles are whose. A reader that goes from left to
right finds every admin again, also one without roles and one whose key was seen before,
whatever the roles are called. -/

namespace GroupWire.Admins

/-- What a reader notes of an admin. -/
structure Entry where
  key : Text
  roles : List Text

namespace Entry

def ofAdmin (a : Admin) : Entry := ⟨a.key.hex, a.roles⟩

def grant (e : Entry) (role : Text) : Entry := { e with roles := e.roles ++ [role] }

theorem ofAdmin_injective : Function.Injective ofAdmin := by
  rintro ⟨⟨k⟩, roles⟩ ⟨⟨l⟩, names⟩ h
  obtain ⟨digits, rfl⟩ : k.digits = l.digits ∧ roles = names := by
    simpa [ofAdmin, PublicKey.hex] using h
  cases k
  cases l
  cases digits
  rfl

end Entry

/-- A tag named for a key starts an admin, and one named for a role goes to the admin started last,
which is the first of those noted. -/
def readTag (noted : List Entry) (fields : List Text) : List Entry :=
  match fields with
  | name :: value :: _ =>
    if name = TagName.publicKey.token then ⟨value, []⟩ :: noted
    else if name = TagName.role.token then noted.modifyHead (Entry.grant · value)
    else noted
  | _ => noted

def readTags (tags : List (List Text)) : List Entry := (tags.foldl readTag []).reverse

/-! ## One tag, one admin, all admins -/

theorem readTag_key (noted : List Entry) (k : PublicKey) :
    readTag noted (Tag.ofKey k).fields = ⟨k.hex, []⟩ :: noted := by
  simp [readTag, Tag.fields, Tag.ofKey]

theorem readTag_role (e : Entry) (noted : List Entry) (role : Text) :
    readTag (e :: noted) (Tag.fields ⟨.role, [role]⟩) = e.grant role :: noted := by
  have other : TagName.role.token ≠ TagName.publicKey.token := by decide
  simp [readTag, Tag.fields, other]

theorem foldl_readTag_roles (e : Entry) (noted : List Entry) (roles : List Text) :
    (roles.map fun role => Tag.fields ⟨.role, [role]⟩).foldl readTag (e :: noted) =
      { e with roles := e.roles ++ roles } :: noted := by
  induction roles generalizing e with
  | nil => simp
  | cons role roles ih =>
    rw [List.map_cons, List.foldl_cons, readTag_role, ih]
    simp [Entry.grant]

/-- Whatever was noted before, the tags of an admin add that admin to it. -/
theorem foldl_readTag_admin (noted : List Entry) (a : Admin) :
    (a.tags.map Tag.fields).foldl readTag noted = Entry.ofAdmin a :: noted := by
  rw [Admin.tags, List.map_cons, List.foldl_cons, readTag_key, List.map_map]
  exact foldl_readTag_roles ⟨a.key.hex, []⟩ noted a.roles

theorem foldl_readTag (noted : List Entry) (items : List Admin) :
    ((items.flatMap Admin.tags).map Tag.fields).foldl readTag noted =
    (items.map Entry.ofAdmin).reverse ++ noted := by
  induction items generalizing noted with
  | nil => rfl
  | cons a items ih =>
    rw [List.flatMap_cons, List.map_append, List.foldl_append, foldl_readTag_admin, ih]
    simp

theorem length_tags (as : Admins) :
    as.tags.length = (as.items.map fun a => 1 + a.roles.length).sum := by
  rw [tags, List.length_flatMap]
  congr 2
  funext a
  simp [Admin.tags, Nat.add_comm]

/-- Every admin is read back from the tags with its roles, in order. So the tags tell the record,
and there are as many of them as admins and roles. -/
theorem readTags_tags (as : Admins) :
    readTags (as.tags.map Tag.fields) = as.items.map Entry.ofAdmin ∧
      (∀ bs : Admins, as.tags.map Tag.fields = bs.tags.map Tag.fields ↔ as = bs) ∧
      as.tags.length = (as.items.map fun a => 1 + a.roles.length).sum := by
  have read (cs : Admins) : readTags (cs.tags.map Tag.fields) = cs.items.map Entry.ofAdmin := by
    rw [readTags, tags, foldl_readTag]
    simp
  refine ⟨read as, fun bs => ⟨fun same => ?_, fun same => by rw [same]⟩, length_tags as⟩
  have items : as.items = bs.items := by
    apply List.map_injective_iff.mpr Entry.ofAdmin_injective
    rw [← read as, ← read bs, same]
  cases as
  cases bs
  cases items
  rfl

end GroupWire.Admins
