import Mathlib
import GroupWire.Group.Tags

/-! # Roles and members read from their tags

Roles and members have one tag for each item. A reader that takes the tags one by one, and takes
nothing but what is written for some item, finds the items again in their order and with their
repeats. A role with an empty description is another one than a role without any. -/

namespace GroupWire

/-! ## Items that are written and read one by one -/

section OneByOne

variable {α : Type} {write : α → List Text} {read? : List Text → Option α}

theorem mapM_eq_some_iff_of_exact (exact : ∀ fields x, read? fields = some x ↔ fields = write x)
    (tags : List (List Text)) (items : List α) :
    tags.mapM read? = some items ↔ tags = items.map write := by
  induction tags generalizing items with
  | nil => cases items <;> simp
  | cons fields tags ih =>
    simp only [List.mapM_cons, Option.bind_eq_bind, Option.bind_eq_some_iff, exact, ih,
      Option.pure_def, Option.some.injEq]
    constructor
    · rintro ⟨x, rfl, xs, rfl, rfl⟩
      rfl
    · intro written
      cases items with
      | nil => cases written
      | cons x xs =>
        obtain ⟨rfl, rfl⟩ := List.cons.inj written
        exact ⟨x, rfl, xs, rfl, rfl⟩

theorem map_write_eq_iff (exact : ∀ fields x, read? fields = some x ↔ fields = write x)
    {xs ys : List α} : xs.map write = ys.map write ↔ xs = ys := by
  refine ⟨fun same => ?_, fun same => by rw [same]⟩
  have first := (mapM_eq_some_iff_of_exact exact _ xs).mpr rfl
  have second := (mapM_eq_some_iff_of_exact exact _ ys).mpr same
  exact Option.some.inj (first.symm.trans second)

end OneByOne

/-! ## Roles -/

/-- A tag named for a role holds a name and, if there is any, a description. -/
def Role.ofFields? : List Text → Option Role
  | [tag, name] => if tag = TagName.role.token then some ⟨name, none⟩ else none
  | [tag, name, description] =>
    if tag = TagName.role.token then some ⟨name, some description⟩ else none
  | _ => none

theorem Role.ofFields?_eq_some_iff (fields : List Text) (r : Role) :
    Role.ofFields? fields = some r ↔ fields = r.tag.fields := by
  obtain ⟨name, description⟩ := r
  match fields with
  | [] => simp [ofFields?, tag, Tag.fields]
  | [_] => simp [ofFields?, tag, Tag.fields]
  | [_, _] => cases description <;> simp [ofFields?, tag, Tag.fields]
  | [_, _, _] => cases description <;> simp [ofFields?, tag, Tag.fields]
  | _ :: _ :: _ :: _ :: _ => cases description <;> simp [ofFields?, tag, Tag.fields]

/-! ## Members -/

/-- A tag named for a key holds its digits and nothing else. -/
def PublicKey.ofFields? : List Text → Option PublicKey
  | [tag, digits] =>
    if h : tag = TagName.publicKey.token ∧ digits.length = 64 ∧ digits.all isHexDigit = true then
      some ⟨⟨digits, h.2⟩⟩
    else none
  | _ => none

theorem PublicKey.ofFields?_eq_some_iff (fields : List Text) (k : PublicKey) :
    PublicKey.ofFields? fields = some k ↔ fields = (Tag.ofKey k).fields := by
  obtain ⟨⟨digits, valid⟩⟩ := k
  match fields with
  | [] => simp [ofFields?, Tag.ofKey, Tag.fields]
  | [_] => simp [ofFields?, Tag.ofKey, Tag.fields]
  | [_, _] =>
    simp only [ofFields?, Tag.ofKey, Tag.fields, hex]
    constructor
    · intro read
      split at read
      · simp_all
      · cases read
    · intro written
      simp_all
  | _ :: _ :: _ :: _ => simp [ofFields?, Tag.ofKey, Tag.fields]

/-! ## Records of roles and of members -/

/-- Every role has a tag of its own, and every member. The tags from which a reader has the items of
a record are exactly its own, so they tell the record. -/
theorem tags_tell_roles_and_members :
    (∀ rs : Roles, rs.tags.length = rs.items.length ∧
        (∀ tags, tags.mapM Role.ofFields? = some rs.items ↔ tags = rs.tags.map Tag.fields) ∧
        ∀ ss : Roles, rs.tags.map Tag.fields = ss.tags.map Tag.fields ↔ rs = ss) ∧
      ∀ ms : Members, ms.tags.map Tag.values = ms.items.map (fun k => [k.hex]) ∧
        (∀ tags, tags.mapM PublicKey.ofFields? = some ms.items ↔ tags = ms.tags.map Tag.fields) ∧
        ∀ ns : Members, ms.tags.map Tag.fields = ns.tags.map Tag.fields ↔ ms = ns := by
  refine ⟨fun rs => ⟨?_, fun tags => ?_, fun ss => ?_⟩,
    fun ms => ⟨?_, fun tags => ?_, fun ns => ?_⟩⟩
  · rw [Roles.tags, List.length_map]
  · rw [mapM_eq_some_iff_of_exact Role.ofFields?_eq_some_iff, Roles.tags, List.map_map]
    rfl
  · rw [Roles.tags, Roles.tags, List.map_map, List.map_map]
    exact (map_write_eq_iff Role.ofFields?_eq_some_iff).trans
      ⟨congrArg Roles.mk, congrArg Roles.items⟩
  · rw [Members.tags, List.map_map]
    rfl
  · rw [mapM_eq_some_iff_of_exact PublicKey.ofFields?_eq_some_iff, Members.tags, List.map_map]
    rfl
  · rw [Members.tags, Members.tags, List.map_map, List.map_map]
    exact (map_write_eq_iff PublicKey.ofFields?_eq_some_iff).trans
      ⟨congrArg Members.mk, congrArg Members.items⟩

end GroupWire
