import GroupWire.Group.Facts
import GroupWire.Tag

/-! The facts of a group as tags. The order of the tags counts: readers may go by position, and each
run of role tags belongs to the key before it. -/
namespace GroupWire

/-- Tags that were made from a record, and the note of it for the log. -/
structure Encoded where
  tags : List Tag
  note : Text

def counted (event : Text) (tags : List Tag) : Encoded :=
  ⟨tags, event ++ " count=" ++ Text.ofNat tags.length⟩

def optionalTag (tag : TagName) (value : Option Text) : List Tag :=
  (value.map fun t => ⟨tag, [t]⟩).toList

def Metadata.tags (m : Metadata) : List Tag :=
  optionalTag .name m.name ++ optionalTag .description m.about ++
    optionalTag .image (m.picture.map Url.text) ++
    [⟨.privacy, [m.privacy.token]⟩, ⟨.closed, [m.access.token]⟩]

def Role.tag (r : Role) : Tag := ⟨.role, r.name :: r.description.toList⟩

def Roles.tags (rs : Roles) : List Tag := rs.items.map Role.tag

def Admin.tags (a : Admin) : List Tag := Tag.ofKey a.key :: a.roles.map fun r => ⟨.role, [r]⟩

def Admins.tags (as : Admins) : List Tag := as.items.flatMap Admin.tags

def Members.tags (ms : Members) : List Tag := ms.items.map Tag.ofKey

def Metadata.encode (m : Metadata) : Encoded := counted "metadata_tags_encoded" m.tags

def Roles.encode (rs : Roles) : Encoded := counted "roles_tags_encoded" rs.tags

def Admins.encode (as : Admins) : Encoded :=
  counted ("admins_tags_encoded admins=" ++ Text.ofNat as.items.length) as.tags

def Members.encode (ms : Members) : Encoded := counted "members_tags_encoded" ms.tags

end GroupWire
