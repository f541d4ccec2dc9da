import GroupWire.Config.Field
import GroupWire.Group.Facts
import GroupWire.Log.Logger
import GroupWire.Value.Make

/-! Definitions of groups as plain data. All faults of one are found, in the order of the fields;
keys that mean nothing are passed over. What a definition holds is handed out as records that are
made anew, by the checks that any caller passes. -/
namespace GroupWire

structure GroupConfig where
  group : GroupId
  metadata : Metadata
  roles : Roles
  admins : Admins
  members : Members

namespace Config
open Checked

def readMetadata (v : Value) : Checked Metadata := do
  let es ← entriesOf .metadata v
  let p ← both (field es "name" (orNull readText) (some none)) <|
    both (field es "about" (orNull readText) (some none)) <|
    both (field es "picture" (orNull readUrl) (some none)) <|
    both (field es "privacy" readPrivacy (some .anyone))
      (field es "closed" readAccess (some .opened))
  .ok ⟨p.1, p.2.1, p.2.2.1, p.2.2.2.1, p.2.2.2.2⟩

def readRole (v : Value) : Checked Role := do
  let es ← entriesOf .role v
  let p ← both (field es "name" readName none)
    (field es "description" (orNull readText) (some none))
  .ok ⟨p.1, p.2⟩

def readAdmin (v : Value) : Checked Admin := do
  let es ← entriesOf .admin v
  let p ← both (field es "public_key" readKey none) (field es "roles" (readList readText) (some []))
  .ok ⟨p.1, p.2⟩

def readGroup (v : Value) : Checked GroupConfig := do
  let es ← entriesOf .group v
  let p ← both (field es "relay_url" readUrl none) <|
    both (field es "id" readId none) <|
    both (field es "metadata" readMetadata (some .blank)) <|
    both (field es "roles" (readList readRole) (some [])) <|
    both (field es "admins" (readList readAdmin) (some []))
      (field es "members" readMembers (some []))
  .ok ⟨.ofName p.1 p.2.1, p.2.2.1, ⟨p.2.2.2.1⟩, ⟨p.2.2.2.2.1⟩, ⟨p.2.2.2.2.2⟩⟩

end Config

namespace GroupConfig

def toGroup (c : GroupConfig) : Except Error GroupId :=
  GroupId.ofValues (.ofUrl c.group.relay) (.text c.group.id)

def toMetadata (c : GroupConfig) : Except Error Metadata :=
  Metadata.ofValues (.ofOption c.metadata.name) (.ofOption c.metadata.about)
    (c.metadata.picture.elim .null .ofUrl)
    (.word (.privacy c.metadata.privacy)) (.word (.access c.metadata.access))

def toRoles (c : GroupConfig) : Except Error Roles := do
  let items ← c.roles.items.mapM fun r => Value.ofRole (.text r.name) (.ofOption r.description)
  Roles.ofValue (.stream items)

def toAdmins (c : GroupConfig) : Except Error Admins := do
  let items ← c.admins.items.mapM fun a => Value.ofAdmin (.key a.key) (.list (a.roles.map .text))
  Admins.ofValue (.stream items)

def toMembers (c : GroupConfig) : Except Error Members :=
  Members.ofValue (.list (c.members.items.map .key))

/-- The line that tells of a definition read from a file. -/
def loadedLine (c : GroupConfig) (file : Text) : Log.Line :=
  (Log.Logger.make "relaygroups.nips.nip29.configs" false none).line .info "group_config_loaded"
    [("path", file), ("group", c.group.canonical), ("roles", Text.ofNat c.roles.items.length),
      ("admins", Text.ofNat c.admins.items.length), ("members", Text.ofNat c.members.items.length)]

end GroupConfig

end GroupWire
