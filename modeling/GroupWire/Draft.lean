import GroupWire.EventKind
import GroupWire.Group.Tags
import GroupWire.GroupId

/-! Events about a group before anyone signs them. The first tag names the group: by an address for
the kinds that a relay keeps one copy of, by a plain reference for the others. -/
namespace GroupWire

inductive Draft
  | putUser (key : PublicKey) (roles : List Text)
  | removeUser (key : PublicKey)
  | editMetadata (metadata : Metadata)
  | deleteEvent (event : EventId)
  | create (metadata : Metadata)
  | delete
  | createInvite (code : Option Text)
  | joinRequest (reason : Option Text) (code : Option Text)
  | leaveRequest (reason : Option Text)
  | message (content : Text) (previous : Option (List EventId))
  | metadata (metadata : Metadata)
  | admins (admins : Admins)
  | members (members : Members)
  | roles (roles : Roles)

structure Event where
  kind : EventKind
  tags : List Tag
  content : Text

namespace Draft

def kind : Draft → EventKind
  | putUser _ _ => .putUser
  | removeUser _ => .removeUser
  | editMetadata _ => .editMetadata
  | deleteEvent _ => .deleteEvent
  | create _ => .createGroup
  | delete => .deleteGroup
  | createInvite _ => .createInvite
  | joinRequest _ _ => .joinRequest
  | leaveRequest _ => .leaveRequest
  | message _ _ => .chatMessage
  | metadata _ => .groupMetadata
  | admins _ => .groupAdmins
  | members _ => .groupMembers
  | roles _ => .groupRoles

/-- The record in the draft, if it carries one. -/
def encoded? : Draft → Option Encoded
  | editMetadata m => some m.encode
  | create m => some m.encode
  | metadata m => some m.encode
  | admins as => some as.encode
  | members ms => some ms.encode
  | roles rs => some rs.encode
  | _ => none

/-- The tags after the one that names the group. -/
def extra : Draft → List Tag
  | putUser key names => [⟨.publicKey, key.hex :: names⟩]
  | removeUser key => [Tag.ofKey key]
  | deleteEvent e => [⟨.event, [e.hex]⟩]
  | createInvite code => optionalTag .code code
  | joinRequest _ code => optionalTag .code code
  | message _ previous => (previous.map fun es => ⟨.previous, es.map EventId.short⟩).toList
  | d => d.encoded?.elim [] Encoded.tags

def content : Draft → Text
  | joinRequest reason _ => reason.getD []
  | leaveRequest reason => reason.getD []
  | message content _ => content
  | _ => []

def isAddressable : Draft → Bool
  | metadata _ => true
  | admins _ => true
  | members _ => true
  | roles _ => true
  | _ => false

def groupTag (d : Draft) (g : GroupId) : Tag :=
  ⟨if d.isAddressable then .identifier else .group, [g.id]⟩

def event (d : Draft) (g : GroupId) : Event := ⟨d.kind, d.groupTag g :: d.extra, d.content⟩

def builtNote (d : Draft) (g : GroupId) : Text :=
  "group_event_built kind=" ++ Text.ofNat d.kind.code ++ " group=" ++ g.canonical ++ " tags=" ++
    Text.ofNat (d.event g).tags.length

/-- What making the event tells the log. -/
def notes (d : Draft) (g : GroupId) : List Text :=
  d.encoded?.toList.map Encoded.note ++ [d.builtNote g]

end Draft

end GroupWire
