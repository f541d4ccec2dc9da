import GroupWire.Text

/-! The kinds of events that make up a group's life, with their numbers. -/
namespace GroupWire

inductive EventKind
  | chatMessage
  | putUser
  | removeUser
  | editMetadata
  | deleteEvent
  | createGroup
  | deleteGroup
  | createInvite
  | joinRequest
  | leaveRequest
  | groupMetadata
  | groupAdmins
  | groupMembers
  | groupRoles
  deriving DecidableEq

namespace EventKind

def all : List EventKind :=
  [chatMessage, putUser, removeUser, editMetadata, deleteEvent, createGroup, deleteGroup,
    createInvite, joinRequest, leaveRequest, groupMetadata, groupAdmins, groupMembers, groupRoles]

def code : EventKind → Nat
  | chatMessage => 9
  | putUser => 9000
  | removeUser => 9001
  | editMetadata => 9002
  | deleteEvent => 9005
  | createGroup => 9007
  | deleteGroup => 9008
  | createInvite => 9009
  | joinRequest => 9021
  | leaveRequest => 9022
  | groupMetadata => 39000
  | groupAdmins => 39001
  | groupMembers => 39002
  | groupRoles => 39003

def label : EventKind → Text
  | chatMessage => "CHAT_MESSAGE"
  | putUser => "PUT_USER"
  | removeUser => "REMOVE_USER"
  | editMetadata => "EDIT_METADATA"
  | deleteEvent => "DELETE_EVENT"
  | createGroup => "CREATE_GROUP"
  | deleteGroup => "DELETE_GROUP"
  | createInvite => "CREATE_INVITE"
  | joinRequest => "JOIN_REQUEST"
  | leaveRequest => "LEAVE_REQUEST"
  | groupMetadata => "GROUP_METADATA"
  | groupAdmins => "GROUP_ADMINS"
  | groupMembers => "GROUP_MEMBERS"
  | groupRoles => "GROUP_ROLES"

end EventKind

end GroupWire
