import GroupWire.Draft
import GroupWire.Value.Expected
import GroupWire.Value.Falsy

/-! Drafts asked for by name, with values for their parts. -/
namespace GroupWire.Draft

/-- A part that only some kinds of values have. -/
def part {α : Type} (read : Value → Option α) (name : Text) (v : Value) : Except Error α :=
  match read v with
  | some x => .ok x
  | none => .error (.lacks v.shape name)

def written (v : Value) : Except Error Text :=
  match v.text? with
  | some t => .ok t
  | none => .error (.notText v.shape)

def writtenOrNull : Value → Except Error (Option Text)
  | .null => .ok none
  | v => (written v).map some

/-- A reason that is empty is none. -/
def reason (v : Value) : Except Error (Option Text) :=
  if v.isFalsy then .ok none else (written v).map some

/-- Every item of a sequence, a text being one of characters. -/
def spread (v : Value) : Except Error (List Text) :=
  match v.items? with
  | some items => items.mapM written
  | none => .error (.notSpreadable v.shape)

/-- A list of events that is empty is none, but a stream is one even if nothing comes of it. -/
def events (v : Value) : Except Error (Option (List EventId)) :=
  if v.isFalsy then .ok none else
  match v.items? with
  | some items => (items.mapM (part Value.event? "to_hex")).map some
  | none => .error (.notIterable v.shape)

def metadata? : Value → Option Metadata
  | .record (.metadata m) _ => some m
  | _ => none

def admins? : Value → Option Admins
  | .record (.admins as) _ => some as
  | _ => none

def members? : Value → Option Members
  | .record (.members ms) _ => some ms
  | _ => none

def roles? : Value → Option Roles
  | .record (.roles rs) _ => some rs
  | _ => none

def keyPart : Value → Except Error PublicKey := part Value.key? "to_hex"

def metadataPart : Value → Except Error Metadata := part metadata? "name"

/-- The arguments in order; those left out are null. -/
def request (name : Text) (args : List Value) : Option (Except Error Draft) :=
  let arg (i : Nat) : Value := args.getD i .null
  if name = "put_user" then some do
    let k ← keyPart (arg 0)
    .ok (.putUser k (← spread (args.getD 1 (.tuple []))))
  else if name = "remove_user" then some ((keyPart (arg 0)).map .removeUser)
  else if name = "edit_metadata" then some ((metadataPart (arg 0)).map .editMetadata)
  else if name = "delete_event" then some ((part Value.event? "to_hex" (arg 0)).map .deleteEvent)
  else if name = "create" then some ((metadataPart (arg 0)).map .create)
  else if name = "delete" then some (.ok .delete)
  else if name = "create_invite" then some ((writtenOrNull (arg 0)).map .createInvite)
  else if name = "join_request" then some do
    let code ← writtenOrNull (arg 1)
    .ok (.joinRequest (← reason (arg 0)) code)
  else if name = "leave_request" then some ((reason (arg 0)).map .leaveRequest)
  else if name = "message" then some do
    let previous ← events (arg 1)
    .ok (.message (← written (arg 0)) previous)
  else if name = "metadata" then some ((metadataPart (arg 0)).map .metadata)
  else if name = "admins" then some ((part admins? "admins" (arg 0)).map .admins)
  else if name = "members" then some ((part members? "members" (arg 0)).map .members)
  else if name = "roles" then some ((part roles? "roles" (arg 0)).map .roles)
  else none

end GroupWire.Draft
