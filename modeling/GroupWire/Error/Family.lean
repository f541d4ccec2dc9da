import GroupWire.Text

/-! Families of failures, from the widest to the narrowest. The group families put a fixed
description before what is said of the single case, and count as faults of a value. -/
namespace GroupWire

inductive Family
  | any
  | configuration
  | protocol
  | group
  | groupId
  | privacy
  | access
  | identifier
  | missingTag
  deriving DecidableEq

namespace Family

def all : List Family :=
  [any, configuration, protocol, group, groupId, privacy, access, identifier, missingTag]

def name : Family → Text
  | any => "RelayGroupsError"
  | configuration => "ConfigurationError"
  | protocol => "ProtocolError"
  | group => "Nip29Error"
  | groupId => "InvalidGroupIdError"
  | privacy => "InvalidPrivacyError"
  | access => "InvalidAccessModelError"
  | identifier => "InvalidGroupIdentifierError"
  | missingTag => "MissingRequiredTagError"

def ofName? (t : Text) : Option Family := all.find? (·.name = t)

/-- The family and those that contain it, narrowest first. -/
def lineage : Family → List Family
  | any => [any]
  | configuration => [configuration, any]
  | protocol => [protocol, any]
  | group => [group, protocol, any]
  | f => [f, group, protocol, any]

def description? : Family → Option Text
  | group => some "NIP-29 error"
  | groupId => some "Invalid group ID"
  | privacy => some "Invalid privacy value"
  | access => some "Invalid access model value"
  | identifier => some "Invalid group identifier format"
  | missingTag => some "Missing required tag"
  | _ => none

def isValueFault (f : Family) : Bool := f.description?.isSome

def message (f : Family) (detail : Text) : Text :=
  match f.description? with
  | some d => d ++ ": " ++ detail
  | none => detail

end Family

end GroupWire
