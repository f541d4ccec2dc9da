import GroupWire.Error

/-! What the library offers by name, and where each item is kept. -/
namespace GroupWire.Catalogue

def facts : Text := "relaygroups.models.group"

/-- The names in alphabetical order, each with its home. -/
def entries : List (Text × Text) :=
  [("AccessModel", facts), ("GroupAdmin", facts), ("GroupAdmins", facts),
    ("GroupConfig", "relaygroups.nips.nip29.configs"),
    ("GroupEventKind", "relaygroups.models.constants"), ("GroupId", "relaygroups.models.group_id"),
    ("GroupMembers", facts), ("GroupMetadata", facts), ("GroupRoles", facts),
    ("Logger", "relaygroups.core.logger"), ("Nip29Error", "relaygroups.core.exceptions"),
    ("Privacy", facts), ("RelayGroupsError", "relaygroups.core.exceptions"), ("Role", facts),
    ("Url", "relaygroups.models.url")]

def names : List Text := entries.map Prod.fst

def version : Text := "0.1.0"

inductive Item
  | home (path : Text)
  | value (t : Text)

def find (name : Text) : Except Error Item :=
  if name = "__version__" then .ok (.value version) else
  match entries.find? fun e => e.1 = name with
  | some e => .ok (.home e.2)
  | none => .error (.unknownExport name)

end GroupWire.Catalogue
