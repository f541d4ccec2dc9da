import GroupWire.Text

/-! Kinds of nodes, as their tags tell them. -/
namespace GroupWire.Yaml

/-- A merge brings in the entries of other mappings; a default stands for a
mapping where a text is wanted. -/
inductive Kind
  | null
  | bool
  | int
  | float
  | binary
  | timestamp
  | orderedMap
  | pairs
  | set
  | text
  | sequence
  | mapping
  | merge
  | default
  | other
  deriving DecidableEq

namespace Kind

/-- What the tags of the format begin with. -/
def domain : Text := "tag:yaml.org,2002:"

def named : List (Text × Kind) :=
  [("null", null), ("bool", bool), ("int", int), ("float", float), ("binary", binary),
    ("timestamp", timestamp), ("omap", orderedMap), ("pairs", pairs), ("set", set), ("str", text),
    ("seq", sequence), ("map", mapping), ("merge", merge), ("value", default)]

def isCollection : Kind → Bool
  | orderedMap => true
  | pairs => true
  | set => true
  | sequence => true
  | mapping => true
  | _ => false

/-- As a key, the sign of a default is the text it is written as. -/
def ofKey (k : Kind) : Kind := if k = default then text else k

def ofTag (t : Text) : Kind := ((named.find? fun e => domain ++ e.1 = t).map Prod.snd).getD other

end Kind

end GroupWire.Yaml
