import GroupWire.Yaml.Kind

/-! Documents as trees. An alias has become what it names. -/
namespace GroupWire.Yaml

inductive Node
  | scalar (kind : Kind) (text : Text)
  | sequence (kind : Kind) (items : List Node)
  | mapping (kind : Kind) (entries : List (Node × Node))

namespace Node

def kind : Node → Kind
  | scalar k _ => k
  | sequence k _ => k
  | mapping k _ => k

/-- What stands where a node is left out. -/
def absent : Node := scalar .null []

end Node

end GroupWire.Yaml
