import GroupWire.Text.Lowercase

/-! Who reads a group and how one joins it. Each policy has two tokens, read in any case. -/
namespace GroupWire

inductive Privacy
  | anyone
  | membersOnly
  deriving DecidableEq

namespace Privacy

def token : Privacy → Text
  | anyone => "public"
  | membersOnly => "private"

def parse? (t : Text) : Option Privacy := [anyone, membersOnly].find? (·.token = t.lowercase)

end Privacy

inductive Access
  | opened
  | closed
  deriving DecidableEq

namespace Access

def token : Access → Text
  | opened => "open"
  | closed => "closed"

def parse? (t : Text) : Option Access := [opened, closed].find? (·.token = t.lowercase)

end Access

end GroupWire
