import GroupWire.Value

/-! Values that count as nothing given: empty texts and collections, zero, no value. -/
namespace GroupWire

/-- A list of facts without entries is empty; other records never are. -/
def Record.isEmpty : Record → Bool
  | roles rs => rs.items.isEmpty
  | admins as => as.items.isEmpty
  | members ms => ms.items.isEmpty
  | _ => false

namespace Value

def isFalsy : Value → Bool
  | null => true
  | bool b => !b
  | int n => n = 0
  | float x => x.isZero
  | text t => t.isEmpty
  | bytes bs => bs.isEmpty
  | list items => items.isEmpty
  | tuple items => items.isEmpty
  | set items => items.isEmpty
  | dict entries => entries.isEmpty
  | record r _ => r.isEmpty
  | _ => false

end Value

end GroupWire
