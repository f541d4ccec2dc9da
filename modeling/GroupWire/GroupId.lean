import GroupWire.Url

/-! Group identifiers: a relay and the name of a group there, written as the relay's URL without its
last slash, an apostrophe and the name. -/
namespace GroupWire

def isIdChar (c : Char) : Bool := ('a' ≤ c && c ≤ 'z') || c.isDigit || c = '_' || c = '-'

structure GroupId where
  relay : Url
  id : Text
  valid : id ≠ [] ∧ id.all isIdChar = true

inductive IdError
  | empty
  | badCharacter
  deriving DecidableEq

inductive IdentifierError
  | delimiters
  | relay (cause : UrlError)
  | id (cause : IdError)
  deriving DecidableEq

namespace GroupId

def pattern : Text := "[a-z0-9_-]+"

def delimiter : Char := '\''

/-- The group of the relay itself. -/
def topLevel : Text := "_"

abbrev Name := { t : Text // t ≠ [] ∧ t.all isIdChar = true }

def check (id : Text) : Except IdError Name :=
  if empty : id = [] then .error .empty
  else if good : id.all isIdChar = true then .ok ⟨id, empty, good⟩
  else .error .badCharacter

def ofName (relay : Url) (n : Name) : GroupId := ⟨relay, n.1, n.2⟩

def make (relay : Url) (id : Text) : Except IdError GroupId := (check id).map (ofName relay)

def isTopLevel (g : GroupId) : Bool := g.id = topLevel

def dropSlash (t : Text) : Text := if t.getLast? = some '/' then t.dropLast else t

def canonical (g : GroupId) : Text := dropSlash g.relay.text ++ delimiter :: g.id

def parse (t : Text) : Except IdentifierError GroupId :=
  match t.split delimiter with
  | [relay, id] => do
    let relay ← (Url.parse relay).mapError .relay
    (make relay id).mapError .id
  | _ => .error .delimiters

instance : BEq GroupId := ⟨fun g h => g.relay == h.relay && g.id = h.id⟩

/-- By relay, then by name. -/
def less (g h : GroupId) : Bool := g.relay.less h.relay || (g.relay == h.relay && g.id < h.id)

end GroupId

end GroupWire
