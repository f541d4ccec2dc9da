import GroupWire.PublicKey

/-! Tags of group events: a name and values, written as one list of texts. -/
namespace GroupWire

inductive TagName
  | name
  | description
  | image
  | privacy
  | closed
  | role
  | publicKey
  | group
  | identifier
  | event
  | code
  | previous
  deriving DecidableEq

namespace TagName

def all : List TagName :=
  [name, description, image, privacy, closed, role, publicKey, group, identifier, event,
    code, previous]

def token : TagName → Text
  | name => "name"
  | description => "description"
  | image => "image"
  | privacy => "privacy"
  | closed => "closed"
  | role => "role"
  | publicKey => "p"
  | group => "h"
  | identifier => "d"
  | event => "e"
  | code => "code"
  | previous => "previous"

def label : TagName → Text
  | name => "NAME"
  | description => "DESCRIPTION"
  | image => "IMAGE"
  | privacy => "PRIVACY"
  | closed => "CLOSED"
  | role => "ROLE"
  | publicKey => "PUBLIC_KEY"
  | group => "GROUP"
  | identifier => "IDENTIFIER"
  | event => "EVENT"
  | code => "CODE"
  | previous => "PREVIOUS"

def ofToken? (t : Text) : Option TagName := all.find? (·.token = t)

theorem ofToken?_token (n : TagName) : ofToken? n.token = some n := by cases n <;> rfl

theorem token_injective : Function.Injective token := by
  intro m n same
  have found := ofToken?_token m
  rw [same, ofToken?_token n] at found
  exact (Option.some.inj found).symm

end TagName

structure Tag where
  name : TagName
  values : List Text
  deriving DecidableEq

namespace Tag

def fields (t : Tag) : List Text := t.name.token :: t.values

def ofKey (k : PublicKey) : Tag := ⟨.publicKey, [k.hex]⟩

end Tag

end GroupWire
