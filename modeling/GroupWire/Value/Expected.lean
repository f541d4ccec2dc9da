import GroupWire.Error
import GroupWire.Value

/-! Reading a value as what a field expects, and sequences of such values item by item. -/
namespace GroupWire

structure Expected (α : Type) where
  shape : Shape
  read : Value → Option α

namespace Expected

def ofShape (s : Shape) : Expected Value :=
  ⟨s, fun v => if s.includes v.shape then some v else none⟩

def text : Expected Text := ⟨.text, Value.text?⟩

def url : Expected Url := ⟨.url, Value.url?⟩

def group : Expected GroupId := ⟨.group, Value.group?⟩

def key : Expected PublicKey := ⟨.key, Value.key?⟩

def event : Expected EventId := ⟨.event, Value.event?⟩

def role : Expected Role := ⟨.role, Value.role?⟩

def admin : Expected Admin := ⟨.admin, Value.admin?⟩

def privacy : Expected Privacy := ⟨.word .privacy, Value.privacy?⟩

def access : Expected Access := ⟨.word .access, Value.access?⟩

def take {α : Type} (e : Expected α) (field : Text) (v : Value) : Except Error α :=
  match e.read v with
  | some x => .ok x
  | none => .error (.shape field e.shape v.shape)

def takeOptional {α : Type} (e : Expected α) (field : Text) : Value → Except Error (Option α)
  | .null => .ok none
  | v => (e.take field v).map some

def indexed (field : Text) (i : Nat) : Text := field ++ '[' :: Text.ofNat i ++ [']']

def takeEach {α : Type} (e : Expected α) (field : Text) : Nat → List Value → Except Error (List α)
  | _, [] => .ok []
  | i, v :: vs => do
    let x ← e.take (indexed field i) v
    let xs ← e.takeEach field (i + 1) vs
    .ok (x :: xs)

/-- A text would be walked through character by character, which nobody means. -/
def isWritten (s : Shape) : Bool := Shape.text.includes s || s = .bytes

def takeAll {α : Type} (e : Expected α) (field : Text) (v : Value) : Except Error (List α) :=
  if isWritten v.shape then .error (.notItems field e.shape v.shape) else
  match v.items? with
  | none => .error (.notIterable v.shape)
  | some items => e.takeEach field 0 items

end Expected

end GroupWire
