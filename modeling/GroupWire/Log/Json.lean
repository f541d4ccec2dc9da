import GroupWire.Error
import GroupWire.Value.Shown

/-! Values as JSON in ASCII: what JSON has no form for becomes the text that shows it. -/
namespace GroupWire.Log.Json

def unitText (n : Nat) : Text := "\\u" ++ Text.hexDigits 4 n

/-- Beyond the basic plane a character is two units. -/
def codeText (n : Nat) : Text :=
  if n < 0x10000 then unitText n
  else unitText (0xd800 + (n - 0x10000) / 0x400) ++ unitText (0xdc00 + (n - 0x10000) % 0x400)

def charText (c : Char) : Text :=
  if c = '"' || c = '\\' then ['\\', c]
  else if c = '\n' then "\\n"
  else if c = '\r' then "\\r"
  else if c = '\t' then "\\t"
  else if c = '\x08' then "\\b"
  else if c = '\x0c' then "\\f"
  else if ' ' ≤ c && c ≤ '~' then [c]
  else codeText c.toNat

def string (t : Text) : Text := '"' :: t.flatMap charText ++ ['"']

def number (x : Binary64) : Text :=
  match x with
  | .nan => "NaN"
  | .infinite s => Binary64.sign s ++ "Infinity"
  | x => x.text

def truth (b : Bool) : Text := if b then "true" else "false"

/-- The name of a member, if its key can be one. -/
def keyText (v : Value) : Except Error Text :=
  match v with
  | .null => .ok "null"
  | .bool b => .ok (truth b)
  | .int n => .ok (Text.ofInt n)
  | .float x => .ok (number x)
  | .text t => .ok t
  | .word w => .ok (Value.wordText w)
  | v => .error (.jsonKey v.shape)

def object (members : List (Text × Text)) : Text :=
  Value.between "\x7b" "\x7d" (members.map fun m => string m.1 ++ ": " ++ m.2)

mutual

def value : Value → Except Error Text
  | .null => .ok "null"
  | .bool b => .ok (truth b)
  | .int n => .ok (Text.ofInt n)
  | .float x => .ok (number x)
  | .text t => .ok (string t)
  | .word w => .ok ((w.token?.map string).getD (Value.wordText w))
  | .list items => (values items).map (Value.between "[" "]")
  | .tuple items => (values items).map (Value.between "[" "]")
  | .dict entries => (members entries).map object
  | v => .ok (string v.plain)

def values : List Value → Except Error (List Text)
  | [] => .ok []
  | v :: vs => do
    let t ← value v
    let ts ← values vs
    .ok (t :: ts)

def members : List (Value × Value) → Except Error (List (Text × Text))
  | [] => .ok []
  | (k, v) :: r => do
    let name ← keyText k
    let t ← value v
    let ts ← members r
    .ok ((name, t) :: ts)

end

end GroupWire.Log.Json
