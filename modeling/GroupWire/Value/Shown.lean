import GroupWire.Binary64.Shortest
import GroupWire.Text.Quoted
import GroupWire.Value

/-! How values show in log lines and messages: plainly on their own, and as a literal inside
others. -/
namespace GroupWire

def padded (width n : Nat) : Text := Text.padLeft width '0' (Text.ofNat n)

def Date.text (d : Date) : Text := Text.join "-" [padded 4 d.year, padded 2 d.month, padded 2 d.day]

def clock (parts : List Nat) : Text := Text.join ":" (parts.map (padded 2))

/-- Hours and minutes with a sign, and seconds if there are any. -/
def offsetText (seconds : Int) : Text :=
  let n := seconds.natAbs
  (if seconds < 0 then '-' else '+') ::
    clock ([n / 3600, n / 60 % 60] ++ if n % 60 = 0 then [] else [n % 60])

def Moment.text (m : Moment) : Text :=
  m.date.text ++ "T" ++ clock [m.hour, m.minute, m.second] ++
    (if m.microsecond = 0 then [] else '.' :: padded 6 m.microsecond) ++
    m.offset.elim [] offsetText

namespace Value

def byteText (quote : Char) (b : UInt8) : Text :=
  let c := Char.ofNat b.toNat
  if c = quote || c = '\\' then ['\\', c]
  else if c = '\n' then "\\n"
  else if c = '\r' then "\\r"
  else if c = '\t' then "\\t"
  else if 32 ≤ b.toNat && b.toNat < 127 then [c]
  else "\\x" ++ Text.hexDigits 2 b.toNat

def bytesText (bs : List UInt8) : Text :=
  let quote := Text.quoteFor (bs.map fun b => Char.ofNat b.toNat)
  'b' :: quote :: bs.flatMap (byteText quote) ++ [quote]

def truthText (b : Bool) : Text := if b then "True" else "False"

def wordText (w : Word) : Text := w.token?.getD (w.code?.elim [] Text.ofNat)

def wordLiteral (w : Word) : Text :=
  let value := (w.token?.map Text.quoted).getD (w.code?.elim [] Text.ofNat)
  "<" ++ w.vocabulary.name ++ "." ++ w.label ++ ": " ++ value ++ ">"

def keyText (k : PublicKey) : Text := "PublicKey \x7b inner: PublicKey(" ++ k.hex ++ ") \x7d"

def eventText (e : EventId) : Text := "EventId \x7b inner: EventId(" ++ e.hex ++ ") \x7d"

def between (left right : Text) (parts : List Text) : Text := left ++ Text.join ", " parts ++ right

/-- A lone item keeps its comma. -/
def tupleText : List Text → Text
  | [t] => "(" ++ t ++ ",)"
  | ts => between "(" ")" ts

def setText (parts : List Text) : Text :=
  if parts.isEmpty then "set()" else between "\x7b" "\x7d" parts

mutual

def literal : Value → Text
  | null => "None"
  | bool b => truthText b
  | int n => Text.ofInt n
  | float x => x.text
  | text t => t.quoted
  | bytes bs => bytesText bs
  | list items => between "[" "]" (literals items)
  | tuple items => tupleText (literals items)
  | stream items => between "<list_iterator " ">" (literals items)
  | set items => setText (literals items)
  | dict entries => between "\x7b" "\x7d" (entryLiterals entries)
  | date d => d.text
  | moment m => m.text
  | kind code => "Kind \x7b inner: Custom(" ++ Text.ofNat code.toNat ++ ") \x7d"
  | key k => keyText k
  | event e => eventText e
  | word w => wordLiteral w
  | record _ shown => shown

def literals : List Value → List Text
  | [] => []
  | v :: vs => literal v :: literals vs

def entryLiterals : List (Value × Value) → List Text
  | [] => []
  | (k, v) :: r => (literal k ++ ": " ++ literal v) :: entryLiterals r

end

def plain : Value → Text
  | text t => t
  | word w => wordText w
  | kind code => Text.ofNat code.toNat
  | record (.url u) _ => u.text
  | record (.group g) _ => g.canonical
  | v => literal v

end Value

end GroupWire
