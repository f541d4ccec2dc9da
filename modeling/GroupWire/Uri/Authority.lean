import GroupWire.Uri.Host
import GroupWire.Uri.Percent
import GroupWire.Idna.Label

/-! The authority of a reference: who, where and at which port. -/
namespace GroupWire.Uri

/-- The port is kept as it is written: one to five digits. -/
structure Authority where
  userinfo : Option Text
  host : Host
  port : Option Text
  deriving DecidableEq

namespace Authority

def text (a : Authority) : Text :=
  (match a.userinfo with | some u => u ++ ['@'] | none => []) ++ a.host.text ++
    (match a.port with | some p => ':' :: p | none => [])

def readDigits (t : Text) : Option (Option Text) :=
  if t.isEmpty then some none
  else if t.all Char.isDigit && t.length ≤ 5 then some (some t)
  else none

/-- What may follow the host: a port, its colon being optional. -/
def readPort : Text → Option (Option Text)
  | ':' :: r => readDigits r
  | t => readDigits t

def readHostPort (extra : Char → Bool) (userinfo : Option Text) (t : Text) : Option Authority :=
  match t with
  | '[' :: r =>
    match r.dropWhile (· ≠ ']') with
    | ']' :: after => do
      return ⟨userinfo, ← Host.readLiteral (r.takeWhile (· ≠ ']')), ← readPort after⟩
    | _ => none
  | _ => do
    return ⟨userinfo, ← Host.readName extra (t.takeWhile (· ≠ ':')),
      ← readPort (t.dropWhile (· ≠ ':'))⟩

/-- One line feed at the end is passed over. -/
def dropLineFeed (t : Text) : Text := if ['\n'].isSuffixOf t then t.dropLast else t

/-- `extra` are the characters that userinfo and names may hold besides those of URIs. -/
def read (extra : Char → Bool) (t : Text) : Option Authority :=
  let t := dropLineFeed t
  match t.dropWhile (· ≠ '@') with
  | '@' :: r =>
    let userinfo := t.takeWhile (· ≠ '@')
    if !userinfo.isEmpty && wellEncoded (fun c => isUserinfoChar c || extra c) userinfo then
      readHostPort extra (some userinfo) r
    else none
  | _ => readHostPort extra none t

/-- The name in ASCII, label by label. -/
def hostToAscii? : Host → Option Host
  | .name t => do return .name (Text.join ['.'] (← (t.split '.').mapM Idna.toAscii?))
  | h => some h

def toAscii? (a : Authority) : Option Authority := do
  return { a with userinfo := a.userinfo.map encode, host := ← hostToAscii? a.host }

/-- Nothing is left of an authority such as a lone colon. -/
def isVoid (a : Authority) : Bool := a.userinfo.isNone && a.host == .name [] && a.port.isNone

def normalize (a : Authority) : Authority :=
  { a with userinfo := a.userinfo.map upperTriplets, host := a.host.normalize }

end Authority

end GroupWire.Uri
