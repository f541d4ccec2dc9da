import GroupWire.Uri.Chars
import GroupWire.Text.Quoted

/-! References cut into their five parts, at the first delimiters only: nothing of the parts is
checked. -/
namespace GroupWire.Uri

structure Reference where
  scheme : Option Text
  authority : Option Text
  path : Option Text
  query : Option Text
  fragment : Option Text
  deriving DecidableEq

namespace Reference

def cutScheme (t : Text) : Option Text × Text :=
  let scheme := t.takeWhile isSchemeChar
  match t.dropWhile isSchemeChar with
  | ':' :: r => if (scheme.head?.any Char.isAlpha) then (some scheme, r) else (none, t)
  | _ => (none, t)

def endsAuthority (c : Char) : Bool := c = '/' || c = '\\' || c = '?' || c = '#'

def endsPath (c : Char) : Bool := c = '?' || c = '#'

def cutAuthority (t : Text) : Option Text × Text :=
  match t with
  | '/' :: '/' :: r => (some (r.takeWhile (!endsAuthority ·)), r.dropWhile (!endsAuthority ·))
  | _ => (none, t)

def cutQuery (t : Text) : Option Text × Text :=
  match t with
  | '?' :: r => (some (r.takeWhile (· ≠ '#')), r.dropWhile (· ≠ '#'))
  | _ => (none, t)

/-- A fragment ends with its line. -/
def cutFragment (t : Text) : Option Text :=
  match t with
  | '#' :: r => some (r.takeWhile (· ≠ '\n'))
  | _ => none

/-- An empty authority or path counts as absent, an empty query or fragment does not. -/
def split (t : Text) : Reference :=
  let (scheme, t) := cutScheme t
  let (authority, t) := cutAuthority t
  let path := t.takeWhile (!endsPath ·)
  let (query, t) := cutQuery (t.dropWhile (!endsPath ·))
  ⟨scheme, authority.filter (!·.isEmpty), some path |>.filter (!·.isEmpty), query, cutFragment t⟩

def shownPart (label : Text) (part : Option Text) : Text :=
  label ++ ['='] ++ (match part with | some t => t.quoted | none => "None")

def shown (r : Reference) : Text :=
  "URIReference(" ++ Text.join ", " [shownPart "scheme" r.scheme, shownPart "authority" r.authority,
    shownPart "path" r.path, shownPart "query" r.query, shownPart "fragment" r.fragment] ++ ")"

end Reference

end GroupWire.Uri
