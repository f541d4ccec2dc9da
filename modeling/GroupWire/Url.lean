import GroupWire.Url.Error

/-! Absolute URLs in normal form, as relays and pictures are named by them. Schemes that need a host
drop their default port and write an empty path as a slash. -/
namespace GroupWire

structure Url where
  scheme : Text
  userinfo : Option Text
  host : Option Text
  port : Option Nat
  path : Text
  query : Option Text
  fragment : Option Text

namespace Url

def defaultPort? (scheme : Text) : Option Nat :=
  if scheme = "ws" || scheme = "http" then some 80
  else if scheme = "wss" || scheme = "https" then some 443
  else if scheme = "ftp" then some 21
  else none

def isSpecial (scheme : Text) : Bool := (defaultPort? scheme).isSome

def authorityText (u : Url) : Option Text :=
  u.host.map fun host =>
    (match u.userinfo with | some i => i ++ ['@'] | none => []) ++ host ++
      (match u.port with | some p => ':' :: Text.ofNat p | none => [])

def text (u : Url) : Text :=
  u.scheme ++ [':'] ++
    (match u.authorityText with | some a => "//" ++ a | none => []) ++
    u.path ++
    (match u.query with | some q => '?' :: q | none => []) ++
    (match u.fragment with | some f => '#' :: f | none => [])

/-- A URI in normal form whose parts all fit, as a URL. -/
def ofUri (u : Uri) : Url where
  scheme := u.scheme
  userinfo := u.authority.bind (·.userinfo)
  host := u.authority.map (·.host.text)
  port := ((u.authority.bind (·.port)).map (Text.toNat 10)).filter (some · ≠ defaultPort? u.scheme)
  path := if isSpecial u.scheme && u.path.isEmpty then ['/'] else u.path
  query := u.query
  fragment := u.fragment

def lacksHost (u : Uri) : Bool := isSpecial u.scheme && (u.authority.all (·.host.text.isEmpty))

def parse (raw : Text) : Except UrlError Url :=
  if raw.contains '\x00' then .error .nullCharacter else
  match Uri.ofReference (.split raw.trim) with
  | .error .noScheme => .error (.relative raw)
  | .error .badAuthority => .error (.authority raw)
  | .ok uri =>
    let uri := uri.normalize
    if uri.faults ≠ [] then .error (.parts raw uri uri.faults)
    else if lacksHost uri then .error (.noHost raw)
    else .ok (ofUri uri)

/-- URLs are compared by their texts alone. -/
instance : BEq Url := ⟨fun u v => u.text == v.text⟩

theorem beq_iff_text_eq (u v : Url) : (u == v) = true ↔ u.text = v.text :=
  beq_iff_eq (a := u.text) (b := v.text)

def less (u v : Url) : Bool := u.text < v.text

end Url

end GroupWire
