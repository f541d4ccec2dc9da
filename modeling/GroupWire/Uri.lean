import GroupWire.Uri.Authority
import GroupWire.Uri.DotSegments
import GroupWire.Uri.Reference

/-! Absolute URIs in ASCII: read from a reference in any script, brought to normal
form, and checked part by part. -/
namespace GroupWire

/-- An empty path stands for an absent one. -/
structure Uri where
  scheme : Text
  authority : Option Uri.Authority
  path : Text
  query : Option Text
  fragment : Option Text
  deriving DecidableEq

namespace Uri

/-- Why a reference gives no URI. -/
inductive ReadError | noScheme | badAuthority
  deriving DecidableEq

def readAuthority : Option Text → Except ReadError (Option Authority)
  | none => .ok none
  | some t =>
    match (Authority.read isUcs t).bind Authority.toAscii? with
    | none => .error .badAuthority
    | some a => .ok (if a.isVoid then none else some a)

def ofReference (r : Reference) : Except ReadError Uri :=
  match r.scheme with
  | none => .error .noScheme
  | some scheme => do
    return ⟨scheme, ← readAuthority r.authority, encode (r.path.getD []), r.query.map encode,
      r.fragment.map encode⟩

def normalize (u : Uri) : Uri where
  scheme := u.scheme.toLower
  authority := u.authority.map Authority.normalize
  path := removeDots (upperTriplets u.path)
  query := u.query.map upperTriplets
  fragment := u.fragment.map upperTriplets

/-- The parts as they stand, absent ones left out. -/
def toReference (u : Uri) : Reference :=
  ⟨some u.scheme, u.authority.map Authority.text, some u.path |>.filter (!·.isEmpty),
    u.query, u.fragment⟩

/-- The parts that can be wrong in a URI that was read, in the order of their names. -/
inductive Part | fragment | path | port | query
  deriving DecidableEq

def Part.name : Part → Text
  | fragment => "fragment"
  | path => "path"
  | port => "port"
  | query => "query"

def maxPort : Nat := 65535

def Part.fits (u : Uri) : Part → Bool
  | fragment => u.fragment.all (wellEncoded isQueryChar)
  | path => wellEncoded isPathChar u.path
  | port => (u.authority.bind (·.port)).all fun p => Text.toNat 10 p ≤ maxPort
  | query => u.query.all (wellEncoded isQueryChar)

def faults (u : Uri) : List Part := [.fragment, .path, .port, .query].filter fun p => !p.fits u

end Uri

end GroupWire
