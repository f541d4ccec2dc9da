import GroupWire.Text.Utf8
import GroupWire.Yaml.Cursor
import GroupWire.Yaml.Token

/-! What can stand before a node, its name and its tag, and the directives before a document. -/
namespace GroupWire.Yaml.Property

def isUriChar (c : Char) : Bool := c.isAlphanum || "-;/?:@&=+$,_.!~*'()[]".toList.contains c

/-- A name after its sign, up to a gap or one of the characters that may follow it. -/
def name (p : Cursor) : Except Fault (Text × Cursor) :=
  let (w, q) := p.next.takeWhile isWordChar
  if w.isEmpty || !(atGap q.rest || atChar "?:,]\x7d%@\u0060".toList.contains q.rest) then
    .error .malformed
  else .ok (w, q)

/-- A percent sign and two hexadecimal digits. -/
def escapedByte? : Text → Option UInt8
  | '%' :: a :: b :: _ =>
    if isHexDigit a && isHexDigit b then some (Text.toNat 16 [a, b]).toUInt8 else none
  | _ => none

def escapedBytes (p : Cursor) : Nat → List UInt8 × Cursor
  | 0 => ([], p)
  | n + 1 =>
    match escapedByte? p.rest with
    | none => ([], p)
    | some b => let (bs, q) := escapedBytes (p.skip 3) n; (b :: bs, q)

def uriPieces (p : Cursor) : Nat → Except Fault (Text × Cursor)
  | 0 => .ok ([], p)
  | n + 1 =>
    if atChar (· = '%') p.rest then
      let (bs, q) := escapedBytes p (p.rest.length + 1)
      match Text.ofUtf8? bs with
      | none => .error .malformed
      | some t =>
        if bs.isEmpty then .error .malformed
        else (uriPieces q n).map fun (more, s) => (t ++ more, s)
    else
      let (w, q) := p.takeWhile isUriChar
      if w.isEmpty then .ok ([], p) else (uriPieces q n).map fun (more, s) => (w ++ more, s)

def uri (p : Cursor) : Except Fault (Text × Cursor) :=
  if !atChar (fun c => isUriChar c || c = '%') p.rest then .error .malformed
  else uriPieces p (p.rest.length + 1)

/-- Between two exclamation marks, or a single one. -/
def handle (p : Cursor) : Except Fault (Text × Cursor) :=
  if !atChar (· = '!') p.rest then .error .malformed
  else if atChar (· = ' ') p.next.rest then .ok (p.take 1)
  else
    let k := (p.next.rest.takeWhile isWordChar).length
    if atChar (· = '!') (p.next.rest.drop k) then .ok (p.take (k + 2)) else .error .malformed

/-- The tag that comes next: an address between angles, a lone mark, or a handle with a suffix. -/
def tagParts (p : Cursor) : Except Fault (TagText × Cursor) :=
  let after := p.next
  if atChar (· = '<') after.rest then do
    let (t, q) ← uri after.next
    if atChar (· = '>') q.rest then .ok (⟨none, t⟩, q.next) else .error .malformed
  else if atGap after.rest then .ok (⟨none, ['!']⟩, after)
  else if (after.rest.takeWhile fun c => !(c = ' ' || isBreak c)).contains '!' then do
    let (h, q) ← handle p
    let (t, s) ← uri q
    .ok (⟨some h, t⟩, s)
  else do
    let (t, q) ← uri after
    .ok (⟨some ['!'], t⟩, q)

def tag (p : Cursor) : Except Fault (TagText × Cursor) := do
  let (t, q) ← tagParts p
  if atEdge q.rest then .ok (t, q) else .error .malformed

def number (p : Cursor) : Except Fault (Nat × Cursor) :=
  let (ds, q) := p.takeWhile Char.isDigit
  if ds.isEmpty then .error .malformed else .ok (Text.toNat 10 ds, q)

def version (p : Cursor) : Except Fault (Directive × Cursor) := do
  let (major, q) ← number p.pastSpaces
  if !atChar (· = '.') q.rest then .error .malformed else
  let (_, s) ← number q.next
  if atEdge s.rest then .ok (.version major, s) else .error .malformed

def handleMeaning (p : Cursor) : Except Fault (Directive × Cursor) := do
  let (h, q) ← handle p.pastSpaces
  if !atChar (· = ' ') q.rest then .error .malformed else
  let (t, s) ← uri q.pastSpaces
  if atEdge s.rest then .ok (.handle h t, s) else .error .malformed

/-- The directive whose percent sign comes next, up to the end of its line. -/
def directive (p : Cursor) : Except Fault (Directive × Cursor) := do
  let (w, q) := p.next.takeWhile isWordChar
  if w.isEmpty || !atEdge q.rest then .error .malformed else
  let (d, s) ←
    if w = "YAML" then version q
    else if w = "TAG" then handleMeaning q
    else .ok (.other, (q.takeWhile (!isBreak ·)).2)
  .ok (d, ← s.endLine)

end GroupWire.Yaml.Property
