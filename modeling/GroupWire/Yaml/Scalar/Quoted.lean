import GroupWire.Yaml.Scalar.Escaped

/-! Scalars between quotes. Single quotes are doubled inside; double quotes
admit escapes; both fold lines. -/
namespace GroupWire.Yaml.Quoted

inductive Style
  | single
  | double
  deriving DecidableEq

def Style.quote : Style → Char
  | single => '\''
  | double => '"'

/-- Breaks of the empty lines here, up to the first character of the text that goes on. -/
def emptyLines (p : Cursor) : Nat → Except Fault (Text × Cursor)
  | 0 => .ok ([], p)
  | n + 1 =>
    if atMarker p.rest then .error .malformed else
    let q := (p.takeWhile isSpace).2
    match q.break? with
    | some (b, r) => (emptyLines r n).map fun (bs, s) => (b :: bs, s)
    | none => .ok ([], q)

/-- Spaces and breaks between two pieces of text. -/
def gap (p : Cursor) : Except Fault (Text × Cursor) :=
  let (spaces, q) := p.takeWhile isSpace
  match q.break? with
  | none => .ok (spaces, q)
  | some (b, r) => (emptyLines r (r.rest.length + 1)).map fun (bs, s) => (folded b bs, s)

/-- What a backslash and the characters after it stand for; before a break, the empty lines
alone. -/
def escaped (p : Cursor) : Except Fault (Text × Cursor) :=
  match p.break? with
  | some (_, r) => emptyLines r (r.rest.length + 1)
  | none => (Escaped.read p).map fun (c, q) => ([c], q)

/-- The piece of text that starts here; none at the closing quote. -/
def piece (style : Style) (p : Cursor) : Except Fault (Option (Text × Cursor)) :=
  match p.rest with
  | [] => .error .malformed
  | c :: r =>
    if style = .single && c = '\'' && atChar (· = '\'') r then .ok (some (['\''], p.skip 2))
    else if c = style.quote then .ok none
    else if isSpace c || isBreak c then (gap p).map some
    else if style = .double && c = '\\' then (escaped p.next).map some
    else .ok (some ([c], p.next))

def pieces (style : Style) (p : Cursor) : Nat → Except Fault (Text × Cursor)
  | 0 => .error .malformed
  | n + 1 => do
    match ← piece style p with
    | none => .ok ([], p.next)
    | some (t, q) => do
      let (more, s) ← pieces style q n
      .ok (t ++ more, s)

/-- The scalar whose opening quote comes next. -/
def read (style : Style) (p : Cursor) : Except Fault (Text × Cursor) :=
  pieces style p.next (p.rest.length + 1)

end GroupWire.Yaml.Quoted
