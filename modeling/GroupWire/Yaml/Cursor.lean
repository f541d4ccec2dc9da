import GroupWire.Yaml.Fault
import GroupWire.Yaml.Line

/-! Places in a document: what is left of its text, and the line and column. -/
namespace GroupWire.Yaml

structure Cursor where
  rest : Text
  index : Nat
  line : Nat
  column : Nat

namespace Cursor

def start (t : Text) : Cursor := ⟨t, 0, 0, 0⟩

/-- A byte order mark takes no column. -/
def next (p : Cursor) : Cursor :=
  match p.rest with
  | [] => p
  | c :: r =>
    if isBreak c then ⟨r, p.index + 1, p.line + 1, 0⟩
    else if c = '\uFEFF' then ⟨r, p.index + 1, p.line, p.column⟩
    else ⟨r, p.index + 1, p.line, p.column + 1⟩

def skip (p : Cursor) : Nat → Cursor
  | 0 => p
  | n + 1 => p.next.skip n

def take (p : Cursor) (n : Nat) : Text × Cursor := (p.rest.take n, p.skip n)

def takeWhile (f : Char → Bool) (p : Cursor) : Text × Cursor := p.take (p.rest.takeWhile f).length

/-- The break that comes next, the next-line character as the common one, and the
start of the line after it. -/
def break? (p : Cursor) : Option (Char × Cursor) :=
  match p.rest with
  | [] => none
  | c :: _ => if isBreak c then some (if c = '\x85' then '\n' else c, p.next) else none

def pastSpaces (p : Cursor) : Cursor := (p.takeWhile (· = ' ')).2

def pastComment (p : Cursor) : Cursor :=
  if atChar (· = '#') p.rest then (p.takeWhile (!isBreak ·)).2 else p

/-- The next line, if this one holds nothing more than spaces and a comment. -/
def endLine (p : Cursor) : Except Fault Cursor :=
  let q := p.pastSpaces.pastComment
  match q.break? with
  | some (_, r) => .ok r
  | none => if q.rest.isEmpty then .ok q else .error .malformed

/-- The next thing that is neither a space, a comment nor a break, and whether it is on another
line. -/
def pastBlank (p : Cursor) : Nat → Bool × Cursor
  | 0 => (false, p)
  | n + 1 =>
    let q := p.pastSpaces.pastComment
    match q.break? with
    | some (_, r) => (true, (r.pastBlank n).2)
    | none => (false, q)

end Cursor

end GroupWire.Yaml
