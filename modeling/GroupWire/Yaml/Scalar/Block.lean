import GroupWire.Yaml.Cursor

/-! Block scalars: lines that are kept or folded, set off by their indentation. -/
namespace GroupWire.Yaml.Block

/-- What becomes of the breaks at the end: one is kept, none or all. -/
inductive Ending
  | clip
  | strip
  | keep
  deriving DecidableEq

structure Header where
  ending : Ending
  indent : Option Nat

def ending? : Text → Option Ending
  | '+' :: _ => some .keep
  | '-' :: _ => some .strip
  | _ => none

def digit? : Text → Option Nat
  | c :: _ => if c.isDigit then some (c.toNat - 48) else none
  | [] => none

/-- The signs after the bar, in either order, and the end of their line. -/
def header (p : Cursor) : Except Fault (Header × Cursor) :=
  let before := ending? p.rest
  let p := if before.isSome then p.next else p
  let indent := digit? p.rest
  let p := if indent.isSome then p.next else p
  let after := if before.isNone && indent.isSome then ending? p.rest else none
  let p := if after.isSome then p.next else p
  if indent = some 0 || !atEdge p.rest then .error .malformed else
  p.endLine.map fun q => (⟨(before.or after).getD .clip, indent⟩, q)

/-- Empty lines at the start, the widest indentation among them and the first other line. -/
def leading (p : Cursor) : Nat → Text × Nat × Cursor
  | 0 => ([], 0, p)
  | n + 1 =>
    match p.break? with
    | some (b, q) => let (bs, widest, s) := leading q n; (b :: bs, widest, s)
    | none =>
      if atChar (· = ' ') p.rest then
        let (bs, widest, s) := leading p.next n
        (bs, max p.next.column widest, s)
      else ([], 0, p)

/-- Steps over at most the indentation of a line. -/
def pastIndent (indent : Nat) (p : Cursor) : Cursor :=
  p.skip (min (indent - p.column) (p.rest.takeWhile (· = ' ')).length)

/-- Breaks of the empty lines here, up to a line with more than its indentation. -/
def emptyLines (indent : Nat) (p : Cursor) : Nat → Text × Cursor
  | 0 => ([], p)
  | n + 1 =>
    let q := pastIndent indent p
    match q.break? with
    | some (b, r) => let (bs, s) := emptyLines indent r n; (b :: bs, s)
    | none => ([], q)

def inside (indent : Nat) (p : Cursor) : Bool := p.column = indent && !p.rest.isEmpty

/-- Between two lines that both start with text a fold makes a space of a single break. -/
def joint (fold first : Bool) (b breaks next : Text) : Text :=
  if fold && b = ['\n'] && first && !atChar isSpace next then
    (if breaks.isEmpty then [' '] else [])
  else b

/-- Lines of a scalar: their text up to the break of the last one, that break, the breaks of the
empty lines after it, and where reading goes on. -/
structure Lines where
  text : Text
  last : Text
  tail : Text
  stop : Cursor

/-- The lines from `p` on, after the breaks of the empty lines that lead to them. -/
def lines (fold : Bool) (indent : Nat) (breaks : Text) (p : Cursor) : Nat → Lines
  | 0 => ⟨[], [], breaks, p⟩
  | n + 1 =>
    if !inside indent p then ⟨[], [], breaks, p⟩ else
    let (line, q) := p.takeWhile (!isBreak ·)
    let (b, r) := (q.break?.map fun x => ([x.1], x.2)).getD ([], q)
    let (more, s) := emptyLines indent r (r.rest.length + 1)
    if inside indent s then
      let next := lines fold indent more s n
      { next with
        text := breaks ++ line ++ joint fold (!atChar isSpace p.rest) b more s.rest ++ next.text }
    else ⟨breaks ++ line, b, more, s⟩

def Lines.ended (ls : Lines) : Ending → Text
  | .strip => ls.text
  | .clip => ls.text ++ ls.last
  | .keep => ls.text ++ ls.last ++ ls.tail

/-- The scalar whose bar or angle comes next; `margin` is the least column of its lines. -/
def read (fold : Bool) (margin : Nat) (p : Cursor) : Except Fault (Text × Cursor) := do
  let (h, p) ← header p.next
  let least := max margin 1
  let ls :=
    match h.indent with
    | some k =>
      let (breaks, s) := emptyLines (least + k - 1) p (p.rest.length + 1)
      lines fold (least + k - 1) breaks s (s.rest.length + 1)
    | none =>
      let (breaks, widest, s) := leading p (p.rest.length + 1)
      lines fold (max least widest) breaks s (s.rest.length + 1)
  .ok (ls.ended h.ending, ls.stop)

end GroupWire.Yaml.Block
