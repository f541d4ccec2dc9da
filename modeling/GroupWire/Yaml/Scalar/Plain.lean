import GroupWire.Yaml.Cursor

/-! Plain scalars: words without quotes, over one or more lines. -/
namespace GroupWire.Yaml.Plain

/-- How far a word reaches. A colon ends it only before a gap, and inside brackets
also before a bracket or comma. -/
def wordLength (flow : Bool) : Text → Nat
  | [] => 0
  | c :: r =>
    if isSpace c || isBreak c then 0
    else if c = ':' && (atGap r || (flow && atChar ",[]\x7b\x7d".toList.contains r)) then 0
    else if flow && ",?[]\x7b\x7d".toList.contains c then 0
    else wordLength flow r + 1

/-- Breaks of the empty lines here; none if a marker of documents ends them. -/
def emptyLines (p : Cursor) : Nat → Option Text × Cursor
  | 0 => (some [], p)
  | n + 1 =>
    if p.column = 0 && atMarker p.rest then (none, p) else
    match p.break? with
    | some (b, q) => let (bs, s) := emptyLines q n; (bs.map (b :: ·), s)
    | none => if atChar (· = ' ') p.rest then emptyLines p.next n else (some [], p)

/-- What stands between two words: the text it is read as, whether a line ends in it, and its
end. -/
structure Gap where
  text : Text
  crossed : Bool
  stop : Cursor

def gap (p : Cursor) : Gap :=
  let (spaces, q) := p.takeWhile (· = ' ')
  match q.break? with
  | none => ⟨spaces, false, q⟩
  | some (b, r) => let (bs, s) := emptyLines r (r.rest.length + 1); ⟨bs.elim [] (folded b), true, s⟩

/-- The words from `p` on, after the gap that leads to them; `margin` is the
least column of a further line. -/
def words (flow : Bool) (margin : Nat) (before : Gap) : Nat → Text × Bool × Cursor
  | 0 => ([], before.crossed, before.stop)
  | n + 1 =>
    let p := before.stop
    let k := wordLength flow p.rest
    if atChar (· = '#') p.rest || k = 0 then ([], before.crossed, p) else
    let (word, q) := p.take k
    let g := gap q
    if g.text.isEmpty || (!flow && g.stop.column < margin) then
      (before.text ++ word, g.crossed, g.stop)
    else
    let (more, crossed, s) := words flow margin g n
    (before.text ++ word ++ more, crossed, s)

/-- The scalar that starts here, whether a line ended after its last word, and where reading goes
on. -/
def read (flow : Bool) (margin : Nat) (p : Cursor) : Text × Bool × Cursor :=
  words flow margin ⟨[], false, p⟩ (p.rest.length + 1)

end GroupWire.Yaml.Plain
