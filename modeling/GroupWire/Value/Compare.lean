import GroupWire.Value

/-! Equality and order of values. Numbers of all kinds are compared by value, words as the texts or
numbers they stand for, records within their own kind. -/
namespace GroupWire

/-- Equal exactly, whatever the format of the one and the size of the other. -/
def Binary64.sameInt (x : Binary64) (n : Int) : Bool := x.toInt? = some n

/-- Neither is less than the other if one is no number. -/
def Binary64.lessThan (x y : Binary64) : Bool :=
  match x, y with
  | nan, _ => false
  | _, nan => false
  | infinite s, infinite t => s && !t
  | infinite s, finite _ _ _ => s
  | finite _ _ _, infinite t => !t
  | finite _ _ _, finite _ _ _ =>
    match x.toFraction?, y.toFraction? with
    | some (a, b), some (c, d) => a * d < c * b
    | _, _ => false

/-- A whole number or one of the 64-bit format. -/
inductive Number
  | whole (n : Int)
  | float (x : Binary64)

namespace Number

def same : Number → Number → Bool
  | whole m, whole n => m = n
  | whole m, float y => y.sameInt m
  | float x, whole n => x.sameInt n
  | float x, float y => x.same y

def lessThanInt (x : Binary64) (n : Int) : Bool :=
  match x with
  | .nan => false
  | .infinite s => s
  | .finite _ _ _ => x.toFraction?.any fun p => p.1 < n * p.2

def intLessThan (n : Int) (x : Binary64) : Bool :=
  match x with
  | .nan => false
  | .infinite s => !s
  | .finite _ _ _ => x.toFraction?.any fun p => n * p.2 < p.1

def lessThan : Number → Number → Bool
  | whole m, whole n => m < n
  | whole m, float y => intLessThan m y
  | float x, whole n => lessThanInt x n
  | float x, float y => x.lessThan y

end Number

def Record.same : Record → Record → Bool
  | url u, url v => u == v
  | group g, group h => g == h
  | role r, role s => r = s
  | roles r, roles s => r = s
  | admin a, admin b => a = b
  | admins a, admins b => a = b
  | members m, members n => m = n
  | metadata m, metadata n => m == n
  | _, _ => false

/-- Days since the first of March of year zero. -/
def Date.dayNumber (d : Date) : Int :=
  let y : Int := if d.month ≤ 2 then (d.year : Int) - 1 else d.year
  let m : Int := if d.month ≤ 2 then (d.month : Int) + 9 else (d.month : Int) - 3
  365 * y + y / 4 - y / 100 + y / 400 + (153 * m + 2) / 5 + d.day - 1

def Moment.seconds (m : Moment) : Int :=
  m.date.dayNumber * 86400 + m.hour * 3600 + m.minute * 60 + m.second - m.offset.getD 0

/-- Moments with a zone are equal if they name the same instant. -/
def Moment.same (m n : Moment) : Bool :=
  m.offset.isSome = n.offset.isSome && m.seconds = n.seconds && m.microsecond = n.microsecond

namespace Value

def number? : Value → Option Number
  | float x => some (.float x)
  | v => v.int?.map .whole

mutual

def same (v w : Value) : Bool :=
  match v, w with
  | null, null => true
  | bytes a, bytes b => a = b
  | list a, list b => sameAll a b
  | tuple a, tuple b => sameAll a b
  | set a, set b => a.length = b.length && allIn a b
  | dict a, dict b => a.length = b.length && allEntriesIn a b
  | date a, date b => a = b
  | moment a, moment b => a.same b
  | kind a, kind b => a = b
  | key a, key b => a = b
  | event a, event b => a = b
  | record a _, record b _ => a.same b
  | v, w =>
    match v.number?, w.number?, v.text?, w.text? with
    | some m, some n, _, _ => m.same n
    | _, _, some s, some t => s = t
    | _, _, _, _ => false

def sameAll : List Value → List Value → Bool
  | [], [] => true
  | v :: vs, w :: ws => same v w && sameAll vs ws
  | _, _ => false

def allIn : List Value → List Value → Bool
  | [], _ => true
  | v :: vs, ws => ws.any (same v) && allIn vs ws

def allEntriesIn : List (Value × Value) → List (Value × Value) → Bool
  | [], _ => true
  | (k, v) :: r, ws => ws.any (fun e => same k e.1 && same v e.2) && allEntriesIn r ws

end

/-- Whether the one comes before the other, if they have an order. -/
def less? (v w : Value) : Option Bool :=
  match v, w with
  | record (.url a) _, record (.url b) _ => some (a.less b)
  | record (.group a) _, record (.group b) _ => some (a.less b)
  | bytes a, bytes b => some (a < b)
  | date a, date b => some (a.dayNumber < b.dayNumber)
  | v, w =>
    match v.number?, w.number?, v.text?, w.text? with
    | some m, some n, _, _ => some (m.lessThan n)
    | _, _, some s, some t => some (s < t)
    | _, _, _, _ => none

mutual

/-- What keeps a value from being a key or a member of a set. -/
def changeable? : Value → Option Shape
  | list _ => some .list
  | dict _ => some .dict
  | set _ => some .set
  | tuple items => firstChangeable? items
  | _ => none

def firstChangeable? : List Value → Option Shape
  | [] => none
  | v :: vs => (changeable? v).or (firstChangeable? vs)

end

/-- A dictionary from entries in order: a repeated key keeps its first place and takes the last
value. -/
def insert (entries : List (Value × Value)) (k v : Value) : List (Value × Value) :=
  if entries.any (fun e => e.1.same k) then entries.map fun e => if e.1.same k then (e.1, v) else e
  else entries ++ [(k, v)]

def ofEntries (entries : List (Value × Value)) : Value :=
  dict (entries.foldl (fun d e => insert d e.1 e.2) [])

def distinct (items : List Value) : List Value :=
  items.foldl (fun seen v => if seen.any (·.same v) then seen else seen ++ [v]) []

def find? (entries : List (Value × Value)) (k : Value) : Option Value :=
  (entries.find? fun e => e.1.same k).map Prod.snd

end Value

end GroupWire
