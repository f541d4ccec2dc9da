import GroupWire.Binary64

/-! The shortest decimal text that reads back as the same number, and the one nearest to it of
those. -/
namespace GroupWire.Binary64

/-- A finite number in quarters of its last place: the ends of what rounds to it lie on whole
quarters. -/
structure Interval where
  low : Nat
  middle : Nat
  high : Nat
  closed : Bool
  exponent : Int

def interval (m : Nat) (e : Int) : Interval :=
  let narrow := m = Nat.pow 2 52 && leastExponent < e
  ⟨4 * m - (if narrow then 1 else 2), 4 * m, 4 * m + 2, m % 2 = 0, e - 2⟩

/-- `c` tens to the `k` and `b` twos to the `e`, on a common scale. -/
def onScale (c : Nat) (k : Int) (b : Nat) (e : Int) : Nat × Nat :=
  (c * above 10 k * below 2 e, b * above 2 e * below 10 k)

def Interval.holds (i : Interval) (c : Nat) (k : Int) : Bool :=
  let (x, low) := onScale c k i.low i.exponent
  let (_, high) := onScale c k i.high i.exponent
  if i.closed then low ≤ x && x ≤ high else low < x && x < high

/-- Of the two grid points about the number the one that reads back, the nearer if both do. -/
def Interval.gridPoint (i : Interval) (k : Int) : Option Nat :=
  let (ten, v) := onScale 1 k i.middle i.exponent
  let q := v / ten
  let r := v % ten
  match i.holds q k, i.holds (q + 1) k with
  | true, true => some (if 2 * r < ten || (2 * r = ten && q % 2 = 0) then q else q + 1)
  | true, false => some q
  | false, true => some (q + 1)
  | false, false => none

/-- The number of digits before the decimal point; not positive if zeros follow it. -/
def pointOf (num den : Nat) : Int :=
  let p : Int := ((Text.ofNat num).length : Int) - (Text.ofNat den).length
  if num * below 10 p < den * above 10 p then p else p + 1

/-- Digits without zeros at the end, and the place of the point. -/
def digits (m : Nat) (e : Int) : Text × Int :=
  let (num, den) := quotient m e
  let point := pointOf num den
  let found := (List.range 17).findSome? fun (d : Nat) =>
    let k : Int := point - d - 1
    ((interval m e).gridPoint k).map fun c => (c, k)
  let (c, k) := found.getD (0, 0)
  let ds := Text.ofNat c
  ((ds.reverse.dropWhile (· = '0')).reverse, ds.length + k)

def zeros (n : Nat) : Text := List.replicate n '0'

/-- Positional from a ten-thousandth up to 10^16, with a point and a digit behind it. -/
def layOut (ds : Text) (point : Int) : Text :=
  if -4 < point && point ≤ 16 then
    if point ≤ 0 then "0." ++ zeros (-point).toNat ++ ds
    else if ds.length ≤ point.toNat then ds ++ zeros (point.toNat - ds.length) ++ ".0"
    else ds.take point.toNat ++ ['.'] ++ ds.drop point.toNat
  else
    let exponent := point - 1
    let fraction := if ds.length ≤ 1 then [] else '.' :: ds.drop 1
    ds.take 1 ++ fraction ++ ['e', if exponent < 0 then '-' else '+'] ++
      Text.padLeft 2 '0' (Text.ofNat exponent.natAbs)

def sign (negative : Bool) : Text := if negative then ['-'] else []

def text : Binary64 → Text
  | nan => "nan"
  | infinite s => sign s ++ "inf"
  | finite s m e =>
    if m = 0 then sign s ++ "0.0" else
    let (ds, point) := digits m e
    sign s ++ layOut ds point

end GroupWire.Binary64
