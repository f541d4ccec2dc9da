import GroupWire.Binary64

/-! Decimal texts as numbers of the format, correctly rounded. -/
namespace GroupWire.Binary64

/-- Digits with single underscores between them. -/
def digitRun? : Text → Option Text
  | [] => some []
  | [c] => if c.isDigit then some [c] else none
  | c :: '_' :: d :: r => if c.isDigit && d.isDigit then (digitRun? (d :: r)).map (c :: ·) else none
  | c :: r => if c.isDigit then (digitRun? r).map (c :: ·) else none

def cutSign : Text → Bool × Text
  | '-' :: r => (true, r)
  | '+' :: r => (false, r)
  | t => (false, t)

def exponent? : Text → Option Int
  | [] => some 0
  | _ :: r =>
    let (negative, r) := cutSign r
    (digitRun? r).bind fun ds =>
      if ds.isEmpty then none else some (signed negative (Text.toNat 10 ds))

/-- Beyond these exponents the number is infinite or zero whatever its digits. -/
def scaled (negative : Bool) (ds : Text) (e : Int) : Binary64 :=
  let n := Text.toNat 10 ds
  if n = 0 then ofQuotient negative 0 1
  else if 400 < e then infinite negative
  else if e + ds.length < -400 then ofQuotient negative 0 1
  else ofQuotient negative (n * above 10 e) (below 10 e)

def isExponentMark (c : Char) : Bool := c = 'e' || c = 'E'

def readUnsigned? (negative : Bool) (t : Text) : Option Binary64 :=
  let small := t.toLower
  if small = "inf" || small = "infinity" then some (infinite negative)
  else if small = "nan" then some nan
  else
    let mantissa := t.takeWhile (!isExponentMark ·)
    let whole := mantissa.takeWhile (· ≠ '.')
    let fraction := (mantissa.dropWhile (· ≠ '.')).drop 1
    do
      let e ← exponent? (t.dropWhile (!isExponentMark ·))
      let w ← digitRun? whole
      let f ← digitRun? fraction
      if w.isEmpty && f.isEmpty then none else some (scaled negative (w ++ f) (e - f.length))

def read? (t : Text) : Option Binary64 :=
  let (negative, r) := cutSign t.trimNumeral
  readUnsigned? negative r

end GroupWire.Binary64
