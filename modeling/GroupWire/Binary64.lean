import GroupWire.Text

/-! Numbers of the 64-bit binary format, as exact values: a sign, a significand
below 2^53 and a power of two. -/
namespace GroupWire

/-- A finite number is plus or minus `significand` times two to the `exponent`, which is at least
-1074. -/
inductive Binary64
  | nan
  | infinite (negative : Bool)
  | finite (negative : Bool) (significand : Nat) (exponent : Int)
  deriving DecidableEq

namespace Binary64

def leastExponent : Int := -1074

def greatestExponent : Int := 971

/-- The nearest whole number to a quotient, and of two the even one. -/
def roundHalfEven (num den : Nat) : Nat :=
  let q := num / den
  let r := num % den
  if 2 * r < den || (2 * r = den && q % 2 = 0) then q else q + 1

/-- Powers that a signed exponent puts above and below a fraction line. -/
def above (base : Nat) (e : Int) : Nat := base.pow e.toNat

def below (base : Nat) (e : Int) : Nat := base.pow (-e).toNat

/-- The quotient rounded to the format. -/
def ofQuotient (negative : Bool) (num den : Nat) : Binary64 :=
  let e : Int := (num.log2 : Int) - den.log2 - 52
  let e := if num * below 2 e < Nat.pow 2 52 * (den * above 2 e) then e - 1 else e
  let e := max e leastExponent
  let m := roundHalfEven (num * below 2 e) (den * above 2 e)
  let (m, e) := if m = Nat.pow 2 53 then (Nat.pow 2 52, e + 1) else (m, e)
  if num = 0 then finite negative 0 leastExponent
  else if greatestExponent < e then infinite negative
  else finite negative m e

def ofNat (n : Nat) : Binary64 := ofQuotient false n 1

def zero : Binary64 := ofNat 0

def negate : Binary64 → Binary64
  | nan => nan
  | infinite s => infinite (!s)
  | finite s m e => finite (!s) m e

/-- Numerator and denominator of the magnitude of a finite number. -/
def quotient (m : Nat) (e : Int) : Nat × Nat := (m * above 2 e, below 2 e)

def signed (negative : Bool) (n : Nat) : Int := if negative then -n else n

def add : Binary64 → Binary64 → Binary64
  | nan, _ => nan
  | _, nan => nan
  | infinite s, infinite t => if s = t then infinite s else nan
  | infinite s, _ => infinite s
  | _, infinite t => infinite t
  | finite s m e, finite t n f =>
    let (a, b) := quotient m e
    let (c, d) := quotient n f
    let sum := signed s (a * d) + signed t (c * b)
    ofQuotient (if sum = 0 then s && t else sum < 0) sum.natAbs (b * d)

def mul : Binary64 → Binary64 → Binary64
  | nan, _ => nan
  | _, nan => nan
  | infinite s, infinite t => infinite (s != t)
  | infinite s, finite t n _ => if n = 0 then nan else infinite (s != t)
  | finite s m _, infinite t => if m = 0 then nan else infinite (s != t)
  | finite s m e, finite t n f =>
    let (a, b) := quotient m e
    let (c, d) := quotient n f
    ofQuotient (s != t) (a * c) (b * d)

/-- A fraction with the value of a finite number, its denominator positive. -/
def toFraction? : Binary64 → Option (Int × Nat)
  | finite s m e => let (a, b) := quotient m e; some (signed s a, b)
  | _ => none

/-- The whole number it equals, if any. -/
def toInt? (x : Binary64) : Option Int :=
  x.toFraction?.bind fun p => if p.1 % p.2 = 0 then some (p.1 / p.2) else none

/-- Equality of numbers: zeros of either sign are equal, nothing equals `nan`. -/
def same : Binary64 → Binary64 → Bool
  | nan, _ => false
  | _, nan => false
  | finite s m e, finite t n f => (m = 0 && n = 0) || (s = t && m = n && e = f)
  | x, y => x = y

def isZero : Binary64 → Bool
  | finite _ m _ => m = 0
  | _ => false

end Binary64

end GroupWire
