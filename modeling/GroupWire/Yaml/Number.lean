import GroupWire.Binary64.Read
import GroupWire.Text.Lowercase
import GroupWire.Yaml.Fault

/-! Numbers of documents: whole ones in four bases, those of the 64-bit format, and both in base
sixty, with their places between colons. -/
namespace GroupWire.Yaml.Number

/-- The sign, and the digits without it and without underscores. -/
def cutSign (t : Text) : Except Fault (Bool × Text) :=
  match t.filter (· ≠ '_') with
  | [] => .error .noDigits
  | '-' :: r => .ok (true, r)
  | '+' :: r => .ok (false, r)
  | r => .ok (false, r)

def mark? : Nat → Option Char
  | 2 => some 'b'
  | 8 => some 'o'
  | 16 => some 'x'
  | _ => none

/-- Digits may stand after a zero and the letter of their base. -/
def cutMark (base : Nat) (t : Text) : Text :=
  match t with
  | '0' :: c :: d :: r => if mark? base = some c.toLower then d :: r else t
  | _ => t

def isDigitOf (base : Nat) (c : Char) : Bool :=
  if c.isDigit then c.toNat - 48 < base else base = 16 && 'a' ≤ c.toLower && c.toLower ≤ 'f'

/-- More digits than these of a base that is no power of two are refused. -/
def mostDigits : Nat := 4300

def plain (base : Nat) (t : Text) : Except Fault Int :=
  let (negative, r) := Binary64.cutSign t.trimNumeral
  let ds := cutMark base r
  let count := (ds.takeWhile Char.isDigit).length
  if base = 10 && mostDigits < count then .error (.tooManyDigits count)
  else if ds.isEmpty || !ds.all (isDigitOf base) then .error (.notInteger base t)
  else .ok (Binary64.signed negative (Text.toNat base ds))

def sixtieths (ns : List Int) : Int := ns.foldl (fun n m => n * 60 + m) 0

def unsigned (t : Text) : Except Fault Int :=
  match t with
  | [] => .error .noDigits
  | ['0'] => .ok 0
  | '0' :: 'b' :: r => plain 2 r
  | '0' :: 'x' :: r => plain 16 r
  | '0' :: _ => plain 8 t
  | _ => if t.contains ':' then ((t.split ':').mapM (plain 10)).map sixtieths else plain 10 t

def integer (t : Text) : Except Fault Int := do
  let (negative, r) ← cutSign t
  let n ← unsigned r
  .ok (if negative then -n else n)

def plainFloat (t : Text) : Except Fault Binary64 :=
  match Binary64.read? t with
  | some x => .ok x
  | none => .error (.notFloat t)

/-- The sum of the places, the last one first. -/
def floatSixtieths (xs : List Binary64) : Binary64 :=
  (xs.reverse.zipIdx.map fun (x, i) => x.mul (Binary64.ofNat (Nat.pow 60 i))).foldl
    Binary64.add Binary64.zero

def unsignedFloat (t : Text) : Except Fault Binary64 :=
  if t = ".inf" then .ok (.infinite false)
  else if t = ".nan" then .ok .nan
  else if t.contains ':' then ((t.split ':').mapM plainFloat).map floatSixtieths
  else plainFloat t

def float (t : Text) : Except Fault Binary64 := do
  let (negative, r) ← cutSign t.lowercase
  let x ← unsignedFloat r
  .ok (if negative then x.negate else x)

end GroupWire.Yaml.Number
