import GroupWire.Yaml.Kind
import GroupWire.Yaml.Line
import GroupWire.Yaml.Timestamp

/-! Kinds of plain scalars without a tag, told by their form. -/
namespace GroupWire.Yaml.Implicit

def isTruth (t : Text) : Bool :=
  ["yes", "Yes", "YES", "no", "No", "NO", "true", "True", "TRUE", "false", "False", "FALSE", "on",
    "On", "ON", "off", "Off", "OFF"].any (t = ·.toList)

def isNull (t : Text) : Bool := ["", "~", "null", "Null", "NULL"].any (t = ·.toList)

def unsigned : Text → Text
  | '+' :: r => r
  | '-' :: r => r
  | t => t

def isRunChar (c : Char) : Bool := c.isDigit || c = '_'

/-- A digit, and digits and underscores after it. -/
def isRun : Text → Bool
  | [] => false
  | c :: r => c.isDigit && r.all isRunChar

/-- Less than sixty, in one digit or two. -/
def isSixtieth : Text → Bool
  | [a] => a.isDigit
  | [a, b] => a.isDigit && a.toNat < '6'.toNat && b.isDigit
  | _ => false

/-- Nothing, or a mark, a sign and digits. -/
def isExponent : Text → Bool
  | [] => true
  | c :: s :: r => (c = 'e' || c = 'E') && (s = '-' || s = '+') && !r.isEmpty && r.all Char.isDigit
  | _ => false

/-- Digits and underscores after a point, and an exponent. -/
def isFraction (t : Text) : Bool := isExponent (t.dropWhile isRunChar)

/-- Places of base sixty after the first; the last one is tried by `last`. -/
def isSixtieths (last : Text → Bool) : List Text → Bool
  | [] => false
  | [t] => last t
  | t :: ts => isSixtieth t && isSixtieths last ts

/-- A point, and before it a place of base sixty. -/
def isLastPlace (t : Text) : Bool :=
  isSixtieth (t.takeWhile (· ≠ '.')) &&
    match t.dropWhile (· ≠ '.') with
    | [] => false
    | _ :: r => r.all isRunChar

def isInfinity (t : Text) : Bool := [".inf", ".Inf", ".INF"].any (t = ·.toList)

def isNan (t : Text) : Bool := [".nan", ".NaN", ".NAN"].any (t = ·.toList)

def isPointed (t : Text) : Bool :=
  isRun (t.takeWhile (· ≠ '.')) &&
    match t.dropWhile (· ≠ '.') with
    | [] => false
    | _ :: r => isFraction r

def isBare : Text → Bool
  | '.' :: c :: r => c.isDigit && isFraction r
  | _ => false

def isFloat (t : Text) : Bool :=
  let u := unsigned t
  isPointed u || isBare t || isInfinity u || isNan t ||
    match u.split ':' with
    | [] => false
    | p :: ps => isRun p && isSixtieths isLastPlace ps

def isInteger (t : Text) : Bool :=
  match unsigned t with
  | [] => false
  | ['0'] => true
  | '0' :: 'b' :: r => !r.isEmpty && r.all fun c => c = '0' || c = '1' || c = '_'
  | '0' :: 'x' :: r => !r.isEmpty && r.all fun c => isHexDigit c || c = '_'
  | '0' :: r => r.all fun c => ('0' ≤ c && c ≤ '7') || c = '_'
  | u =>
    match u.split ':' with
    | [] => false
    | p :: ps => isRun p && ps.all isSixtieth

/-- A date alone has its digits in full. -/
def isTimestamp (t : Text) : Bool :=
  (Timestamp.ofText? t).any fun s => s.time.isSome || t.length = "2001-12-14".length

/-- Signs that are kept for the format itself. -/
def isReserved (t : Text) : Bool := ["!", "&", "*"].any (t = ·.toList)

/-- The first form that fits; a break at the end of the text does not matter to it. -/
def kind (scalar : Text) : Kind :=
  let t := Timestamp.withoutBreak scalar
  if scalar ≠ [] && t = [] then .text
  else if isTruth t then .bool
  else if isFloat t then .float
  else if isInteger t then .int
  else if t = "<<" then .merge
  else if isNull t then .null
  else if isTimestamp t then .timestamp
  else if t = "=" then .default
  else if isReserved t then .other
  else .text

end GroupWire.Yaml.Implicit
