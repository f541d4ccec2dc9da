import GroupWire.Text
import GroupWire.Value
import GroupWire.Yaml.Fault

/-! Dates and times of documents: their written form, and the dates and times there are. -/
namespace GroupWire.Yaml

/-- A time of a day as it is written; the offset is in seconds. -/
structure TimeText where
  hour : Nat
  minute : Nat
  second : Nat
  fraction : Text
  offset : Option Int

structure Timestamp where
  year : Nat
  month : Nat
  day : Nat
  time : Option TimeText

namespace Timestamp

/-- As many digits as there are, at least and at most so many. -/
def digits (least most : Nat) (t : Text) : Option (Nat × Text) :=
  let ds := (t.take most).takeWhile Char.isDigit
  if ds.length < least then none else some (Text.toNat 10 ds, t.drop ds.length)

def expect (f : Char → Bool) : Text → Option Text
  | [] => none
  | c :: r => if f c then some r else none

def isBlank (c : Char) : Bool := c = ' ' || c = '\t'

/-- A number after a sign of its own, if the sign comes next. -/
def colonDigits (t : Text) : Option (Nat × Text) := do digits 2 2 (← expect (· = ':') t)

def offset (t : Text) : Option (Int × Text) := do
  let negative := t.head? = some '-'
  let r ← expect (fun c => c = '-' || c = '+') t
  let (h, r) ← digits 1 2 r
  let (m, r) := (colonDigits r).getD (0, r)
  let n : Int := h * 3600 + m * 60
  some (if negative then -n else n, r)

/-- The zone at the end of a time, if it has one. -/
def zone (t : Text) : Option (Option Int) :=
  match t, t.dropWhile isBlank with
  | [], _ => some none
  | _, ['Z'] => some (some 0)
  | _, r => do
    let (n, rest) ← offset r
    if rest.isEmpty then some (some n) else none

def fraction (t : Text) : Text × Text :=
  match t with
  | '.' :: r => (r.takeWhile Char.isDigit, r.dropWhile Char.isDigit)
  | _ => ([], t)

def timeOf (t : Text) : Option TimeText := do
  let (hour, r) ← digits 1 2 t
  let (minute, r) ← colonDigits r
  let (second, r) ← colonDigits r
  let (part, r) := fraction r
  some ⟨hour, minute, second, part, ← zone r⟩

/-- The letter or the blanks between a date and a time. -/
def pastJoint : Text → Option Text
  | [] => none
  | c :: r =>
    if c = 'T' || c = 't' then some r else if isBlank c then some (r.dropWhile isBlank) else none

/-- A break at the end belongs to no part. -/
def withoutBreak (t : Text) : Text := if t.getLast? = some '\n' then t.dropLast else t

def ofText? (t : Text) : Option Timestamp := do
  let (year, r) ← digits 4 4 (withoutBreak t)
  let (month, r) ← digits 1 2 (← expect (· = '-') r)
  let (day, r) ← digits 1 2 (← expect (· = '-') r)
  if r.isEmpty then some ⟨year, month, day, none⟩
  else some ⟨year, month, day, some (← timeOf (← pastJoint r))⟩

def isLeap (year : Nat) : Bool := year % 4 = 0 && (year % 100 ≠ 0 || year % 400 = 0)

def daysIn (year month : Nat) : Nat :=
  if month = 2 then (if isLeap year then 29 else 28)
  else if [4, 6, 9, 11].contains month then 30 else 31

def date (s : Timestamp) : Except Fault Date :=
  if s.year = 0 then .error (.year s.year)
  else if s.month = 0 || 12 < s.month then .error .month
  else if s.day = 0 || daysIn s.year s.month < s.day then .error .day
  else .ok ⟨s.year, s.month, s.day⟩

/-- Six places; further ones are cut off. -/
def microseconds (fraction : Text) : Nat :=
  let ds := fraction.take 6
  Text.toNat 10 (ds ++ List.replicate (6 - ds.length) '0')

/-- An offset is less than a day. -/
def checkOffset (n : Option Int) : Except Fault Unit :=
  match n with
  | some n => if n.natAbs < 86400 then .ok () else .error (.offset n)
  | none => .ok ()

def value (s : Timestamp) : Except Fault Value :=
  match s.time with
  | none => s.date.map .date
  | some t => do
    checkOffset t.offset
    let d ← s.date
    if 23 < t.hour then .error .hour
    else if 59 < t.minute then .error .minute
    else if 59 < t.second then .error .second
    else .ok (.moment ⟨d, t.hour, t.minute, t.second, microseconds t.fraction, t.offset⟩)

end Timestamp

end GroupWire.Yaml
