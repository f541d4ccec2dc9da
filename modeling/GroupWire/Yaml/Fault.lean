import GroupWire.Text.Quoted

/-! What can be wrong with a document. Its form has one fault; what its tags
promise of a scalar has many. -/
namespace GroupWire.Yaml

inductive Fault
  | encoding
  | malformed
  | codePoint
  | codeWidth
  | notTruth (word : Text)
  | noDigits
  | notInteger (base : Nat) (digits : Text)
  | tooManyDigits (count : Nat)
  | notFloat (digits : Text)
  | notMoment
  | notMomentText
  | year (n : Nat)
  | month
  | day
  | hour
  | minute
  | second
  | offset (seconds : Int)
  deriving DecidableEq

/-- A span of time as whole days, which may be negative, and seconds of a day, each left out if
zero. -/
def spanText (seconds : Int) : Text :=
  let days := seconds / 86400
  let rest := seconds % 86400
  Text.join ", " ((if days = 0 then [] else ["days=" ++ Text.ofInt days]) ++
    if rest = 0 then [] else ["seconds=" ++ Text.ofInt rest])

def Fault.message : Fault → Text
  | encoding => "the document is not UTF-8"
  | malformed => "the document is malformed"
  | codePoint => "chr() arg not in range(0x110000)"
  | codeWidth => "Python int too large to convert to C int"
  | notTruth word => word.quoted
  | noDigits => "string index out of range"
  | notInteger base digits =>
    "invalid literal for int() with base " ++ Text.ofNat base ++ ": " ++ digits.quoted.take 200
  | tooManyDigits count =>
    "Exceeds the limit (4300 digits) for integer string conversion: value has " ++
      Text.ofNat count ++ " digits; use sys.set_int_max_str_digits() to increase the limit"
  | notFloat digits => "could not convert string to float: " ++ digits.quoted
  | notMoment => "'NoneType' object has no attribute 'groupdict'"
  | notMomentText => "expected string or bytes-like object, got 'list'"
  | year n => "year " ++ Text.ofNat n ++ " is out of range"
  | month => "month must be in 1..12"
  | day => "day is out of range for month"
  | hour => "hour must be in 0..23"
  | minute => "minute must be in 0..59"
  | second => "second must be in 0..59"
  | offset seconds =>
    "offset must be a timedelta strictly between -timedelta(hours=24) and timedelta(hours=24), " ++
      "not datetime.timedelta(" ++ spanText seconds ++ ")."

end GroupWire.Yaml
