import GroupWire.Text

/-! Thirty-two bytes as 64 lower-case hex digits: keys and event ids are written this way. -/
namespace GroupWire

def isHexDigit (c : Char) : Bool := c.isDigit || ('a' ≤ c && c ≤ 'f')

structure Hex32 where
  digits : Text
  valid : digits.length = 64 ∧ digits.all isHexDigit = true
  deriving DecidableEq

namespace Hex32

/-- Digits of either case. -/
def read? (t : Text) : Option Hex32 :=
  if h : t.toLower.length = 64 ∧ t.toLower.all isHexDigit = true then some ⟨t.toLower, h⟩ else none

def toNat (x : Hex32) : Nat := Text.toNat 16 x.digits

end Hex32

end GroupWire
