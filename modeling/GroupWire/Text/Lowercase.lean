import GroupWire.Text
import GroupWire.Unicode.Case

/-! Small letters of a text in every script. One capital becomes two code points, and a sigma takes
its final form where a cased letter stands before it and none after it. -/
namespace GroupWire.Text
open Unicode

def smallLetter (c : Char) : Char :=
  match capitals.findSome? (·.at? c.toNat) with
  | some n => Char.ofNat n
  | none => c

/-- Whether the first character that case does not pass over is a cased letter. -/
def casedNext (t : Text) : Bool :=
  match t.dropWhile caseIgnorable.has with
  | [] => false
  | c :: _ => cased.has c

/-- `before` is what precedes the character, nearest first. -/
def lowercaseAt (before : Text) (c : Char) (after : Text) : Text :=
  if c = 'Σ' then (if casedNext before && !casedNext after then ['ς'] else ['σ'])
  else if c = 'İ' then ['i', '\u0307']
  else [smallLetter c]

def lowercaseFrom (before : Text) : Text → Text
  | [] => []
  | c :: r => lowercaseAt before c r ++ lowercaseFrom (c :: before) r

def lowercase (t : Text) : Text := lowercaseFrom [] t

end GroupWire.Text
