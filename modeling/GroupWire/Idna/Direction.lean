import GroupWire.Text
import GroupWire.Unicode.Direction

/-! The rule that keeps labels readable when letters of both directions meet. -/
namespace GroupWire.Idna
open Unicode

inductive Direction | left | right | arabic | arabicNumber | europeanNumber | separator | neutral
  | boundary | attached
  deriving DecidableEq

def direction (c : Char) : Direction :=
  if rightToLeft.has c then .right
  else if arabicLetters.has c then .arabic
  else if arabicNumbers.has c then .arabicNumber
  else if europeanNumbers.has c then .europeanNumber
  else if separators.has c then .separator
  else if neutrals.has c then .neutral
  else if boundaries.has c then .boundary
  else if attached.has c then .attached
  else .left

def Direction.isRight (d : Direction) : Bool := d = .right || d = .arabic

/-- A label with a letter or digit that runs to the left: it starts with a letter, ends with a
letter or a number (marks aside), and keeps to one direction and one kind of digits. -/
def directionsAgree (ds : List Direction) : Bool :=
  let last := ds.reverse.dropWhile (· = .attached) |>.head?
  match ds with
  | [] => false
  | .left :: _ =>
    (ds.all fun d => d ∉ [.right, .arabic, .arabicNumber]) &&
      last.any fun d => d ∈ [.left, .europeanNumber]
  | d :: _ =>
    d.isRight && (ds.all (· ≠ .left)) &&
      (last.any fun d => d.isRight || d ∈ [.europeanNumber, .arabicNumber]) &&
      !(ds.contains .arabicNumber && ds.contains .europeanNumber)

def isReadable (label : Text) : Bool :=
  let ds := label.map direction
  !(ds.any fun d => d.isRight || d = .arabicNumber) || directionsAgree ds

end GroupWire.Idna
