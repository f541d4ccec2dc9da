import GroupWire.Idna.Composed
import GroupWire.Unicode.Joining
import GroupWire.Unicode.Scripts
import GroupWire.Unicode.Letters

/-! Which characters a label may hold, and where: most letters stand anywhere, joiners and a few
signs only beside certain neighbours. -/
namespace GroupWire.Idna
open Unicode

/-- A virama: the mark behind which a joiner may stand. -/
def afterVirama (before : Text) : Bool :=
  match before with
  | [] => false
  | c :: _ => combiningClass c == 9

def joinsForward (c : Char) : Bool := leftJoining.has c || dualJoining.has c

def joinsBackward (c : Char) : Bool := rightJoining.has c || dualJoining.has c

def nextJoins (joins : Char → Bool) (t : Text) : Bool :=
  match t.dropWhile transparent.has with
  | [] => false
  | c :: _ => joins c

def nextIs (p : Char → Bool) : Text → Bool
  | [] => false
  | c :: _ => p c

def isArabicIndic (c : Char) : Bool := 0x660 ≤ c.toNat && c.toNat ≤ 0x669

def isExtendedArabicIndic (c : Char) : Bool := 0x6f0 ≤ c.toNat && c.toNat ≤ 0x6f9

/-- `before` is what precedes the character, nearest first. -/
def allowedAt (label before : Text) (c : Char) (after : Text) : Bool :=
  if c = '\u200c' then
    afterVirama before || (nextJoins joinsForward before && nextJoins joinsBackward after)
  else if c = '\u200d' then afterVirama before
  else if c = '·' then nextIs (· = 'l') before && nextIs (· = 'l') after
  else if c = '\u0375' then nextIs greek.has after
  else if c = '\u05f3' || c = '\u05f4' then nextIs hebrew.has before
  else if c = '\u30fb' then
    label.any fun d => d ≠ '\u30fb' && (hiragana.has d || katakana.has d || han.has d)
  else if isArabicIndic c then !label.any isExtendedArabicIndic
  else if isExtendedArabicIndic c then !label.any isArabicIndic
  else letters.has c

def allowedFrom (label before : Text) : Text → Bool
  | [] => true
  | c :: r => allowedAt label before c r && allowedFrom label (c :: before) r

end GroupWire.Idna
