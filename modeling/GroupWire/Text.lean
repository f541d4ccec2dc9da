/-! Texts are lists of characters. A character is any code point but a surrogate, so a lone half of
a pair of UTF-16 stands in no text. This module holds what every other one does with texts:
splitting at a separator, joining, trimming, ASCII case and decimal numerals. -/
namespace GroupWire

abbrev Text := List Char

instance : Coe String Text := ⟨String.toList⟩

namespace Text

/-- The pieces between separators; a text without one is a single piece. -/
def split (sep : Char) : Text → List Text
  | [] => [[]]
  | c :: r => if c = sep then [] :: split sep r else
    match split sep r with
    | [] => [[c]]
    | w :: ws => (c :: w) :: ws

def join (sep : Text) (parts : List Text) : Text := sep.intercalate parts

/-- Spaces of every script, and the control characters that separate lines, fields and records. -/
def isBlank (c : Char) : Bool :=
  let n := c.toNat
  (9 ≤ n && n ≤ 13) || (28 ≤ n && n ≤ 32) || n == 0x85 || n == 0xa0 || n == 0x1680 ||
    (0x2000 ≤ n && n ≤ 0x200a) || n == 0x2028 || n == 0x2029 || n == 0x202f ||
    n == 0x205f || n == 0x3000

def trimBy (f : Char → Bool) (t : Text) : Text := ((t.dropWhile f).reverse.dropWhile f).reverse

def trim (t : Text) : Text := trimBy isBlank t

/-- Numerals may stand between spaces, not between separators of fields and records. -/
def trimNumeral (t : Text) : Text :=
  trimBy (fun c => isBlank c && !(28 ≤ c.toNat && c.toNat ≤ 31)) t

/-- ASCII capitals become small letters; nothing else changes. -/
def toLower (t : Text) : Text := t.map Char.toLower

def ofNat (n : Nat) : Text := Nat.toDigits 10 n

def ofInt : Int → Text
  | .ofNat n => ofNat n
  | .negSucc n => '-' :: ofNat (n + 1)

/-- The value of a numeral whose characters are digits of the base. -/
def toNat (base : Nat) (t : Text) : Nat :=
  t.foldl (fun n c => n * base + (if c.isDigit then c.toNat - 48 else c.toLower.toNat - 87)) 0

def padLeft (width : Nat) (fill : Char) (t : Text) : Text :=
  List.replicate (width - t.length) fill ++ t

end Text

end GroupWire
