import GroupWire.Uri.Chars

/-! Percent-encoding. A text whose percent signs all begin triplets counts as encoded already and
keeps them; in any other text every percent sign is encoded like the rest. -/
namespace GroupWire.Uri

def upperHex (n : Nat) : Char := Char.ofNat (if n < 10 then 48 + n else 55 + n)

def triplet (b : UInt8) : Text := ['%', upperHex (b.toNat / 16), upperHex (b.toNat % 16)]

def isEncoded (t : Text) : Bool := wellEncoded (· ≠ '%') t

def encodeChar (keep : Char → Bool) (c : Char) : Text :=
  if keep c then [c] else (String.utf8EncodeChar c).flatMap triplet

def encode (t : Text) : Text :=
  t.flatMap (encodeChar fun c => isPlain c || (isEncoded t && c = '%'))

/-- Triplets in capitals, of a text in which every percent sign begins one. -/
def upperTriplets : Text → Text
  | '%' :: a :: b :: r => '%' :: a.toUpper :: b.toUpper :: upperTriplets r
  | c :: r => c :: upperTriplets r
  | [] => []

end GroupWire.Uri
