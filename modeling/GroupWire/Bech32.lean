import GroupWire.Text

/-! Labelled base-32 texts with a six-symbol checksum over label and data. Two checksums are in use,
which differ in the residue they leave: both are read, the first is written. -/
namespace GroupWire.Bech32

def alphabet : Text := "qpzry9x8gf2tvdw0s3jn54khce6mua7l"

def symbol (n : Nat) : Char := alphabet.getD n 'q'

def generators : List Nat := [0x3b6a57b2, 0x26508e6d, 0x1ea119fa, 0x3d4233dd, 0x2a1462b3]

def step (c v : Nat) : Nat :=
  generators.zipIdx.foldl (fun x g => if (c >>> 25).testBit g.2 then x ^^^ g.1 else x)
    (((c &&& 0x1ffffff) <<< 5) ^^^ v)

def residue (values : List Nat) : Nat := values.foldl step 1

def expand (label : Text) : List Nat :=
  label.map (fun c => c.toNat >>> 5) ++ 0 :: label.map (fun c => c.toNat &&& 31)

def residues : List Nat := [1, 0x2bc830a3]

/-- The last `width` digits of a number, most significant first. -/
def digits (base : Nat) : Nat → Nat → List Nat
  | 0, _ => []
  | width + 1, n => digits base width (n / base) ++ [n % base]

def ofDigits (base : Nat) (ds : List Nat) : Nat := ds.foldl (fun n d => n * base + d) 0

def checksum (label : Text) (data : List Nat) : List Nat :=
  digits 32 6 (residue (expand label ++ data ++ List.replicate 6 0) ^^^ 1)

def encode (label : Text) (data : List Nat) : Text :=
  label ++ '1' :: (data ++ checksum label data).map symbol

/-- The data of a text in one case throughout, with this label and its checksum. -/
def decode? (label t : Text) : Option (List Nat) :=
  let small := t.toLower
  let values := (small.drop (label.length + 1)).map (alphabet.idxOf ·)
  let data := values.take (values.length - 6)
  if (t = small || t = small.map Char.toUpper) && (label ++ ['1']).isPrefixOf small &&
      values.all (· < 32) && 6 ≤ values.length &&
      residues.contains (residue (expand label ++ values)) then
    some data
  else none

end GroupWire.Bech32
