import GroupWire.Yaml.Cursor

/-! Escapes in scalars between double quotes: letters for single characters, and
code points in hexadecimal. -/
namespace GroupWire.Yaml.Escaped

def letter? (c : Char) : Option Char :=
  (List.zip "0abt\tnvfre \"\\/N_LP".toList
    ['\x00', '\x07', '\x08', '\t', '\t', '\n', '\x0b', '\x0c', '\r', '\x1b', ' ', '"', '\\', '/',
      '\x85', '\u00a0', '\u2028', '\u2029']).lookup c

def width? : Char → Option Nat
  | 'x' => some 2
  | 'u' => some 4
  | 'U' => some 8
  | _ => none

def code? (width : Nat) (t : Text) : Option Nat :=
  let ds := t.take width
  if ds.length = width && ds.all isHexDigit then some (Text.toNat 16 ds) else none

def isHigh (n : Nat) : Bool := 0xd800 ≤ n && n < 0xdc00

def isLow (n : Nat) : Bool := 0xdc00 ≤ n && n < 0xe000

/-- The second half of a pair that two escapes make. -/
def low? : Text → Option Nat
  | '\\' :: 'u' :: r => (code? 4 r).filter isLow
  | _ => none

/-- The character of a code, and how much of the text after it belongs to the character. No text
holds half of a pair of UTF-16: where two escapes name the two halves they give the one character
of the pair, and a lone half is refused. A loader that adds one code point for each escape would
keep the halves as they are. -/
def char (code : Nat) (after : Text) : Except Fault (Char × Nat) :=
  if 0x80000000 ≤ code then .error .codeWidth
  else if 0x110000 ≤ code then .error .codePoint
  else if isHigh code then
    match low? after with
    | some low => .ok (Char.ofNat (0x10000 + (code - 0xd800) * 0x400 + (low - 0xdc00)), 6)
    | none => .error .malformed
  else if isLow code then .error .malformed
  else .ok (Char.ofNat code, 0)

/-- The character that the escape after a backslash stands for, and where reading goes on. -/
def read (p : Cursor) : Except Fault (Char × Cursor) :=
  match p.rest with
  | [] => .error .malformed
  | c :: r =>
    match letter? c with
    | some d => .ok (d, p.next)
    | none =>
      match width? c with
      | none => .error .malformed
      | some w =>
        match code? w r with
        | none => .error .malformed
        | some n => do
          let (d, more) ← char n (r.drop w)
          .ok (d, p.skip (1 + w + more))

end GroupWire.Yaml.Escaped
