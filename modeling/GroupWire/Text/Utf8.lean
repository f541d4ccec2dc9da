import GroupWire.Text

/-! Texts from their bytes: one to four to a character, the shortest form only, no surrogates. -/
namespace GroupWire.Text

def isTail (b : UInt8) : Bool := 0x80 ≤ b && b < 0xc0

/-- The number that a leading byte, less its mark, and the bytes after it make. -/
def codeOf (lead : Nat) (rest : List UInt8) : Nat :=
  rest.foldl (fun n b => n * 64 + (b.toNat - 0x80)) lead

def isThree (a b c : UInt8) : Bool :=
  let n := codeOf (a.toNat - 0xe0) [b, c]
  0xe0 ≤ a && a < 0xf0 && isTail b && isTail c && 0x800 ≤ n && !(0xd800 ≤ n && n < 0xe000)

def isFour (a b c d : UInt8) : Bool :=
  let n := codeOf (a.toNat - 0xf0) [b, c, d]
  0xf0 ≤ a && a < 0xf8 && isTail b && isTail c && isTail d && 0x10000 ≤ n && n < 0x110000

def ofUtf8? : List UInt8 → Option Text
  | [] => some []
  | a :: r =>
    if a < 0x80 then (ofUtf8? r).map (Char.ofNat a.toNat :: ·) else
    match r with
    | [] => none
    | b :: r =>
      if 0xc2 ≤ a && a < 0xe0 && isTail b then
        (ofUtf8? r).map (Char.ofNat (codeOf (a.toNat - 0xc0) [b]) :: ·)
      else
      match r with
      | [] => none
      | c :: r =>
        if isThree a b c then
          (ofUtf8? r).map (Char.ofNat (codeOf (a.toNat - 0xe0) [b, c]) :: ·)
        else
        match r with
        | [] => none
        | d :: r =>
          if isFour a b c d then
            (ofUtf8? r).map (Char.ofNat (codeOf (a.toNat - 0xf0) [b, c, d]) :: ·)
          else none

end GroupWire.Text
