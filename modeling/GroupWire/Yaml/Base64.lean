import GroupWire.Text

/-! Bytes written as letters, six bits to a letter. Other characters are passed over; padding ends
the bytes once it fills up a group of four. -/
namespace GroupWire.Yaml.Base64

def letters : Text := "ABCDEFGHIJKLMNOPQRSTUVWXYZabcdefghijklmnopqrstuvwxyz0123456789+/"

/-- A group that is not full yet: its letters, and the bits that made no byte. -/
structure Group where
  size : Nat
  left : Nat
  pads : Nat

/-- The bits of a letter, with those left over, make a byte or are left over themselves. -/
def Group.add (g : Group) (n : Nat) : List UInt8 × Group :=
  if g.size = 0 then ([], ⟨1, n, 0⟩)
  else if g.size = 1 then ([(g.left * 4 + n / 16).toUInt8], ⟨2, n % 16, 0⟩)
  else if g.size = 2 then ([(g.left * 16 + n / 4).toUInt8], ⟨3, n % 4, 0⟩)
  else ([(g.left * 64 + n).toUInt8], ⟨0, 0, 0⟩)

def decodeFrom (g : Group) : Text → Option (List UInt8)
  | [] => if g.size = 0 then some [] else none
  | c :: r =>
    if c = '=' then
      if g.size < 2 then decodeFrom g r
      else if 4 ≤ g.size + g.pads + 1 then some []
      else decodeFrom { g with pads := g.pads + 1 } r
    else
      match letters.idxOf? c with
      | none => decodeFrom g r
      | some n => let (bs, h) := g.add n; (decodeFrom h r).map (bs ++ ·)

/-- Nothing but ASCII is passed over. -/
def decode? (t : Text) : Option (List UInt8) :=
  if t.all (·.toNat < 128) then decodeFrom ⟨0, 0, 0⟩ t else none

end GroupWire.Yaml.Base64
