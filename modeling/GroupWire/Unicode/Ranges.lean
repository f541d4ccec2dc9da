/-! Sets of code points as lists of inclusive ranges, and maps of code points as lists of runs. -/
namespace GroupWire.Unicode

abbrev Ranges := List (Nat × Nat)

def Ranges.has (r : Ranges) (c : Char) : Bool := r.any fun p => p.1 ≤ c.toNat && c.toNat ≤ p.2

/-- The code points `first`, `first + step`, … up to `last`; `first + k` goes to `image + k`. -/
structure Run where
  first : Nat
  last : Nat
  step : Nat
  image : Nat

def Run.at? (r : Run) (n : Nat) : Option Nat :=
  if r.first ≤ n && n ≤ r.last && (n - r.first) % r.step == 0 then
    some (r.image + (n - r.first))
  else none

end GroupWire.Unicode
