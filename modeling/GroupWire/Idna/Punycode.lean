import GroupWire.Text

/-! Punycode: a text in any script written with ASCII letters, digits and hyphens. Code
points are inserted in ascending order; each insertion is a difference in a base-36 numeral
whose digit thresholds adapt. -/
namespace GroupWire.Idna.Punycode

def digit (d : Nat) : Char := if d < 26 then Char.ofNat (97 + d) else Char.ofNat (22 + d)

/-- Either case is read. -/
def digitValue (c : Char) : Option Nat :=
  if c.isDigit then some (c.toNat - 22)
  else if c.isAlpha then some (c.toLower.toNat - 97)
  else none

def threshold (k bias : Nat) : Nat := min 26 (max 1 (k - bias))

theorem threshold_pos (k bias : Nat) : 1 ≤ threshold k bias := by
  simp only [threshold]; omega

theorem threshold_le (k bias : Nat) : threshold k bias ≤ 26 := by
  simp only [threshold]; omega

def halve (delta divisions : Nat) : Nat × Nat :=
  if 455 < delta then halve (delta / 35) (divisions + 1) else (delta, divisions)
termination_by delta
decreasing_by exact Nat.div_lt_self (by omega) (by omega)

/-- The bias after a difference was written, when `count` code points stand in the text. -/
def adapt (delta count : Nat) (first : Bool) : Nat :=
  let d := if first then delta / 700 else delta / 2
  let (e, divisions) := halve (d + d / count) 0
  36 * divisions + 36 * e / (e + 38)

def numeral (bias k q : Nat) : Text :=
  let t := threshold k bias
  if q < t then [digit q]
  else digit (t + (q - t) % (36 - t)) :: numeral bias (k + 36) ((q - t) / (36 - t))
termination_by q
decreasing_by
  have := threshold_pos k bias
  have := Nat.div_le_self (q - threshold k bias) (36 - threshold k bias)
  omega

/-- What the encoder carries from code point to code point: `placed` of them stand in the text. -/
structure Progress where
  out : Text
  delta : Nat
  bias : Nat
  placed : Nat

/-- Passes one character of the text while `point` is being inserted. -/
def Progress.pass (basic point : Nat) (s : Progress) (c : Char) : Progress :=
  if c.toNat < point then { s with delta := s.delta + 1 }
  else if c.toNat = point then
    ⟨s.out ++ numeral s.bias 36 s.delta, 0,
      adapt s.delta (s.placed + 1) (s.placed == basic), s.placed + 1⟩
  else s

/-- Inserts the remaining code points, `least` being the smallest that may still come. -/
def Progress.insert (text : Text) (basic : Nat) : List Nat → Nat → Progress → Progress
  | [], _, s => s
  | point :: rest, least, s =>
    let s := text.foldl (pass basic point)
      { s with delta := s.delta + (point - least) * (s.placed + 1) }
    insert text basic rest (point + 1) { s with delta := s.delta + 1 }

def addPoint (n : Nat) : List Nat → List Nat
  | [] => [n]
  | m :: ms => if n < m then n :: m :: ms else if n = m then m :: ms else m :: addPoint n ms

def encode (t : Text) : Text :=
  let basic := t.filter (·.toNat < 128)
  let points := (t.filter (128 ≤ ·.toNat)).foldr (fun c ps => addPoint c.toNat ps) []
  let done := Progress.insert t basic.length points 128 ⟨[], 0, 72, basic.length⟩
  (if basic.isEmpty then [] else basic ++ ['-']) ++ done.out

/-- Reads one numeral; what follows it comes with it. -/
def readNumeral (bias : Nat) : Text → Nat → Nat → Nat → Option (Nat × Text)
  | [], _, _, _ => none
  | c :: r, k, weight, sum => do
    let d ← digitValue c
    let t := threshold k bias
    if d < t then some (sum + d * weight, r)
    else readNumeral bias r (k + 36) (weight * (36 - t)) (sum + d * weight)

theorem readNumeral_shorter {bias : Nat} {t r : Text} {k w s n : Nat}
    (h : readNumeral bias t k w s = some (n, r)) : r.length < t.length := by
  induction t generalizing k w s with
  | nil => simp [readNumeral] at h
  | cons c t ih =>
    simp only [readNumeral, Option.bind_eq_bind, Option.bind_eq_some_iff] at h
    obtain ⟨d, _, h⟩ := h
    split at h
    · simp only [Option.some.injEq, Prod.mk.injEq] at h
      simp [h.2]
    · have := ih h
      simp only [List.length_cons]
      omega

/-- Inserts the characters that the rest of the numerals describe; `position` is where the last one
went. -/
def place (out : Text) (point position bias : Nat) (first : Bool) (t : Text) : Option Text :=
  if t.isEmpty then some out else
  match h : readNumeral bias t 36 1 0 with
  | none => none
  | some (delta, rest) =>
    let count := out.length + 1
    let i := position + delta
    let point := point + i / count
    if point < 0x110000 then
      let before := i % count
      place (out.take before ++ Char.ofNat point :: out.drop before) point (before + 1)
        (adapt delta count first) false rest
    else none
termination_by t.length
decreasing_by exact readNumeral_shorter h

/-- The basic characters stand before the last hyphen. Surrogates are read as NUL, which no label
holds. -/
def decode (t : Text) : Option Text :=
  let extended := (t.reverse.takeWhile (· ≠ '-')).reverse
  let basic := t.take (t.length - extended.length - 1)
  place basic 128 0 72 true extended

end GroupWire.Idna.Punycode
