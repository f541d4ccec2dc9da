import GroupWire.Text

/-! Fields of a log line as pairs of a key and a text, separated by spaces. Long texts are
cut and say by how much; a text that is empty, or holds a space, an equals sign or a quote,
stands between double quotes. -/
namespace GroupWire.Log

/-- The first characters, or all but the last ones if the bound is negative. -/
def front (bound : Int) (t : Text) : Text :=
  if 0 ≤ bound then t.take bound.toNat else t.take (t.length - bound.natAbs)

/-- Without a bound, or with zero for one, nothing is cut. -/
def cut (bound : Option Int) (t : Text) : Text :=
  match bound with
  | none => t
  | some b =>
    if b = 0 || (t.length : Int) ≤ b then t
    else front b t ++ "...<truncated " ++ Text.ofInt (t.length - b) ++ " chars>"

def isDelicate (c : Char) : Bool := c = ' ' || c = '=' || c = '"' || c = '\''

def needsQuotes (t : Text) : Bool := t.isEmpty || t.any isDelicate

def escapeInQuotes (c : Char) : Text := if c = '\\' || c = '"' then ['\\', c] else [c]

def quoteIfNeeded (t : Text) : Text :=
  if needsQuotes t then '"' :: t.flatMap escapeInQuotes ++ ['"'] else t

def pair (bound : Option Int) (field : Text × Text) : Text :=
  field.1 ++ '=' :: quoteIfNeeded (cut bound field.2)

def defaultBound : Int := 1000

/-- No fields, no text: then not even the lead is written. -/
def pairs (bound : Option Int) (lead : Text) (fields : List (Text × Text)) : Text :=
  if fields.isEmpty then [] else lead ++ Text.join " " (fields.map (pair bound))

end GroupWire.Log
