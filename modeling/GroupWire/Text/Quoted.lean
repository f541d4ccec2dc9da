import GroupWire.Text
import GroupWire.Unicode.Printable

/-! Texts between quotes, as the log and the error messages show them: the single quote is
preferred, the double quote stands where the text holds single quotes only, and what
cannot be printed is escaped. -/
namespace GroupWire.Text
open Unicode

def hexDigits (width n : Nat) : Text := padLeft width '0' (Nat.toDigits 16 n)

def escapeCode (n : Nat) : Text :=
  if n < 0x100 then "\\x" ++ hexDigits 2 n
  else if n < 0x10000 then "\\u" ++ hexDigits 4 n
  else "\\U" ++ hexDigits 8 n

def escapeChar (quote c : Char) : Text :=
  if c = quote || c = '\\' then ['\\', c]
  else if c = '\n' then "\\n"
  else if c = '\r' then "\\r"
  else if c = '\t' then "\\t"
  else if printable.has c then [c]
  else escapeCode c.toNat

def quoteFor (t : Text) : Char := if t.contains '\'' && !t.contains '"' then '"' else '\''

def quoted (t : Text) : Text :=
  let q := quoteFor t
  q :: t.flatMap (escapeChar q) ++ [q]

end GroupWire.Text
