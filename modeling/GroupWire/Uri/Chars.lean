import GroupWire.Text

/-! Character classes of URIs, and texts in which every percent sign begins a triplet. -/
namespace GroupWire.Uri

def isHex (c : Char) : Bool := c.isDigit || ('a' ≤ c && c ≤ 'f') || ('A' ≤ c && c ≤ 'F')

def isUnreserved (c : Char) : Bool := c.isAlphanum || ['-', '.', '_', '~'].contains c

def isSubDelim (c : Char) : Bool :=
  ['!', '$', '&', '\'', '(', ')', '*', '+', ',', ';', '='].contains c

def isGenDelim (c : Char) : Bool := [':', '/', '?', '#', '[', ']', '@'].contains c

/-- What percent-encoding leaves alone. -/
def isPlain (c : Char) : Bool := isUnreserved c || isSubDelim c || isGenDelim c

/-- Characters of other scripts, as internationalized references may hold them. -/
def isUcs (c : Char) : Bool :=
  let n := c.toNat
  (0xa0 ≤ n && n ≤ 0xd7ff) || (0xf900 ≤ n && n ≤ 0xfdcf) || (0xfdf0 ≤ n && n ≤ 0xffef) ||
    (0x10000 ≤ n && n < 0xe0000 && n % 0x10000 ≤ 0xfffd) || (0xe1000 ≤ n && n ≤ 0xefffd)

/-- Every character is allowed or part of a triplet; `ok` is meant to refuse the percent sign. -/
def wellEncoded (ok : Char → Bool) : Text → Bool
  | '%' :: a :: b :: r => isHex a && isHex b && wellEncoded ok r
  | c :: r => ok c && wellEncoded ok r
  | [] => true

def isSchemeChar (c : Char) : Bool := c.isAlphanum || ['+', '.', '-'].contains c

def isNameChar (c : Char) : Bool := isUnreserved c || isSubDelim c

def isUserinfoChar (c : Char) : Bool := isNameChar c || c = ':'

def isPathChar (c : Char) : Bool := isUserinfoChar c || c = '@' || c = '/'

def isQueryChar (c : Char) : Bool := isPathChar c || c = '?'

end GroupWire.Uri
