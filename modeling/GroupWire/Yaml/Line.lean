import GroupWire.Text

/-! Characters of a document and what separates them: spaces, breaks of lines, markers of
documents. -/
namespace GroupWire.Yaml

def isBreak (c : Char) : Bool := c = '\n' || c = '\x85' || c = '\u2028' || c = '\u2029'

def isSpace (c : Char) : Bool := c = ' ' || c = '\t'

/-- A document holds nothing that is not text: of the controls the tab, the breaks
and the next-line character. -/
def isContent (c : Char) : Bool :=
  let n := c.toNat
  c = '\t' || c = '\n' || c = '\r' || (0x20 ≤ n && n ≤ 0x7e) || n == 0x85 ||
    (0xa0 ≤ n && n ≤ 0xfffd) || 0x10000 ≤ n

def isWordChar (c : Char) : Bool := c.isAlphanum || c = '-' || c = '_'

def isHexDigit (c : Char) : Bool := c.isDigit || ('a' ≤ c && c ≤ 'f') || ('A' ≤ c && c ≤ 'F')

/-- Every break of two characters or of the older kind becomes the one of one character. -/
def unifyBreaks : Text → Text
  | [] => []
  | '\r' :: '\n' :: r => '\n' :: unifyBreaks r
  | '\r' :: r => '\n' :: unifyBreaks r
  | c :: r => c :: unifyBreaks r

/-- The text is over, or a space or a break comes next. -/
def atGap : Text → Bool
  | [] => true
  | c :: _ => isSpace c || isBreak c

/-- As a gap, but a tab is none. -/
def atEdge : Text → Bool
  | [] => true
  | c :: _ => c = ' ' || isBreak c

def atChar (f : Char → Bool) (t : Text) : Bool := t.head?.any f

/-- At the start of a line, three dashes or dots apart from what follows divide documents. -/
def atMarker (t : Text) : Bool :=
  (t.take 3 = "---".toList || t.take 3 = "...".toList) && atGap (t.drop 3)

/-- What a fold of lines stands for: a single break becomes a space, more of them keep all but the
first, and a break of the rarer kinds is kept. -/
def folded (first : Char) (more : Text) : Text :=
  if first ≠ '\n' then first :: more else if more.isEmpty then [' '] else more

end GroupWire.Yaml
