import GroupWire.Idna.Context
import GroupWire.Idna.Direction
import GroupWire.Idna.Punycode
import GroupWire.Text.Lowercase

/-! Labels of internationalized hosts and their ASCII form. Nothing is mapped but capitals: a label
is either registrable as it stands or refused. -/
namespace GroupWire.Idna
open Unicode

def hyphensFit (label : Text) : Bool :=
  !(['-', '-'].isPrefixOf (label.drop 2)) && !(['-'].isPrefixOf label) && !(['-'].isSuffixOf label)

def isLabel (label : Text) : Bool :=
  !label.isEmpty && isComposed label && hyphensFit label && !nextIs marks.has label &&
    allowedFrom label [] label && isReadable label

def aceMark : Text := ['x', 'n', '-', '-']

def maxLength : Nat := 63

/-- An ASCII label is registrable if it, or the label it stands for, is. -/
def isAsciiLabel (label : Text) : Bool :=
  if aceMark.isPrefixOf label then
    let coded := label.drop 4
    !coded.isEmpty && !(['-'].isSuffixOf coded) && (Punycode.decode coded).any isLabel
  else isLabel label

def ofLowercase? (label : Text) : Option Text :=
  if label.all (·.toNat < 128) then
    if isAsciiLabel label && label.length ≤ maxLength then some label else none
  else
    let coded := aceMark ++ Punycode.encode label
    if isLabel label && coded.length ≤ maxLength then some coded else none

/-- ASCII labels stand as they are. -/
def toAscii? (label : Text) : Option Text :=
  if label.any (128 < ·.toNat) then ofLowercase? (Text.lowercase label) else some label

end GroupWire.Idna
