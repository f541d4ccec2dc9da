import GroupWire.Text

/-! What a document is made of once spaces, breaks and comments are gone. -/
namespace GroupWire.Yaml

/-- A tag as it is written: a handle that a document may have given a meaning, and the rest. -/
structure TagText where
  handle : Option Text
  suffix : Text
  deriving DecidableEq

inductive Directive
  | version (major : Nat)
  | handle (handle meaning : Text)
  | other
  deriving DecidableEq

/-- Block collections have no signs of their own: their starts and ends are read off the columns. -/
inductive Token
  | directive (d : Directive)
  | documentStart
  | documentEnd
  | blockSequenceStart
  | blockMappingStart
  | blockEnd
  | flowSequenceStart
  | flowSequenceEnd
  | flowMappingStart
  | flowMappingEnd
  | item
  | comma
  | key
  | value
  | alias (name : Text)
  | anchor (name : Text)
  | tag (t : TagText)
  | scalar (plain : Bool) (t : Text)
  deriving DecidableEq

end GroupWire.Yaml
