import GroupWire.Log.Pairs

/-! Lines of a log: level, name and message, then the fields if there are any. -/
namespace GroupWire.Log

structure Line where
  level : Text
  name : Text
  message : Text
  fields : List (Text × Text)

def Line.text (l : Line) : Text :=
  Text.join " " [l.level, l.name, l.message] ++ pairs (some defaultBound) " " l.fields

/-- The line for a note that the tag codecs and the drafts make. -/
def noteLine (note : Text) : Text := Line.text ⟨"debug", "relaygroups.nips.nip29", note, []⟩

end GroupWire.Log
