import GroupWire.Text

/-! Paths without dot segments. -/
namespace GroupWire.Uri

/-- `kept` holds the segments so far, the last one first. -/
def keepSegment (kept : List Text) (s : Text) : List Text :=
  if s = ['.'] then kept else if s = ['.', '.'] then kept.tail else s :: kept

def keptSegments (path : Text) : List Text := ((path.split '/').foldl keepSegment []).reverse

/-- A path from the root stays one, and a path that ends in a dot segment still ends in a slash. -/
def removeDots (path : Text) : Text :=
  let kept := keptSegments path
  let front := ['/'].isPrefixOf path && kept.head? ≠ some []
  let back := ['/', '.'].isSuffixOf path || ['/', '.', '.'].isSuffixOf path
  Text.join ['/'] ((if front then [[]] else []) ++ kept ++ (if back then [[]] else []))

end GroupWire.Uri
