import GroupWire.Vocabulary

/-! What a value is, by the name that messages give it. -/
namespace GroupWire

inductive Shape
  | null
  | bool
  | int
  | float
  | text
  | bytes
  | list
  | tuple
  | stream
  | dict
  | set
  | date
  | moment
  | kind
  | key
  | event
  | word (v : Vocabulary)
  | url
  | group
  | role
  | roles
  | admin
  | admins
  | members
  | metadata
  deriving DecidableEq

namespace Shape

def name : Shape → Text
  | null => "NoneType"
  | bool => "bool"
  | int => "int"
  | float => "float"
  | text => "str"
  | bytes => "bytes"
  | list => "list"
  | tuple => "tuple"
  | stream => "list_iterator"
  | dict => "dict"
  | set => "set"
  | date => "date"
  | moment => "datetime"
  | kind => "Kind"
  | key => "PublicKey"
  | event => "EventId"
  | word v => v.name
  | url => "Url"
  | group => "GroupId"
  | role => "Role"
  | roles => "GroupRoles"
  | admin => "GroupAdmin"
  | admins => "GroupAdmins"
  | members => "GroupMembers"
  | metadata => "GroupMetadata"

def all : List Shape :=
  [null, bool, int, float, text, bytes, list, tuple, stream, dict, set, date, moment, kind, key,
    event, url, group, role, roles, admin, admins, members, metadata] ++ Vocabulary.all.map word

def ofName? (t : Text) : Option Shape := all.find? (·.name = t)

/-- Truth values and kinds are numbers, the words of the other vocabularies are
texts, a moment has a date. -/
def includes : Shape → Shape → Bool
  | int, bool => true
  | int, word v => v = .eventKind
  | text, word v => v ≠ .eventKind
  | date, moment => true
  | expected, got => expected = got

def isVowel (c : Char) : Bool := ("aeiouAEIOU" : Text).contains c

/-- The name with the article that its first letter asks for. -/
def withArticle (s : Shape) : Text :=
  (if (s.name.head?).any isVowel then "an " else "a ") ++ s.name

end Shape

end GroupWire
