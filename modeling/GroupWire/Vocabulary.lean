import GroupWire.EventKind
import GroupWire.Policy
import GroupWire.Tag

/-! The closed vocabularies of the protocol, each word with the label and the token that stand for
it. -/
namespace GroupWire

inductive Vocabulary
  | privacy
  | access
  | eventKind
  | tag
  deriving DecidableEq

inductive Word
  | privacy (p : Privacy)
  | access (a : Access)
  | eventKind (k : EventKind)
  | tag (t : TagName)
  deriving DecidableEq

namespace Vocabulary

def all : List Vocabulary := [privacy, access, eventKind, tag]

def name : Vocabulary → Text
  | privacy => "Privacy"
  | access => "AccessModel"
  | eventKind => "GroupEventKind"
  | tag => "GroupTag"

def words : Vocabulary → List Word
  | privacy => [.privacy .anyone, .privacy .membersOnly]
  | access => [.access .opened, .access .closed]
  | eventKind => EventKind.all.map .eventKind
  | tag => TagName.all.map .tag

end Vocabulary

namespace Word

def vocabulary : Word → Vocabulary
  | privacy _ => .privacy
  | access _ => .access
  | eventKind _ => .eventKind
  | tag _ => .tag

def label : Word → Text
  | privacy p => p.token.map Char.toUpper
  | access a => a.token.map Char.toUpper
  | eventKind k => k.label
  | tag t => t.label

/-- Kinds stand for numbers, all other words for texts. -/
def code? : Word → Option Nat
  | eventKind k => some k.code
  | _ => none

def token? : Word → Option Text
  | privacy p => some p.token
  | access a => some a.token
  | eventKind _ => none
  | tag t => some t.token

end Word

end GroupWire
