import GroupWire.Binary64
import GroupWire.Group.Facts
import GroupWire.GroupId
import GroupWire.Value.Shape

/-! Values whose kind nothing has checked yet: what callers hand in, what a document
holds, what a log line shows. -/
namespace GroupWire

structure Date where
  year : Nat
  month : Nat
  day : Nat
  deriving DecidableEq

/-- A time of a day, with the distance of its zone from the standard one in seconds if it is
known. -/
structure Moment where
  date : Date
  hour : Nat
  minute : Nat
  second : Nat
  microsecond : Nat
  offset : Option Int
  deriving DecidableEq

inductive Record
  | url (u : Url)
  | group (g : GroupId)
  | role (r : Role)
  | roles (rs : Roles)
  | admin (a : Admin)
  | admins (as : Admins)
  | members (ms : Members)
  | metadata (m : Metadata)

/-- A record carries the text that shows it, in which a word given for a text still shows as a word.
A stream is read once, from its start. -/
inductive Value
  | null
  | bool (b : Bool)
  | int (n : Int)
  | float (x : Binary64)
  | text (t : Text)
  | bytes (bs : List UInt8)
  | list (items : List Value)
  | tuple (items : List Value)
  | stream (items : List Value)
  | set (items : List Value)
  | dict (entries : List (Value × Value))
  | date (d : Date)
  | moment (m : Moment)
  | kind (code : UInt16)
  | key (k : PublicKey)
  | event (e : EventId)
  | word (w : Word)
  | record (r : Record) (shown : Text)

def Record.shape : Record → Shape
  | url _ => .url
  | group _ => .group
  | role _ => .role
  | roles _ => .roles
  | admin _ => .admin
  | admins _ => .admins
  | members _ => .members
  | metadata _ => .metadata

namespace Value

def shape : Value → Shape
  | null => .null
  | bool _ => .bool
  | int _ => .int
  | float _ => .float
  | text _ => .text
  | bytes _ => .bytes
  | list _ => .list
  | tuple _ => .tuple
  | stream _ => .stream
  | set _ => .set
  | dict _ => .dict
  | date _ => .date
  | moment _ => .moment
  | kind _ => .kind
  | key _ => .key
  | event _ => .event
  | word w => .word w.vocabulary
  | record r _ => r.shape

/-- The text that a text or a word is. -/
def text? : Value → Option Text
  | text t => some t
  | word w => w.token?
  | _ => none

/-- The whole number that a number, a truth value or a kind is. -/
def int? : Value → Option Int
  | bool b => some (if b then 1 else 0)
  | int n => some n
  | word w => w.code?.map fun n => (n : Int)
  | _ => none

/-- The items it can be walked through, if it can. A text is walked character by character, a
dictionary by its keys, bytes by their numbers. -/
def items? : Value → Option (List Value)
  | text t => some (t.map fun c => text [c])
  | bytes bs => some (bs.map fun b => int b.toNat)
  | list items => some items
  | tuple items => some items
  | stream items => some items
  | set items => some items
  | dict entries => some (entries.map Prod.fst)
  | word w => w.token?.map fun t => t.map fun c => text [c]
  | _ => none

def key? : Value → Option PublicKey
  | key k => some k
  | _ => none

def event? : Value → Option EventId
  | event e => some e
  | _ => none

def url? : Value → Option Url
  | record (.url u) _ => some u
  | _ => none

def group? : Value → Option GroupId
  | record (.group g) _ => some g
  | _ => none

def role? : Value → Option Role
  | record (.role r) _ => some r
  | _ => none

def admin? : Value → Option Admin
  | record (.admin a) _ => some a
  | _ => none

def privacy? : Value → Option Privacy
  | word (.privacy p) => some p
  | _ => none

def access? : Value → Option Access
  | word (.access a) => some a
  | _ => none

end Value

end GroupWire
