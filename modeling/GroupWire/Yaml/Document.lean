import GroupWire.Text.Utf8
import GroupWire.Value.Compare
import GroupWire.Yaml.Base64
import GroupWire.Yaml.Node.Grammar
import GroupWire.Yaml.Number

/-! Values of documents. A tree is built level by level, so of several faults the one nearest to the
root counts, and on one level the first. -/
namespace GroupWire.Yaml.Document

/-- What is built, or the first fault and its level. -/
abbrev Built (α : Type) := Except (Nat × Fault) α

namespace Built

def andThen {α β γ : Type} (f : α → β → γ) (a : Built α) (b : Built β) : Built γ :=
  match a, b with
  | .ok x, .ok y => .ok (f x y)
  | .error e, .ok _ => .error e
  | .ok _, .error e => .error e
  | .error d, .error e => .error (if e.1 < d.1 then e else d)

def cons {α : Type} (a : Built α) (as : Built (List α)) : Built (List α) := andThen List.cons a as

def append {α : Type} (as bs : Built (List α)) : Built (List α) := andThen List.append as bs

end Built

def truths : List (Text × Bool) :=
  [("yes", true), ("no", false), ("true", true), ("false", false), ("on", true), ("off", false)]

def truth (t : Text) : Except Fault Value :=
  match truths.lookup t.lowercase with
  | some b => .ok (.bool b)
  | none => .error (.notTruth t.lowercase)

/-- A moment must be written as a scalar itself. -/
def moment (n : Node) : Except Fault Value :=
  match n with
  | .scalar _ t =>
    match Timestamp.ofText? t with
    | some s => s.value
    | none => .error .notMoment
  | _ => .error .notMomentText

def bytes (t : Text) : Except Fault Value :=
  match Base64.decode? t with
  | some bs => .ok (.bytes bs)
  | none => .error .malformed

mutual

/-- The text of a node: its own, or that of the default entry of a mapping. -/
def scalarText : Node → Except Fault Text
  | .scalar _ t => .ok t
  | .sequence _ _ => .error .malformed
  | .mapping _ es => defaultText es

def defaultText : List (Node × Node) → Except Fault Text
  | [] => .error .malformed
  | (k, v) :: es => if k.kind = .default then scalarText v else defaultText es

end

/-- The value of a node that is to be a scalar. -/
def scalarValue (n : Node) (kind : Kind) : Except Fault Value := do
  let t ← scalarText n
  match kind with
  | .null => .ok .null
  | .bool => truth t
  | .int => (Number.integer t).map .int
  | .float => (Number.float t).map .float
  | .binary => bytes t
  | .timestamp => moment n
  | .text => .ok (.text t)
  | _ => .error .malformed

def isMerge (k : Node) : Bool := k.kind = .merge

mutual

/-- A merge takes a mapping or a list of them. -/
def mergeable : Node → Bool
  | .scalar _ _ => false
  | .sequence _ ns => allMergeable ns
  | .mapping _ es => entriesMergeable es

def allMergeable : List Node → Bool
  | [] => true
  | .mapping _ es :: ns => entriesMergeable es && allMergeable ns
  | _ :: _ => false

def entriesMergeable : List (Node × Node) → Bool
  | [] => true
  | (k, v) :: es => (!isMerge k || mergeable v) && entriesMergeable es

end

/-- A collection is no key, whatever it holds. -/
def asKey (level : Nat) (kind : Kind) (r : Built Value) : Built Value :=
  if kind.isCollection then .error (level, .malformed) else r

/-- The value of a node that is no collection of its kind; a collection would have met
its items on the next level. -/
def single (level : Nat) (kind : Kind) (n : Node) : Built Value :=
  if kind.isCollection then .error (level + 1, .malformed)
  else (scalarValue n kind).mapError (level, ·)

abbrev Entries := List (Value × Value)

/-- Merged entries come first, so that those of the mapping itself win. -/
def mergedFirst (p : Built Entries × Built Entries) : Built Entries := .append p.1 p.2

def keySet (es : Entries) : Value := .set (Value.distinct (es.map Prod.fst))

/-- Merges are looked at before anything else. -/
def ifMergeable (level : Nat) (es : List (Node × Node)) (r : Built Entries) : Built Entries :=
  if entriesMergeable es then r else .error (level, .malformed)

mutual

/-- The value of a node on a level, as one of a kind. -/
def build (level : Nat) (kind : Kind) : Node → Built Value
  | .scalar k t => single level kind (.scalar k t)
  | .sequence k ns =>
    match kind with
    | .sequence => (items (level + 1) ns).map .list
    | .orderedMap => (pairs (level + 1) ns).map .list
    | .pairs => (pairs (level + 1) ns).map .list
    | _ => single level kind (.sequence k ns)
  | .mapping k es =>
    match kind with
    | .mapping =>
      (ifMergeable (level + 1) es (mergedFirst (entries (level + 1) es))).map Value.ofEntries
    | .set => (ifMergeable (level + 1) es (mergedFirst (entries (level + 1) es))).map keySet
    | _ => single level kind (.mapping k es)

def items (level : Nat) : List Node → Built (List Value)
  | [] => .ok []
  | n :: ns => .cons (build level n.kind n) (items level ns)

/-- A pair is a mapping of a single entry. -/
def pair (level : Nat) : Node → Built Value
  | .mapping _ [(k, v)] =>
    .andThen (fun x y => .tuple [x, y]) (build level k.kind k) (build level v.kind v)
  | _ => .error (level, .malformed)

def pairs (level : Nat) : List Node → Built (List Value)
  | [] => .ok []
  | n :: ns => .cons (pair level n) (pairs level ns)

/-- The entries that merges bring in, and the others. -/
def entries (level : Nat) : List (Node × Node) → Built Entries × Built Entries
  | [] => (.ok [], .ok [])
  | (k, v) :: es =>
    let (merged, own) := entries level es
    if isMerge k then (.append (source level v) merged, own)
    else
      let key := asKey level k.kind (build level (.ofKey k.kind) k)
      (merged, .cons (.andThen Prod.mk key (build level v.kind v)) own)

/-- Of several mappings the first comes last, so that it wins. -/
def source (level : Nat) : Node → Built Entries
  | .scalar _ _ => .ok []
  | .sequence _ ns => sources level ns
  | .mapping _ es => mergedFirst (entries level es)

def sources (level : Nat) : List Node → Built Entries
  | [] => .ok []
  | n :: ns => .append (sources level ns) (source level n)

end

/-- The text of a document, its breaks unified. -/
def text (bs : List UInt8) : Except Fault Text :=
  match Text.ofUtf8? bs with
  | none => .error .encoding
  | some t => if t.all isContent then .ok (unifyBreaks t) else .error .malformed

/-- The value that the bytes of a document stand for. -/
def value (bs : List UInt8) : Except Fault Value := do
  let n ← Node.ofStream (.ofText (← text bs))
  (build 0 n.kind n).mapError Prod.snd

end GroupWire.Yaml.Document
