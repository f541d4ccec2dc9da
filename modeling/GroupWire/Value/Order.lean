import GroupWire.Error
import GroupWire.Value.Compare
import GroupWire.Value.Shown

/-! Comparing and sorting values, where they have an order, and finding a word
by the value it stands for. -/
namespace GroupWire

inductive Comparison
  | lt
  | le
  | gt
  | ge
  deriving DecidableEq

namespace Comparison

def symbol : Comparison → Text
  | lt => "<"
  | le => "<="
  | gt => ">"
  | ge => ">="

def admitsEqual : Comparison → Bool
  | le => true
  | ge => true
  | _ => false

/-- Whether it asks for the smaller one on the left. -/
def isUpward : Comparison → Bool
  | lt => true
  | le => true
  | _ => false

end Comparison

namespace Value

/-- Values that have an order of their own. -/
def compareSingle (c : Comparison) (v w : Value) : Except Error Bool :=
  match c, v.less? w, w.less? v with
  | .lt, some b, _ => .ok b
  | .gt, _, some b => .ok b
  | .le, some b, _ => .ok (b || v.same w)
  | .ge, _, some b => .ok (b || v.same w)
  | _, _, _ => .error (.unordered c.symbol v.shape w.shape)

mutual

def compare (c : Comparison) (v w : Value) : Except Error Bool :=
  match v, w with
  | tuple vs, tuple ws => compareItems c vs ws
  | v, w => compareSingle c v w

/-- The first items that differ decide, or the lengths if none do. -/
def compareItems (c : Comparison) : List Value → List Value → Except Error Bool
  | [], [] => .ok c.admitsEqual
  | [], _ :: _ => .ok c.isUpward
  | _ :: _, [] => .ok (!c.isUpward)
  | v :: vs, w :: ws => if v.same w then compareItems c vs ws else compare c v w

end

/-- How many differ from all before them; what can change cannot be counted so. -/
def countDistinct (items : List Value) : Except Error Nat :=
  match firstChangeable? items with
  | some s => .error (.changeable s)
  | none => .ok (distinct items).length

/-- The first item decides what the others are compared as. -/
def sort : List Value → Except Error (List Value)
  | [] => .ok []
  | first :: rest =>
    match rest.find? fun v => (v.less? first).isNone with
    | some v => .error (.unordered Comparison.lt.symbol v.shape first.shape)
    | none => .ok ((first :: rest).mergeSort fun v w => w.less? v ≠ some true)

/-- The members of a set in order, or in that of the texts that show them if they have none. -/
def members (items : List Value) : List Value :=
  match sort items with
  | .ok sorted => sorted
  | .error _ => items.mergeSort fun v w => !decide (w.literal < v.literal)

end Value

def Vocabulary.find (voc : Vocabulary) (v : Value) : Except Error Word :=
  match voc.words.find? fun w => (Value.word w).same v with
  | some w => .ok w
  | none => .error (.notWord v.literal voc)

end GroupWire
