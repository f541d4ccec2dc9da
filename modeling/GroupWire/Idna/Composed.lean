import GroupWire.Text
import GroupWire.Unicode.Composites
import GroupWire.Unicode.Marks

/-! The composed normal form of a text of label code points: composites are taken apart, marks are
put into the order of their classes, and what can be composed is composed again. -/
namespace GroupWire.Idna
open Unicode

def combiningClass (c : Char) : Nat :=
  match combining.find? fun r => r.1 ≤ c.toNat && c.toNat ≤ r.2.1 with
  | some r => r.2.2
  | none => 0

/-- The table lists a composite before those that its base stands for, so one
pass takes all of them apart. -/
def decompose (t : Text) : Text :=
  composites.foldl (fun t p => t.flatMap fun c =>
    if c.toNat = p.1 then [Char.ofNat p.2.1, Char.ofNat p.2.2] else [c]) t

/-- Puts a mark behind those of its class or a lower one; `done` holds what
precedes it, nearest first. -/
def putMark (c : Char) : Text → Text
  | [] => [c]
  | d :: done =>
    if combiningClass c ≠ 0 && combiningClass c < combiningClass d then d :: putMark c done
    else c :: d :: done

def orderMarks (t : Text) : Text := (t.foldl (fun done c => putMark c done) []).reverse

def composite? (base mark : Char) : Option Char :=
  (composites.find? fun p => p.2.1 = base.toNat && p.2.2 = mark.toNat).map (Char.ofNat ·.1)

/-- `marks` are those that stand behind the base uncomposed, nearest first. -/
def composeAfter (base : Char) (marks : Text) : Text → Text
  | [] => base :: marks.reverse
  | c :: r =>
    let blocked := match marks with
      | [] => false
      | m :: _ => combiningClass c ≤ combiningClass m
    match if blocked then none else composite? base c with
    | some d => composeAfter d marks r
    | none =>
      if combiningClass c = 0 then base :: marks.reverse ++ composeAfter c [] r
      else composeAfter base (c :: marks) r

def compose : Text → Text
  | [] => []
  | c :: r => composeAfter c [] r

def isComposed (t : Text) : Bool := compose (orderMarks (decompose t)) == t

end GroupWire.Idna
