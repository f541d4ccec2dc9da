import GroupWire.Uri.Chars

/-! Hosts: registered names, which include dotted addresses, and bracketed
literals of version 6 or later. -/
namespace GroupWire.Uri

inductive Host
  | name (text : Text)
  | six (address : Text) (zone : Option Text)
  | future (literal : Text)
  deriving DecidableEq

namespace Host

def text : Host → Text
  | name t => t
  | six a none => '[' :: a ++ [']']
  | six a (some z) => '[' :: a ++ '%' :: z ++ [']']
  | future t => '[' :: t ++ [']']

def isQuad (t : Text) : Bool :=
  let parts := t.split '.'
  parts.length == 4 && parts.all fun p => 1 ≤ p.length && p.length ≤ 3 && p.all Char.isDigit

/-- A name that looks like a dotted address must be one. -/
def quadInRange (t : Text) : Bool := !isQuad t || (t.split '.').all fun p => Text.toNat 10 p ≤ 255

def isGroup (t : Text) : Bool := 1 ≤ t.length && t.length ≤ 4 && t.all isHex

/-- How many of the eight groups colon-separated text stands for. A dotted address
may end it and counts twice. -/
def groups? (quadLast : Bool) : List Text → Option Nat
  | [] => some 0
  | [t] => if isGroup t then some 1 else if quadLast && isQuad t then some 2 else none
  | t :: r => if isGroup t then (groups? quadLast r).map (· + 1) else none

def sideGroups? (quadLast : Bool) (t : Text) : Option Nat :=
  if t.isEmpty then some 0 else groups? quadLast (t.split ':')

/-- The text before and after the first double colon. -/
def splitDouble : Text → Option (Text × Text)
  | [] => none
  | ':' :: ':' :: r => some ([], r)
  | c :: r => (splitDouble r).map fun p => (c :: p.1, p.2)

/-- Eight groups, or at most seven about a double colon. -/
def isSix (t : Text) : Bool :=
  match splitDouble t with
  | none => sideGroups? true t == some 8
  | some (l, r) =>
    match sideGroups? false l, sideGroups? true r with
    | some m, some n => m + n ≤ 7
    | _, _ => false

def isZone (t : Text) : Bool := !t.isEmpty && wellEncoded isUnreserved t

def isFuture (t : Text) : Bool :=
  match t with
  | 'v' :: r =>
    let version := r.takeWhile isHex
    !version.isEmpty && (match r.dropWhile isHex with
      | '.' :: s => !s.isEmpty && s.all isUserinfoChar
      | _ => false)
  | _ => false

/-- What stands between the brackets. -/
def readLiteral (t : Text) : Option Host :=
  let address := t.takeWhile (· ≠ '%')
  if isFuture t then some (future t)
  else if !isSix address then none
  else match t.dropWhile (· ≠ '%') with
    | [] => some (six address none)
    | _ :: zone => if isZone zone then some (six address (some zone)) else none

/-- `extra` are characters that names may hold besides those of URIs. -/
def readName (extra : Char → Bool) (t : Text) : Option Host :=
  if wellEncoded (fun c => isNameChar c || extra c) t && quadInRange t then some (name t) else none

/-- A zone is set off by an encoded percent sign: a bare one, or one with
nothing behind it, is encoded. -/
def normalZone (zone : Text) : Text :=
  match zone with
  | '2' :: '5' :: _ :: _ => zone
  | _ => '2' :: '5' :: zone

/-- Small letters, but for the zone. -/
def normalize : Host → Host
  | name t => name t.toLower
  | six a z => six a.toLower (z.map normalZone)
  | future t => future t.toLower

end Host

end GroupWire.Uri
