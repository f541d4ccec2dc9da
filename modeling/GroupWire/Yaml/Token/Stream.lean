import GroupWire.Yaml.Scalar.Block
import GroupWire.Yaml.Scalar.Plain
import GroupWire.Yaml.Scalar.Quoted
import GroupWire.Yaml.Token.Property

/-! The tokens of a text. A colon makes a key of what stands before it on its line, so the place of
a possible key is remembered until it is settled whether one follows. -/
namespace GroupWire.Yaml

/-- The tokens of a document, and what is wrong with the text after them. -/
structure Stream where
  tokens : List Token
  fault : Option Fault

/-- Where a key may have begun: how many tokens stand before it, and its place. One that starts a
line of a block collection must turn out to be a key. -/
structure KeyPlace where
  number : Nat
  required : Bool
  index : Nat
  line : Nat
  column : Nat

/-- What is known in the middle of a text: the place, the tokens so far, latest first, the columns
of the open block collections, innermost first, whether a key may begin here, and where one may have
begun, at this depth of brackets and at those around it. -/
structure Scan where
  cursor : Cursor
  tokens : List Token
  columns : List Nat
  keyAllowed : Bool
  key : Option KeyPlace
  outer : List (Option KeyPlace)

namespace KeyPlace

/-- A key stands on one line and is not longer than this. -/
def longest : Nat := 1024

def reaches (k : KeyPlace) (p : Cursor) : Bool := k.line = p.line && p.index - k.index ≤ longest

end KeyPlace

namespace Scan

def start (t : Text) : Scan :=
  let p := Cursor.start t
  ⟨if atChar (· = '\uFEFF') t then p.next else p, [], [], true, none, []⟩

def inFlow (s : Scan) : Bool := !s.outer.isEmpty

/-- The least column of what belongs to the innermost block collection. -/
def margin (s : Scan) : Nat := s.columns.head?.elim 0 (· + 1)

def push (s : Scan) (t : Token) : Scan := { s with tokens := t :: s.tokens }

/-- Puts a token before the one with that number. -/
def insert (s : Scan) (number : Nat) (t : Token) : Scan :=
  let late := s.tokens.length - number
  { s with tokens := s.tokens.take late ++ t :: s.tokens.drop late }

def openBlock (s : Scan) (column : Nat) : Scan := { s with columns := column :: s.columns }

def opens (s : Scan) (column : Nat) : Bool := !s.inFlow && s.margin ≤ column

/-- Ends the innermost block collections. -/
def closeBlocks (s : Scan) (count : Nat) : Scan :=
  { s with columns := s.columns.drop count, tokens := List.replicate count .blockEnd ++ s.tokens }

/-- Ends the block collections that lie to the right of here. -/
def closeTo (s : Scan) (column : Nat) : Scan :=
  if s.inFlow then s else s.closeBlocks (s.columns.takeWhile (column < ·)).length

def closeAll (s : Scan) : Scan := if s.inFlow then s else s.closeBlocks s.columns.length

/-- What begins next is no key. -/
def noKey (s : Scan) : Scan := { s with keyAllowed := false }

def allowKey (s : Scan) (allowed : Bool) : Scan := { s with keyAllowed := allowed }

def unlessRequired (k : Option KeyPlace) : Except Fault (Option KeyPlace) :=
  if k.any (·.required) then .error .malformed else .ok none

def dropKey (s : Scan) : Except Fault Scan :=
  (unlessRequired s.key).map fun k => { s with key := k }

/-- Remembers that a key may begin here. -/
def saveKey (s : Scan) : Except Fault Scan :=
  if !s.keyAllowed then .ok s else
  let p := s.cursor
  let place : KeyPlace :=
    ⟨s.tokens.length, !s.inFlow && s.margin = p.column + 1, p.index, p.line, p.column⟩
  s.dropKey.map fun s => { s with key := some place }

def forget (p : Cursor) (k : Option KeyPlace) : Except Fault (Option KeyPlace) :=
  if k.all (·.reaches p) then .ok k else unlessRequired k

/-- Gives up the places of keys that are too far away by now. -/
def forgetKeys (s : Scan) : Except Fault Scan := do
  let outer ← s.outer.mapM (forget s.cursor)
  let key ← forget s.cursor s.key
  .ok { s with key, outer }

/-- Goes to the next thing that is no space, comment or break. -/
def advance (s : Scan) : Except Fault Scan :=
  let (crossed, p) := s.cursor.pastBlank (s.cursor.rest.length + 1)
  let s := { s with cursor := p, keyAllowed := s.keyAllowed || (crossed && !s.inFlow) }
  s.forgetKeys.map fun s => s.closeTo p.column

/-- Takes a sign of so many characters. -/
def sign (s : Scan) (length : Nat) (t : Token) : Scan :=
  { s.push t with cursor := s.cursor.skip length }

def marker (s : Scan) : Except Fault Scan := do
  let t := if atChar (· = '-') s.cursor.rest then Token.documentStart else .documentEnd
  .ok ((← s.closeAll.dropKey).noKey.sign 3 t)

def directive (s : Scan) : Except Fault Scan := do
  let s := (← s.closeAll.dropKey).noKey
  let (d, p) ← Property.directive s.cursor
  .ok { s.push (.directive d) with cursor := p }

def openFlow (s : Scan) (t : Token) : Except Fault Scan := do
  let s ← s.saveKey
  .ok ({ s with key := none, outer := s.key :: s.outer, keyAllowed := true }.sign 1 t)

def closeFlow (s : Scan) (t : Token) : Except Fault Scan := do
  let s ← s.dropKey
  match s.outer with
  | [] => .error .malformed
  | k :: ks => .ok ({ s with key := k, outer := ks, keyAllowed := false }.sign 1 t)

def comma (s : Scan) : Except Fault Scan := do .ok ((← s.dropKey).allowKey true |>.sign 1 .comma)

/-- Starts a block collection at this column unless one is open there. -/
def openHere (s : Scan) (t : Token) : Except Fault Scan :=
  if s.inFlow then .ok s
  else if !s.keyAllowed then .error .malformed
  else if s.opens s.cursor.column then .ok ((s.openBlock s.cursor.column).push t)
  else .ok s

def item (s : Scan) : Except Fault Scan := do
  let s ← (← s.openHere .blockSequenceStart).dropKey
  .ok ((s.allowKey true).sign 1 .item)

def explicitKey (s : Scan) : Except Fault Scan := do
  let s ← (← s.openHere .blockMappingStart).dropKey
  .ok ((s.allowKey !s.inFlow).sign 1 .key)

/-- A colon: what stands at the remembered place is a key after all, or the key is empty or was
marked. -/
def value (s : Scan) : Except Fault Scan :=
  match s.key with
  | some k =>
    let keyed := { s with key := none }.insert k.number .key
    let opened :=
      if keyed.opens k.column then
        (keyed.openBlock k.column).insert k.number .blockMappingStart
      else keyed
    .ok (opened.noKey.sign 1 .value)
  | none => do
    let s ← s.openHere .blockMappingStart
    .ok ((s.allowKey !s.inFlow).sign 1 .value)

/-- Takes a token that may begin a key. -/
def take (s : Scan) (read : Cursor → Except Fault (Token × Cursor)) : Except Fault Scan := do
  let s := (← s.saveKey).noKey
  let (t, p) ← read s.cursor
  .ok { s.push t with cursor := p }

def quoted (s : Scan) (style : Quoted.Style) : Except Fault Scan :=
  s.take fun p => (Quoted.read style p).map fun (t, q) => (.scalar false t, q)

def plain (s : Scan) : Except Fault Scan := do
  let s ← s.saveKey
  let (t, crossed, p) := Plain.read s.inFlow s.margin s.cursor
  .ok { s.push (.scalar true t) with cursor := p, keyAllowed := crossed }

def block (s : Scan) (fold : Bool) : Except Fault Scan := do
  let s := (← s.dropKey).allowKey true
  let (t, p) ← Block.read fold s.margin s.cursor
  .ok { s.push (.scalar false t) with cursor := p }

/-- Signs that begin no plain scalar. -/
def isIndicator (c : Char) : Bool := "-?:,[]\x7b\x7d#&*!|>'\"%@\u0060".toList.contains c

/-- Three of the signs begin a plain scalar if no gap follows. -/
def startsPlain (flow : Bool) (c : Char) (after : Text) : Bool :=
  !(isSpace c || isBreak c || isIndicator c) ||
    (!atGap after && (c = '-' || (!flow && (c = '?' || c = ':'))))

/-- Takes the next token. -/
def step (s : Scan) : Except Fault Scan :=
  match s.cursor.rest with
  | [] => .ok s
  | c :: r =>
    let atStart := s.cursor.column = 0
    if atStart && c = '%' then s.directive
    else if atStart && atMarker s.cursor.rest then s.marker
    else if c = '[' then s.openFlow .flowSequenceStart
    else if c = '\x7b' then s.openFlow .flowMappingStart
    else if c = ']' then s.closeFlow .flowSequenceEnd
    else if c = '\x7d' then s.closeFlow .flowMappingEnd
    else if c = ',' then s.comma
    else if c = '-' && atGap r then s.item
    else if c = '?' && (s.inFlow || atGap r) then s.explicitKey
    else if c = ':' && (s.inFlow || atGap r) then s.value
    else if c = '*' then s.take fun p => (Property.name p).map fun (t, q) => (.alias t, q)
    else if c = '&' then s.take fun p => (Property.name p).map fun (t, q) => (.anchor t, q)
    else if c = '!' then s.take fun p => (Property.tag p).map fun (t, q) => (.tag t, q)
    else if c = '|' && !s.inFlow then s.block false
    else if c = '>' && !s.inFlow then s.block true
    else if c = '\'' then s.quoted .single
    else if c = '"' then s.quoted .double
    else if startsPlain s.inFlow c r then s.plain
    else .error .malformed

/-- The tokens before the first place where a key may have begun: what a later one is, is not
settled. -/
def settled (s : Scan) : List Token :=
  let places := (s.key :: s.outer).filterMap fun k => k.filter (·.reaches s.cursor)
  s.tokens.reverse.take ((places.map KeyPlace.number).foldr min s.tokens.length)

def run (s : Scan) : Nat → Stream
  | 0 => ⟨s.settled, some .malformed⟩
  | n + 1 =>
    match s.advance with
    | .error f => ⟨s.settled, some f⟩
    | .ok there =>
      if there.cursor.rest.isEmpty then
        match there.closeAll.dropKey with
        | .error f => ⟨s.settled, some f⟩
        | .ok e => ⟨e.tokens.reverse, none⟩
      else
        match there.step with
        | .error f => ⟨s.settled, some f⟩
        | .ok after => run after n

end Scan

/-- Tokens up to the end of the text or its first fault. -/
def Stream.ofText (t : Text) : Stream := (Scan.start t).run (t.length + 1)

end GroupWire.Yaml
