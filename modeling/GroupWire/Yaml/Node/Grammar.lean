import GroupWire.Yaml.Fault
import GroupWire.Yaml.Kind.Implicit
import GroupWire.Yaml.Node
import GroupWire.Yaml.Token.Stream

/-! The one document of a stream of tokens. Names are known from the node that bears them on; inside
that node they stand for an empty one of its kind. -/
namespace GroupWire.Yaml.Grammar

/-- What is left of the stream, the names given so far and the meanings of handles. -/
structure State where
  stream : Stream
  names : List (Text × Node)
  handles : List (Text × Text)

abbrev Reading := StateT State (Except Fault)

/-- What may stand before a node. -/
structure Properties where
  name : Option Text
  tag : Option Text

/-- The next token; none at the end of the document. -/
def peek : Reading (Option Token) := do
  let s ← get
  match s.stream.tokens, s.stream.fault with
  | t :: _, _ => pure (some t)
  | [], some f => throw f
  | [], none => pure none

def skip : Reading Unit := modify fun s => { s with stream.tokens := s.stream.tokens.drop 1 }

def refuse {α : Type} : Reading α := throw .malformed

/-- Takes the next token if it is that one. -/
def accept (t : Token) : Reading Bool := do
  if (← peek) = some t then
    skip
    pure true
  else pure false

def expect (t : Token) : Reading Unit := do
  if ← accept t then pure () else refuse

/-- The node is absent if one of these tokens comes next. -/
def unlessAt (stops : List Token) (read : Reading Node) : Reading Node := do
  if (← peek).any stops.contains then pure .absent else read

def known (name : Text) : Reading Node := do
  match (← get).names.lookup name with
  | some n => pure n
  | none => refuse

/-- A name is given once. -/
def checkNew (name : Option Text) : Reading Unit := do
  let names := (← get).names
  if name.any fun a => (names.lookup a).isSome then refuse else pure ()

def give (name : Option Text) (n : Node) : Reading Unit :=
  match name with
  | none => pure ()
  | some a => modify fun s => { s with names := (a, n) :: s.names }

def expand (t : TagText) : Reading Text :=
  match t.handle with
  | none => pure t.suffix
  | some h => do
    match (← get).handles.lookup h with
    | some meaning => pure (meaning ++ t.suffix)
    | none => refuse

def readName : Reading (Option Text) := do
  match ← peek with
  | some (.anchor a) =>
    skip
    pure (some a)
  | _ => pure none

def readTag : Reading (Option TagText) := do
  match ← peek with
  | some (.tag t) =>
    skip
    pure (some t)
  | _ => pure none

/-- A name and a tag in either order. -/
def properties : Reading Properties := do
  let first ← readTag
  let name ← readName
  let tag ← if first.isSome || name.isNone then pure first else readTag
  match tag with
  | none => pure ⟨name, none⟩
  | some t => pure ⟨name, some (← expand t)⟩

namespace Properties

/-- A lone mark is no tag. -/
def plainTag? (p : Properties) : Option Text := p.tag.filter (· ≠ ['!'])

def kind (p : Properties) (usual : Kind) : Kind := p.plainTag?.elim usual Kind.ofTag

/-- The form of a scalar tells its kind if it is plain and has no tag, or if its tag is a lone
mark. -/
def scalarKind (p : Properties) (plain : Bool) (t : Text) : Kind :=
  p.kind (if plain || p.tag.isSome then Implicit.kind t else .text)

end Properties

def scalar (p : Properties) (plain : Bool) (t : Text) : Reading Node := do
  checkNew p.name
  let n := Node.scalar (p.scalarKind plain t) t
  give p.name n
  pure n

/-- A node without content, which must have properties then. -/
def bare (p : Properties) : Reading Node :=
  if p.name.isNone && p.tag.isNone then refuse else scalar p true []

def sequence (p : Properties) (items : Reading (List Node)) : Reading Node := do
  checkNew p.name
  let k := p.kind .sequence
  give p.name (.sequence k [])
  let n := Node.sequence k (← items)
  give p.name n
  pure n

def mapping (p : Properties) (entries : Reading (List (Node × Node))) : Reading Node := do
  checkNew p.name
  let k := p.kind .mapping
  give p.name (.mapping k [])
  let n := Node.mapping k (← entries)
  give p.name n
  pure n

/-- The value after a key, absent if no colon comes. -/
def valuePart (stops : List Token) (read : Reading Node) : Reading Node := do
  if ← accept .value then unlessAt stops read else pure .absent

/-- Where a node may stand: a block collection not inside brackets; a sequence whose items stand in
the column of their key only after that key. -/
inductive Place
  | flow
  | block
  | entry
  deriving DecidableEq

def blockStops : List Token := [.key, .value, .blockEnd]

def flowItemStops : List Token := [.comma, .flowSequenceEnd]

def flowFieldStops : List Token := [.comma, .flowMappingEnd]

/-- Items are divided by commas; one may follow the last. -/
def divide (first : Bool) : Reading Unit := if first then pure () else expect .comma

mutual

def node (place : Place) : Nat → Reading Node
  | 0 => refuse
  | n + 1 => do
    match ← peek with
    | some (.alias a) =>
      skip
      known a
    | _ => content place (← properties) n

def content (place : Place) (p : Properties) : Nat → Reading Node
  | 0 => refuse
  | n + 1 => do
    match ← peek with
    | some (.scalar plain t) =>
      skip
      scalar p plain t
    | some .flowSequenceStart =>
      skip
      sequence p (flowItems true n)
    | some .flowMappingStart =>
      skip
      mapping p (flowFields true n)
    | some .item => if place = .entry then sequence p (alignedItems n) else bare p
    | some .blockSequenceStart =>
      if place = .flow then bare p else
      skip
      sequence p (blockItems n)
    | some .blockMappingStart =>
      if place = .flow then bare p else
      skip
      mapping p (blockEntries n)
    | _ => bare p

def blockItems : Nat → Reading (List Node)
  | 0 => refuse
  | n + 1 => do
    if ← accept .item then
      let x ← unlessAt [.item, .blockEnd] (node .block n)
      let xs ← blockItems n
      pure (x :: xs)
    else
      expect .blockEnd
      pure []

/-- Items in the column of their key; what ends the entry of the key ends them. -/
def alignedItems : Nat → Reading (List Node)
  | 0 => refuse
  | n + 1 => do
    if ← accept .item then
      let x ← unlessAt (.item :: blockStops) (node .block n)
      let xs ← alignedItems n
      pure (x :: xs)
    else pure []

def blockEntries : Nat → Reading (List (Node × Node))
  | 0 => refuse
  | n + 1 => do
    if ← accept .key then
      let k ← unlessAt blockStops (node .entry n)
      let v ← valuePart blockStops (node .entry n)
      let es ← blockEntries n
      pure ((k, v) :: es)
    else
      expect .blockEnd
      pure []

/-- An item may be a mapping of a single entry without braces. -/
def flowItem : Nat → Reading Node
  | 0 => refuse
  | n + 1 => do
    if ← accept .key then
      let k ← unlessAt (.value :: flowItemStops) (node .flow n)
      let v ← valuePart flowItemStops (node .flow n)
      pure (.mapping .mapping [(k, v)])
    else node .flow n

def flowItems (first : Bool) : Nat → Reading (List Node)
  | 0 => refuse
  | n + 1 => do
    if ← accept .flowSequenceEnd then pure [] else
    divide first
    if ← accept .flowSequenceEnd then pure [] else
    let x ← flowItem n
    let xs ← flowItems false n
    pure (x :: xs)

/-- A node without a colon is a key without a value. -/
def flowField : Nat → Reading (Node × Node)
  | 0 => refuse
  | n + 1 => do
    if ← accept .key then
      let k ← unlessAt (.value :: flowFieldStops) (node .flow n)
      let v ← valuePart flowFieldStops (node .flow n)
      pure (k, v)
    else pure (← node .flow n, .absent)

def flowFields (first : Bool) : Nat → Reading (List (Node × Node))
  | 0 => refuse
  | n + 1 => do
    if ← accept .flowMappingEnd then pure [] else
    divide first
    if ← accept .flowMappingEnd then pure [] else
    let e ← flowField n
    let es ← flowFields false n
    pure (e :: es)

end

/-- Handles that every document knows. -/
def usualHandles : List (Text × Text) := [("!", "!"), ("!!", Kind.domain)]

/-- Directives before a document: one version at most, and each handle once. -/
def directives (version : Bool) : Nat → Reading Unit
  | 0 => refuse
  | n + 1 => do
    match ← peek with
    | some (.directive d) =>
      skip
      match d with
      | .version major => if version || major ≠ 1 then refuse else directives true n
      | .handle h meaning =>
        if ((← get).handles.lookup h).isSome then refuse else
        modify fun s => { s with handles := (h, meaning) :: s.handles }
        directives version n
      | .other => directives version n
    | _ => modify fun s => { s with handles := s.handles ++ usualHandles }

def isBoundary : Token → Bool
  | .directive _ => true
  | .documentStart => true
  | .documentEnd => true
  | _ => false

/-- After its mark a document may be empty. -/
def markedDocument (fuel : Nat) : Reading Node := do
  directives false fuel
  expect .documentStart
  if (← peek).all isBoundary then pure .absent else node .block fuel

def skipEnds : Nat → Reading Unit
  | 0 => refuse
  | n + 1 => do if ← accept .documentEnd then skipEnds n else pure ()

/-- Nothing may follow the document but marks of its end. -/
def finish (fuel : Nat) : Reading Unit := do
  skipEnds fuel
  if (← peek).isSome then refuse else pure ()

def document (fuel : Nat) : Reading Node := do
  match ← peek with
  | none => pure .absent
  | some t =>
    let n ← if isBoundary t && t ≠ .documentEnd then markedDocument fuel else
      modify fun s => { s with handles := usualHandles }
      node .block fuel
    finish fuel
    pure n

end Grammar

/-- No token needs more than four steps. -/
def Node.ofStream (s : Stream) : Except Fault Node :=
  (Grammar.document (4 * s.tokens.length + 8)).run' ⟨s, [], []⟩

end GroupWire.Yaml
