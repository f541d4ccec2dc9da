import GroupWire.Error
import GroupWire.Value.Shown

/-! Messages with places for arguments: one for its plain text, one for a whole number, and a
doubled sign for the sign itself. Without arguments a message stands as it is. -/
namespace GroupWire.Log

/-- The whole part of a number of the 64-bit format. -/
def wholePart (x : Binary64) : Except Error Int :=
  match x with
  | .nan => .error .nanWhole
  | .infinite _ => .error .infiniteWhole
  | .finite s m e => let (n, d) := Binary64.quotient m e; .ok (Binary64.signed s (n / d))

def wholeText (v : Value) : Except Error Text :=
  match v with
  | .float x => (wholePart x).map Text.ofInt
  | v =>
    match v.int? with
    | some n => .ok (Text.ofInt n)
    | none => .error (.notNumber v.shape)

/-- A single dictionary may serve as a table of names, so it need not be used up. -/
def fillPlaces (used : Bool) : Text → List Value → Except Error Text
  | '%' :: '%' :: r, args => (fillPlaces used r args).map ('%' :: ·)
  | '%' :: 's' :: r, v :: args => (fillPlaces used r args).map (v.plain ++ ·)
  | '%' :: 's' :: _, [] => .error .tooFewArguments
  | '%' :: 'd' :: r, v :: args => do
    let t ← wholeText v
    (fillPlaces used r args).map (t ++ ·)
  | '%' :: 'd' :: _, [] => .error .tooFewArguments
  | c :: r, args => (fillPlaces used r args).map (c :: ·)
  | [], args => if args.isEmpty || used then .ok [] else .error .tooManyArguments

def isTable : List Value → Bool
  | [.dict (_ :: _)] => true
  | _ => false

def message (template : Text) (args : List Value) : Except Error Text :=
  if args.isEmpty then .ok template else fillPlaces (isTable args) template args

end GroupWire.Log
