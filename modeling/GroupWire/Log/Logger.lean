import GroupWire.Log.Json
import GroupWire.Log.Line
import GroupWire.Value.Compare

/-! Loggers that take fields with a message, and write them as pairs or as one JSON object. -/
namespace GroupWire.Log

inductive Method
  | debug
  | info
  | warning
  | error
  | exception
  deriving DecidableEq

namespace Method

def all : List Method := [debug, info, warning, error, exception]

def name : Method → Text
  | debug => "debug"
  | info => "info"
  | warning => "warning"
  | error => "error"
  | exception => "exception"

def ofName? (t : Text) : Option Method := all.find? (·.name = t)

/-- An exception is an error that also shows where it came from. -/
def level : Method → Text
  | exception => error.name
  | m => m.name

def showsOrigin (m : Method) : Bool := m = exception

end Method

structure Logger where
  name : Text
  json : Bool
  bound : Int

structure Emitted where
  method : Method
  message : Text
  line : Text

namespace Logger

/-- The logger without a name is the root of all. -/
def make (name : Text) (json : Bool) (bound : Option Int) : Logger :=
  ⟨if name.isEmpty then "root" else name, json, bound.getD defaultBound⟩

/-- A repeated field keeps its first place and takes the last value. -/
def setField (fields : List (Text × Value)) (key : Text) (v : Value) : List (Text × Value) :=
  if fields.any (·.1 = key) then fields.map fun f => if f.1 = key then (key, v) else f
  else fields ++ [(key, v)]

def setFields (fields more : List (Text × Value)) : List (Text × Value) :=
  more.foldl (fun fs f => setField fs f.1 f.2) fields

def jsonText (l : Logger) (time : Moment) (level message : Text) (fields : List (Text × Value)) :
    Except Error Text := do
  let own : List (Text × Value) :=
    [("timestamp", .text time.text), ("level", .text level), ("service", .text l.name),
      ("message", .text message)]
  let members ← (setFields own fields).mapM fun f => do
    let t ← Json.value f.2
    .ok (f.1, t)
  .ok (Json.object members)

/-- Values are cut once for the logger, and once more when the line is written. -/
def line (l : Logger) (m : Method) (message : Text) (fields : List (Text × Text)) : Line :=
  ⟨m.level, l.name, message, fields.map fun f => (f.1, cut (some l.bound) f.2)⟩

/-- Names that the call itself uses. -/
def ownArguments : List Text := ["self", "msg"]

def emit (l : Logger) (time : Moment) (m : Method) (message : Text) (fields : List (Text × Value)) :
    Except Error Emitted :=
  match fields.find? fun f => ownArguments.contains f.1 with
  | some f => .error (.repeatedArgument ("Logger." ++ m.name) f.1)
  | none =>
    if l.json then do
      let t ← l.jsonText time m.level message fields
      .ok ⟨m, t, Line.text ⟨m.level, l.name, t, []⟩⟩
    else .ok ⟨m, message, (l.line m message (fields.map fun f => (f.1, f.2.plain))).text⟩

end Logger

end GroupWire.Log
