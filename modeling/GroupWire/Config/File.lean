import GroupWire.Error.Family
import GroupWire.Value.Falsy
import GroupWire.Value.Shape
import GroupWire.Yaml.Document

/-! Files of group definitions. A file is known by the name it was asked for; what counts as nothing
given is read as a definition without fields. -/
namespace GroupWire

inductive FileError
  | missing (file : Text)
  | notMapping (file : Text) (got : Shape)
  | document (fault : Yaml.Fault)

def FileError.message : FileError → Text
  | missing file => "Config file not found: " ++ file
  | notMapping file got =>
    Family.configuration.message
      ("Config file " ++ file ++ " must contain a mapping, got " ++ got.name)
  | document fault => fault.message

structure ConfigFile where
  name : Text
  content : Option (List UInt8)

namespace ConfigFile

/-- A path without its empty parts and those that stay in place. -/
def plainPath (t : Text) : Text :=
  let root : Text := if "///".toList.isPrefixOf t then "/" else (t.takeWhile (· = '/')).take 2
  let parts := (t.split '/').filter fun p => !p.isEmpty && p ≠ ['.']
  if root.isEmpty && parts.isEmpty then "." else root ++ Text.join "/" parts

def ofPath (path : Text) (content : Option (List UInt8)) : ConfigFile := ⟨plainPath path, content⟩

/-- The entries that a document stands for. -/
def entriesOf (file : Text) (v : Value) : Except FileError Yaml.Document.Entries :=
  if v.isFalsy then .ok [] else
  match v with
  | .dict es => .ok es
  | _ => .error (.notMapping file v.shape)

def load (f : ConfigFile) : Except FileError Yaml.Document.Entries :=
  match f.content with
  | none => .error (.missing f.name)
  | some bs => (Yaml.Document.value bs).mapError .document >>= entriesOf f.name

end ConfigFile

end GroupWire
