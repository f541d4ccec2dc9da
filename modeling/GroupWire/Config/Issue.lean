import GroupWire.Value

/-! What is wrong with a group definition: every fault of it, each with the path to where it is. -/
namespace GroupWire.Config

inductive Model
  | metadata
  | role
  | admin
  | group
  deriving DecidableEq

inductive Step
  | field (name : Text)
  | index (i : Nat)
  deriving DecidableEq

inductive Fault
  | missing
  | notText
  | notUnicode
  | tooShort
  | notList
  | notModel (m : Model)
  | notInstance (s : Shape)
  | notWord (v : Vocabulary)
  | invalid (reason : Text)
  deriving DecidableEq

structure Issue where
  path : List Step
  fault : Fault
  deriving DecidableEq

namespace Model

def title : Model → Text
  | metadata => "GroupMetadataConfig"
  | role => "RoleConfig"
  | admin => "AdminConfig"
  | group => "GroupConfig"

end Model

namespace Fault

def kind : Fault → Text
  | missing => "missing"
  | notText => "string_type"
  | notUnicode => "string_unicode"
  | tooShort => "string_too_short"
  | notList => "list_type"
  | notModel _ => "model_type"
  | notInstance _ => "is_instance_of"
  | notWord _ => "enum"
  | invalid _ => "value_error"

def choices (v : Vocabulary) : Text :=
  Text.join " or " (v.words.filterMap fun w => w.token?.map fun t => ['\''] ++ t ++ ['\''])

def message : Fault → Text
  | missing => "Field required"
  | notText => "Input should be a valid string"
  | notUnicode => "Input should be a valid string, unable to parse raw data as a unicode string"
  | tooShort => "String should have at least 1 character"
  | notList => "Input should be a valid list"
  | notModel m => "Input should be a valid dictionary or instance of " ++ m.title
  | notInstance s => "Input should be an instance of " ++ s.name
  | notWord v => "Input should be " ++ choices v
  | invalid reason => "Value error, " ++ reason

end Fault

/-- A result, or all the faults that keep it from being one. -/
abbrev Checked (α : Type) := Except (List Issue) α

namespace Checked

def fail {α : Type} (f : Fault) : Checked α := .error [⟨[], f⟩]

def inside {α : Type} (s : Step) (c : Checked α) : Checked α :=
  c.mapError fun issues => issues.map fun i => ⟨s :: i.path, i.fault⟩

/-- Faults of the second part follow those of the first. -/
def both {α β : Type} (a : Checked α) (b : Checked β) : Checked (α × β) :=
  match a, b with
  | .ok x, .ok y => .ok (x, y)
  | .error is, .ok _ => .error is
  | .ok _, .error js => .error js
  | .error is, .error js => .error (is ++ js)

def each {α : Type} (read : Value → Checked α) : Nat → List Value → Checked (List α)
  | _, [] => .ok []
  | i, v :: vs => (both (inside (.index i) (read v)) (each read (i + 1) vs)).map fun p => p.1 :: p.2

end Checked

end GroupWire.Config
