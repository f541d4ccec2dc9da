import Mathlib
import GroupWire.Config.File
import GroupWire.Proofs.Outcome

/-! # What a file is read as

A document stands for a value of one of eleven shapes. A file is read as the entries of a mapping,
or as no entries if there is nothing in it, and any other value is refused; but zeros, falsehood and
what is empty are read as no entries too. -/

namespace GroupWire

namespace Yaml.Document

open Outcome

/-! ## Values of documents -/

/-- The shapes of what documents stand for. -/
def shapes : List Shape :=
  [.null, .bool, .int, .float, .text, .bytes, .list, .set, .dict, .date, .moment]

section Values

variable {level : Nat} {kind : Kind} {n : Node} {v : Value}

private theorem shape_of_map {ε α : Type} {x : Except ε α} {f : α → Value} (h : x.map f = .ok v)
    (known : ∀ a, (f a).shape ∈ shapes) : v.shape ∈ shapes := by
  obtain ⟨a, -, rfl⟩ := map_eq_ok_iff.mp h
  exact known a

private theorem shape_of_truth {t : Text} (h : truth t = .ok v) : v.shape ∈ shapes := by
  unfold truth at h
  split at h
  · rw [← Except.ok.inj h]
    exact (by decide : Shape.bool ∈ shapes)
  · cases h

private theorem shape_of_bytes {t : Text} (h : bytes t = .ok v) : v.shape ∈ shapes := by
  unfold bytes at h
  split at h
  · rw [← Except.ok.inj h]
    exact (by decide : Shape.bytes ∈ shapes)
  · cases h

private theorem shape_of_timestamp {s : Timestamp} (h : s.value = .ok v) : v.shape ∈ shapes := by
  unfold Timestamp.value at h
  split at h
  · exact shape_of_map h fun _ => (by decide : Shape.date ∈ shapes)
  · obtain ⟨-, -, h⟩ := bind_eq_ok_iff.mp h
    obtain ⟨d, -, h⟩ := bind_eq_ok_iff.mp h
    split_ifs at h
    rw [← Except.ok.inj h]
    exact (by decide : Shape.moment ∈ shapes)

private theorem shape_of_moment (h : moment n = .ok v) : v.shape ∈ shapes := by
  unfold moment at h
  split at h
  · split at h
    · exact shape_of_timestamp h
    · cases h
  · cases h

theorem shape_of_scalarValue (h : scalarValue n kind = .ok v) : v.shape ∈ shapes := by
  obtain ⟨t, -, h⟩ := bind_eq_ok_iff.mp h
  cases kind with
  | null =>
    rw [← Except.ok.inj h]
    decide
  | bool => exact shape_of_truth h
  | int => exact shape_of_map h fun _ => (by decide : Shape.int ∈ shapes)
  | float => exact shape_of_map h fun _ => (by decide : Shape.float ∈ shapes)
  | binary => exact shape_of_bytes h
  | timestamp => exact shape_of_moment h
  | text =>
    rw [← Except.ok.inj h]
    exact (by decide : Shape.text ∈ shapes)
  | _ => cases h

private theorem shape_of_single (h : single level kind n = .ok v) : v.shape ∈ shapes := by
  unfold single at h
  split at h
  · cases h
  · exact shape_of_scalarValue (mapError_eq_ok_iff.mp h)

/-- A collection of its kind is a list, a dictionary or a set, and any other node is a scalar. -/
theorem shape_of_build (h : build level kind n = .ok v) : v.shape ∈ shapes := by
  have list (items : List Value) : (Value.list items).shape ∈ shapes :=
    (by decide : Shape.list ∈ shapes)
  cases n with
  | scalar k t =>
    unfold build at h
    exact shape_of_single h
  | sequence k ns =>
    unfold build at h
    -- sequences, ordered mappings and pairs are all lists
    split at h
    · exact shape_of_map h list
    · exact shape_of_map h list
    · exact shape_of_map h list
    · exact shape_of_single h
  | mapping k es =>
    unfold build at h
    split at h
    · exact shape_of_map h fun _ => (by decide : Shape.dict ∈ shapes)
    · exact shape_of_map h fun _ => (by decide : Shape.set ∈ shapes)
    · exact shape_of_single h

theorem shape_of_value {bs : List UInt8} (h : value bs = .ok v) : v.shape ∈ shapes := by
  obtain ⟨t, -, h⟩ := bind_eq_ok_iff.mp h
  obtain ⟨n, -, h⟩ := bind_eq_ok_iff.mp h
  exact shape_of_build (mapError_eq_ok_iff.mp h)

end Values

end Yaml.Document

/-! ## Files -/

/-- What is neither a mapping nor nothing, but counts as nothing given. -/
inductive Value.IsHollow : Value → Prop
  | falsehood : IsHollow (.bool false)
  | zero : IsHollow (.int 0)
  | floatZero (negative : Bool) (exponent : Int) : IsHollow (.float (.finite negative 0 exponent))
  | text : IsHollow (.text [])
  | bytes : IsHollow (.bytes [])
  | list : IsHollow (.list [])
  | set : IsHollow (.set [])

namespace ConfigFile

open Yaml

/-- What a file is to be read as that has a document of some value. -/
inductive Promised (file : Text) : Value → Except FileError Document.Entries → Prop
  | mapping (es : Document.Entries) : Promised file (.dict es) (.ok es)
  | nothing : Promised file .null (.ok [])
  | other {v : Value} (something : v ≠ .null) (noMapping : ∀ es, v ≠ .dict es) :
      Promised file v (.error (.notMapping file v.shape))

/-- A file of ASCII characters. -/
def ofAscii (name text : Text) : ConfigFile := ⟨name, some (text.map fun c => UInt8.ofNat c.toNat)⟩

section Load

variable {file : Text} {v : Value} {f : ConfigFile} {bs : List UInt8}

/-- Of the values of documents these and no others count as nothing given. -/
theorem isFalsy_iff (known : v.shape ∈ Document.shapes) :
    v.isFalsy = true ↔ v = .null ∨ v = .dict [] ∨ v.IsHollow := by
  constructor
  · intro falsy
    cases v with
    | null => exact .inl rfl
    | dict es =>
      rw [List.isEmpty_iff.mp falsy]
      exact .inr (.inl rfl)
    | bool b =>
      cases b with
      | false => exact .inr (.inr .falsehood)
      | true => cases falsy
    | int n =>
      rw [of_decide_eq_true falsy]
      exact .inr (.inr .zero)
    | float x =>
      cases x with
      | finite negative m exponent =>
        rw [of_decide_eq_true falsy]
        exact .inr (.inr (.floatZero negative exponent))
      | nan => cases falsy
      | infinite negative => cases falsy
    | text t =>
      rw [List.isEmpty_iff.mp falsy]
      exact .inr (.inr .text)
    | bytes bs =>
      rw [List.isEmpty_iff.mp falsy]
      exact .inr (.inr .bytes)
    | list items =>
      rw [List.isEmpty_iff.mp falsy]
      exact .inr (.inr .list)
    | set items =>
      rw [List.isEmpty_iff.mp falsy]
      exact .inr (.inr .set)
    | date d => cases falsy
    | moment m => cases falsy
    | record r shown => cases r <;> simp [Value.shape, Record.shape, Document.shapes] at known
    | _ => simp [Value.shape, Document.shapes] at known
  · rintro (rfl | rfl | hollow)
    · rfl
    · rfl
    · cases hollow <;> rfl

theorem load_eq (present : f.content = some bs) (read : Document.value bs = .ok v) :
    f.load = entriesOf f.name v := by
  rw [load, present]
  simp only [read]
  rfl

theorem entriesOf_of_isHollow (hollow : v.IsHollow) : entriesOf file v = .ok [] := by
  cases hollow <;> rfl

/-- Hollow values are the only ones that are read otherwise than promised. -/
theorem promised_entriesOf_iff (known : v.shape ∈ Document.shapes) :
    Promised file v (entriesOf file v) ↔ ¬ v.IsHollow := by
  constructor
  · intro promised hollow
    rw [entriesOf_of_isHollow hollow] at promised
    cases hollow <;> cases promised
  · intro solid
    unfold entriesOf
    by_cases falsy : v.isFalsy = true
    · rw [if_pos falsy]
      rcases (isFalsy_iff known).mp falsy with rfl | rfl | hollow
      · exact .nothing
      · exact .mapping []
      · exact absurd hollow solid
    · rw [if_neg falsy]
      split
      · exact .mapping _
      · rename_i noMapping
        refine .other ?_ noMapping
        rintro rfl
        exact falsy rfl

/-- A file with a document of some value is read as it is to be read exactly if the value is not
hollow: neither falsehood nor zero, and no empty text, bytes, list or set. With a hollow value it is
read as if nothing were in it. -/
theorem promised_load_iff (present : f.content = some bs) (read : Document.value bs = .ok v) :
    v.shape ∈ Document.shapes ∧ (Promised f.name v f.load ↔ ¬ v.IsHollow) ∧
      (v.IsHollow → f.load = .ok []) := by
  have known := Document.shape_of_value read
  rw [load_eq present read]
  exact ⟨known, promised_entriesOf_iff known, entriesOf_of_isHollow⟩

/-- A comment is nothing, a list of one empty list is refused, and a mapping is read
whose one key has no value. -/
theorem promised_load_of_near_nothing :
    let f : ConfigFile := .ofAscii "group.yaml" "#\n"
    let g : ConfigFile := .ofAscii "group.yaml" "[[]]"
    let h : ConfigFile := .ofAscii "group.yaml" "\x7b'i'\x7d"
    (f.content = some [35, 10] ∧ Document.value [35, 10] = .ok .null ∧
      Promised "group.yaml" .null f.load) ∧
      (g.content = some [91, 91, 93, 93] ∧
        Document.value [91, 91, 93, 93] = .ok (.list [.list []]) ∧
        Promised "group.yaml" (.list [.list []]) g.load) ∧
      h.content = some [123, 39, 105, 39, 125] ∧
        Document.value [123, 39, 105, 39, 125] = .ok (.dict [(.text "i", .null)]) ∧
        Promised "group.yaml" (.dict [(.text "i", .null)]) h.load := by
  intro f g h
  have comment : f.content = some [35, 10] := by decide
  have list : g.content = some [91, 91, 93, 93] := by decide
  have mapping : h.content = some [123, 39, 105, 39, 125] := by decide
  have null : Document.value [35, 10] = .ok .null := by rfl
  have items : Document.value [91, 91, 93, 93] = .ok (.list [.list []]) := by rfl
  have entries : Document.value [123, 39, 105, 39, 125] = .ok (.dict [(.text "i", .null)]) := by rfl
  refine ⟨⟨comment, null, (promised_load_iff comment null).2.1.mpr ?_⟩,
    ⟨list, items, (promised_load_iff list items).2.1.mpr ?_⟩,
    mapping, entries, (promised_load_iff mapping entries).2.1.mpr ?_⟩
  · rintro ⟨⟩
  · rintro ⟨⟩
  · rintro ⟨⟩

/-- A zero and an empty list are read as if nothing were in the file, though neither is a
mapping. -/
theorem hollow_read_as_nothing :
    let f : ConfigFile := .ofAscii "group.yaml" "0\n"
    let g : ConfigFile := .ofAscii "group.yaml" "[]\n"
    (f.content = some [48, 10] ∧ Document.value [48, 10] = .ok (.int 0) ∧
        f.load = .ok [] ∧ ¬ Promised "group.yaml" (.int 0) f.load) ∧
      g.content = some [91, 93, 10] ∧ Document.value [91, 93, 10] = .ok (.list []) ∧
        g.load = .ok [] ∧ ¬ Promised "group.yaml" (.list []) g.load := by
  intro f g
  have present : f.content = some [48, 10] := by decide
  have present' : g.content = some [91, 93, 10] := by decide
  have read : Document.value [48, 10] = .ok (.int 0) := by rfl
  have read' : Document.value [91, 93, 10] = .ok (.list []) := by rfl
  have load : f.load = .ok [] := (load_eq present read).trans (entriesOf_of_isHollow .zero)
  have load' : g.load = .ok [] := (load_eq present' read').trans (entriesOf_of_isHollow .list)
  refine ⟨⟨present, read, load, ?_⟩, present', read', load', ?_⟩
  · rw [load]
    rintro ⟨⟩
  · rw [load']
    rintro ⟨⟩

end Load

end ConfigFile

end GroupWire
