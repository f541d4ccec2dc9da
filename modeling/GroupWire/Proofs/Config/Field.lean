import Mathlib
import GroupWire.Config.Field
import GroupWire.Proofs.Outcome

/-! # Fields read from plain data

A reader is described by what it makes of the plain data it is meant for: texts, nulls and lists.
Reading succeeds exactly if the data mean something, and the result is what they mean. -/

namespace GroupWire.Config
open Checked Outcome

variable {α β ω : Type}

theorem Checked.inside_eq_ok_iff {s : Step} {c : Checked α} {x : α} :
    inside s c = .ok x ↔ c = .ok x := by
  cases c <;> simp [inside, Except.mapError]

/-- Both parts count, also when each has faults of its own. -/
theorem Checked.both_eq_ok_iff {a : Checked α} {b : Checked β} {p : α × β} :
    both a b = .ok p ↔ a = .ok p.1 ∧ b = .ok p.2 := by
  cases a <;> cases b <;> simp [both, Prod.ext_iff]

theorem Checked.each_eq_ok_iff {read : Value → Checked α} {i : Nat} {vs : List Value}
    {xs : List α} : each read i vs = .ok xs ↔ List.Forall₂ (fun v x => read v = .ok x) vs xs := by
  induction vs generalizing i xs with
  | nil => simp [each, eq_comm]
  | cons v vs ih =>
    simp only [each, map_eq_ok_iff, both_eq_ok_iff, inside_eq_ok_iff, ih,
      List.forall₂_cons_left_iff]
    constructor
    · rintro ⟨⟨x, xs⟩, ⟨first, rest⟩, rfl⟩
      exact ⟨x, xs, first, rest, rfl⟩
    · rintro ⟨x, xs, first, rest, rfl⟩
      exact ⟨(x, xs), ⟨first, rest⟩, rfl⟩

theorem ofText_eq_ok_iff {ε : Type} {say : ε → Text} {c : Except ε α} {x : α} :
    ofText say c = .ok x ↔ c = .ok x := by
  cases c <;> simp [ofText, fail]

theorem getD_fail_eq_ok_iff {f : Fault} {o : Option α} {x : α} :
    (o.map .ok).getD (fail f) = .ok x ↔ o = some x := by
  cases o <;> simp [fail]

/-! ## Plain data -/

inductive IsText : Value → Text → Prop
  | text (t : Text) : IsText (.text t) t

inductive IsTextOrNull : Value → Option Text → Prop
  | null : IsTextOrNull .null none
  | text (t : Text) : IsTextOrNull (.text t) (some t)

inductive IsList (Is : Value → ω → Prop) : Value → List ω → Prop
  | list {vs : List Value} {ws : List ω} (items : List.Forall₂ Is vs ws) : IsList Is (.list vs) ws

inductive IsDict (Is : List (Value × Value) → ω → Prop) : Value → ω → Prop
  | dict {es : List (Value × Value)} {w : ω} (entries : Is es w) : IsDict Is (.dict es) w

/-- What stands under a key, if the key is there. -/
def HasKey (es : List (Value × Value)) (key : Text) (Is : Value → ω → Prop) (o : Option ω) : Prop :=
  Option.Rel Is (Value.find? es (.text key)) o

section
variable {es : List (Value × Value)} {key other : Text} {Is : Value → ω → Prop} {v : Value}
  {o : Option ω}

private theorem same_text (s t : Text) : (Value.text s).same (.text t) = decide (s = t) := by
  rw [Value.same] <;> simp [Value.number?, Value.int?, Value.text?]

theorem HasKey.here {w : ω} (is : Is v w) : HasKey ((.text key, v) :: es) key Is (some w) := by
  have found : Value.find? ((.text key, v) :: es) (.text key) = some v := by
    rw [Value.find?, List.find?_cons_of_pos (by simp [same_text])]
    rfl
  rw [HasKey, found]
  exact .some is

theorem HasKey.there (ne : other ≠ key) (has : HasKey es key Is o) :
    HasKey ((.text other, v) :: es) key Is o := by
  rw [HasKey, Value.find?, List.find?_cons_of_neg (by simp [same_text, ne])]
  exact has

theorem HasKey.nowhere : HasKey [] key Is none := .none

end

/-! ## Readers -/

/-- The reader makes of data exactly what they mean, and nothing of data that mean nothing. -/
def Reads (read : Value → Checked α) (Is : Value → ω → Prop) (Means : ω → α → Prop) : Prop :=
  ∀ ⦃v w⦄, Is v w → ∀ x, read v = .ok x ↔ Means w x

/-- A missing key means the default. -/
def MeansOr (default : α) (Means : ω → α → Prop) : Option ω → α → Prop
  | none, x => x = default
  | some w, x => Means w x

variable {read : Value → Checked α} {Is : Value → ω → Prop} {Means : ω → α → Prop}
  {es : List (Value × Value)}
  {key : Text} {x : α}

theorem Reads.needed {w : ω} (h : Reads read Is Means) (has : HasKey es key Is (some w))
    {default : Option α} : field es key read default = .ok x ↔ Means w x := by
  cases found : Value.find? es (.text key) with
  | none =>
    rw [HasKey, found] at has
    cases has
  | some v =>
    rw [HasKey, found] at has
    cases has with
    | some is => simp only [field, found, inside_eq_ok_iff, h is]

theorem Reads.optional {o : Option ω} {d : α} (h : Reads read Is Means) (has : HasKey es key Is o) :
    field es key read (some d) = .ok x ↔ MeansOr d Means o x := by
  cases o with
  | some w => exact h.needed has
  | none =>
    cases found : Value.find? es (.text key) with
    | none => simp [field, found, MeansOr, eq_comm]
    | some v =>
      rw [HasKey, found] at has
      cases has

theorem Reads.list (h : Reads read Is Means) :
    Reads (readList read) (IsList Is) (List.Forall₂ Means) := by
  rintro _ ws ⟨items⟩ xs
  change each read 0 _ = .ok xs ↔ _
  rw [each_eq_ok_iff]
  induction items generalizing xs with
  | nil => simp
  | cons is _ ih => simp [List.forall₂_cons_left_iff, h is, ih]

theorem Reads.orNull {read : Value → Checked α} {Means : Text → α → Prop}
    (h : Reads read IsText Means) : Reads (orNull read) IsTextOrNull (Option.Rel Means) := by
  rintro _ _ (_ | t) x
  · cases x <;> simp [Config.orNull]
  · rw [show Config.orNull read (.text t) = (read (.text t)).map some from rfl, map_eq_ok_iff]
    cases x <;> simp [h (.text t)]

theorem reads_text : Reads readText IsText Eq := by
  rintro _ t ⟨⟩ x
  simp [readText, Value.text?]

theorem reads_name : Reads readName IsText fun t n => n = t ∧ t ≠ [] := by
  rintro _ t ⟨⟩ n
  change (if t.isEmpty then fail .tooShort else .ok t) = .ok n ↔ _
  cases t <;> simp [fail, eq_comm]

theorem reads_url : Reads readUrl IsText fun t u => Url.parse t = .ok u := by
  rintro _ t ⟨⟩ u
  exact ofText_eq_ok_iff

theorem reads_id : Reads readId IsText fun t n => GroupId.check t = .ok n := by
  rintro _ t ⟨⟩ n
  exact ofText_eq_ok_iff

theorem reads_privacy : Reads readPrivacy IsText fun t p => Privacy.parse? t = some p := by
  rintro _ t ⟨⟩ p
  exact getD_fail_eq_ok_iff

theorem reads_access : Reads readAccess IsText fun t a => Access.parse? t = some a := by
  rintro _ t ⟨⟩ a
  exact getD_fail_eq_ok_iff

theorem parseKey_eq_ok_iff {t : Text} {k : PublicKey} :
    parseKey t = .ok k ↔ PublicKey.parse? t = some k := by
  rw [parseKey]
  cases PublicKey.parse? t <;> simp [fail]

theorem reads_key : Reads readKey IsText fun t k => PublicKey.parse? t = some k := by
  rintro _ t ⟨⟩ k
  exact parseKey_eq_ok_iff

/-- Keys that were all read in advance are read the same once more. -/
theorem reads_members :
    Reads readMembers (IsList IsText) (List.Forall₂ fun t k => PublicKey.parse? t = some k) := by
  rintro _ ts (@⟨vs, _, items⟩) ks
  have texts : vs.filterMap Value.text? = ts := by
    induction items with
    | nil => rfl
    | @cons _ t _ _ is _ ih =>
      cases is
      exact congrArg (t :: ·) ih
  have means : each readKey 0 vs = .ok ks ↔
      List.Forall₂ (fun t k => PublicKey.parse? t = some k) ts ks :=
    reads_key.list (.list items) ks
  change ((vs.filterMap Value.text?).mapM parseKey >>= fun _ => each readKey 0 vs) = .ok ks ↔ _
  rw [texts, bind_eq_ok_iff, means]
  constructor
  · rintro ⟨_, _, h⟩
    exact h
  · intro h
    exact ⟨ks, mapM_eq_ok_iff.mpr (h.imp fun _ _ => parseKey_eq_ok_iff.mpr), h⟩

end GroupWire.Config
