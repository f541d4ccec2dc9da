import Mathlib
import GroupWire.Group.Tags
import GroupWire.Proofs.Outcome
import GroupWire.Value.Make

/-! # Records that grow item by item

Roles, admins and members are records of lists. Such a record may be made of all its items at once,
or of some of them and grow by the others: the outcome is the same, also if an item is none, and its
place in the whole list is named. -/

namespace GroupWire
open Outcome

namespace Expected

variable {α : Type} {e : Expected α} {field : Text} {i : Nat} {v : Value} {vs : List Value}
  {x : α} {xs : List α}

theorem takeEach_cons (e : Expected α) (field : Text) (i : Nat) (v : Value) (vs : List Value) :
    e.takeEach field i (v :: vs) =
      e.take (indexed field i) v >>= fun x => (e.takeEach field (i + 1) vs).map (x :: ·) := by
  rw [takeEach]
  cases e.take (indexed field i) v with
  | error _ => rfl
  | ok x => cases e.takeEach field (i + 1) vs <;> rfl

/-- Items that follow others are taken at the places after them. -/
theorem takeEach_append (e : Expected α) (field : Text) (i : Nat) (vs ws : List Value) :
    e.takeEach field i (vs ++ ws) =
      e.takeEach field i vs >>= fun xs => (e.takeEach field (i + vs.length) ws).map (xs ++ ·) := by
  induction vs generalizing i with
  | nil =>
    have all : e.takeEach field i ([] ++ ws) = (e.takeEach field i ws).map ([] ++ ·) := by
      cases h : e.takeEach field i ws <;> simp [h, Except.map]
    exact all
  | cons v vs ih =>
    have place : i + (v :: vs).length = i + 1 + vs.length := by
      rw [List.length_cons]
      omega
    rw [List.cons_append, takeEach_cons, takeEach_cons, ih, place]
    cases e.take (indexed field i) v with
    | error _ => rfl
    | ok x =>
      cases e.takeEach field (i + 1) vs with
      | error _ => rfl
      | ok xs => cases e.takeEach field (i + 1 + vs.length) ws <;> rfl

theorem take_of_read (h : e.read v = some x) : e.take field v = .ok x := by rw [take, h]

theorem take_of_unread (h : e.read v = none) :
    e.take field v = .error (.shape field e.shape v.shape) := by rw [take, h]

theorem takeEach_eq_ok_iff : e.takeEach field i vs = .ok xs ↔ vs.map e.read = xs.map some := by
  induction vs generalizing i xs with
  | nil => cases xs <;> simp [takeEach]
  | cons v vs ih =>
    rw [takeEach_cons, List.map_cons, bind_eq_ok_iff]
    cases h : e.read v with
    | none =>
      rw [take_of_unread h]
      cases xs <;> simp
    | some x =>
      rw [take_of_read h]
      cases xs <;> simp [map_eq_ok_iff, ih, and_comm]

/-- The first item that is none is the one that is named. -/
theorem takeEach_eq_error_iff {err : Error} :
    e.takeEach field i vs = .error err ↔ ∃ before bad after, vs = before ++ bad :: after ∧
      (∀ u ∈ before, (e.read u).isSome = true) ∧ e.read bad = none ∧
      err = .shape (indexed field (i + before.length)) e.shape bad.shape := by
  induction vs generalizing i with
  | nil => simp [takeEach]
  | cons v vs ih =>
    rw [takeEach_cons, bind_eq_error_iff]
    cases h : e.read v with
    | none =>
      rw [take_of_unread h]
      constructor
      · rintro (⟨⟨⟩⟩ | ⟨x, ⟨⟩, -⟩)
        exact ⟨[], v, vs, rfl, by simp, h, rfl⟩
      · rintro ⟨_ | ⟨u, before⟩, bad, after, parts, reads, unread, rfl⟩
        · obtain ⟨rfl, -⟩ := List.cons.inj parts
          exact .inl rfl
        · obtain ⟨rfl, -⟩ := List.cons.inj parts
          have := reads v List.mem_cons_self
          simp [h] at this
    | some x =>
      have place (before : List Value) : i + (v :: before).length = i + 1 + before.length := by
        rw [List.length_cons]
        omega
      rw [take_of_read h]
      simp only [reduceCtorEq, Except.ok.injEq, exists_eq_left', map_eq_error_iff, false_or, ih]
      constructor
      · rintro ⟨before, bad, after, rfl, reads, unread, rfl⟩
        refine ⟨v :: before, bad, after, rfl, ?_, unread, by rw [place]⟩
        simpa [h] using reads
      · rintro ⟨_ | ⟨u, before⟩, bad, after, parts, reads, unread, rfl⟩
        · obtain ⟨rfl, -⟩ := List.cons.inj parts
          simp [h] at unread
        · obtain ⟨rfl, rfl⟩ := List.cons.inj parts
          exact ⟨before, bad, after, rfl,
            fun w hw => reads w (List.mem_cons_of_mem v hw), unread, by rw [place]⟩

/-- A list, a tuple, or a stream that is read once. -/
inductive IsItems : Value → List Value → Prop
  | list (items : List Value) : IsItems (.list items) items
  | tuple (items : List Value) : IsItems (.tuple items) items
  | stream (items : List Value) : IsItems (.stream items) items

theorem takeAll_of_isItems (h : IsItems v vs) : e.takeAll field v = e.takeEach field 0 vs := by
  cases h <;> rfl

end Expected

open Expected

/-- A record that is a list: the items it expects and the field that holds them, how it is made and
grows, and the tags it is written as. -/
structure Listing (α ρ : Type) where
  expected : Expected α
  field : Text
  value : α → Value
  items : ρ → List α
  ofItems : List α → ρ
  make : Value → Except Error ρ
  add : ρ → Value → Except Error ρ
  tags : ρ → List Tag
  read_value : ∀ x, expected.read (value x) = some x
  items_ofItems : ∀ xs, items (ofItems xs) = xs
  ofItems_items : ∀ r, ofItems (items r) = r
  make_eq : ∀ v, make v = (expected.takeAll field v).map ofItems
  add_eq : ∀ r v, add r v = make (.tuple ((items r).map value ++ [v]))
  tags_append : ∀ xs ys, tags (ofItems (xs ++ ys)) = tags (ofItems xs) ++ tags (ofItems ys)

namespace Listing

def roles : Listing Role Roles where
  expected := .role
  field := "roles"
  value := .role
  items := Roles.items
  ofItems := .mk
  make := Roles.ofValue
  add := Roles.add
  tags := Roles.tags
  read_value _ := rfl
  items_ofItems _ := rfl
  ofItems_items _ := rfl
  make_eq _ := rfl
  add_eq _ _ := rfl
  tags_append _ _ := List.map_append

def admins : Listing Admin Admins where
  expected := .admin
  field := "admins"
  value := .admin
  items := Admins.items
  ofItems := .mk
  make := Admins.ofValue
  add := Admins.add
  tags := Admins.tags
  read_value _ := rfl
  items_ofItems _ := rfl
  ofItems_items _ := rfl
  make_eq _ := rfl
  add_eq _ _ := rfl
  tags_append _ _ := List.flatMap_append

def members : Listing PublicKey Members where
  expected := .key
  field := "members"
  value := .key
  items := Members.items
  ofItems := .mk
  make := Members.ofValue
  add := Members.add
  tags := Members.tags
  read_value _ := rfl
  items_ofItems _ := rfl
  ofItems_items _ := rfl
  make_eq _ := rfl
  add_eq _ _ := rfl
  tags_append _ _ := List.map_append

variable {α ρ : Type}

def grow (l : Listing α ρ) (r : ρ) (more : List Value) : Except Error ρ := more.foldlM l.add r

/-- The records along the way, from the first one up to an item that is refused. -/
def along (l : Listing α ρ) (r : ρ) : List Value → List ρ
  | [] => [r]
  | v :: vs =>
    r :: match l.add r v with
      | .ok s => l.along s vs
      | .error _ => []

/-- Growing by items one after the other comes to the same as making the record of all items at
once. -/
structure GrowsAsMade (l : Listing α ρ) : Prop where
  same : ∀ {v w : Value} {given more : List Value}, IsItems v given → IsItems w (given ++ more) →
    (l.make v >>= fun r => l.grow r more) = l.make w
  made : ∀ {v : Value} {given : List Value} {r : ρ}, IsItems v given →
    (l.make v = .ok r ↔ given.map l.expected.read = (l.items r).map some)
  refused : ∀ {v : Value} {given : List Value} {err : Error}, IsItems v given →
    (l.make v = .error err ↔ ∃ before bad after, given = before ++ bad :: after ∧
      (∀ u ∈ before, (l.expected.read u).isSome = true) ∧ l.expected.read bad = none ∧
      err = .shape (indexed l.field before.length) l.expected.shape bad.shape)
  along : ∀ {r q : ρ} {more : List Value} {k : Nat}, (l.along r more)[k]? = some q →
    ∃ xs, (more.take k).map l.expected.read = xs.map some ∧ l.items q = l.items r ++ xs
  last : ∀ {r s : ρ} {more : List Value}, l.grow r more = .ok s →
    (l.along r more)[more.length]? = some s
  tags : ∀ {v w u : Value} {given more : List Value} {r s t : ρ}, IsItems v given → IsItems w more →
    IsItems u (given ++ more) → l.make v = .ok r → l.make w = .ok s → l.make u = .ok t →
      l.tags t = l.tags r ++ l.tags s

variable (l : Listing α ρ) {v w : Value} {given more : List Value} {r s : ρ}

theorem make_of_isItems (h : IsItems v given) :
    l.make v = (l.expected.takeEach l.field 0 given).map l.ofItems := by
  rw [l.make_eq, takeAll_of_isItems h]

/-- Items of a record pass its own check, so only the new one counts. -/
theorem add_eq_take (r : ρ) (v : Value) :
    l.add r v = (l.expected.take (indexed l.field (l.items r).length) v).map fun x =>
      l.ofItems (l.items r ++ [x]) := by
  have own : l.expected.takeEach l.field 0 ((l.items r).map l.value) = .ok (l.items r) := by
    rw [takeEach_eq_ok_iff, List.map_map]
    exact List.map_congr_left fun x _ => l.read_value x
  rw [l.add_eq, l.make_of_isItems (.tuple _), takeEach_append, own, List.length_map, Nat.zero_add]
  change ((l.expected.takeEach l.field (l.items r).length [v]).map
    (l.items r ++ ·)).map l.ofItems = _
  rw [takeEach_cons]
  cases l.expected.take (indexed l.field (l.items r).length) v <;> rfl

theorem grow_eq_takeEach (r : ρ) (more : List Value) :
    l.grow r more =
      (l.expected.takeEach l.field (l.items r).length more).map fun xs =>
        l.ofItems (l.items r ++ xs) := by
  induction more generalizing r with
  | nil =>
    have whole : l.ofItems (l.items r ++ []) = r := by rw [List.append_nil, l.ofItems_items]
    exact congrArg Except.ok whole.symm
  | cons v more ih =>
    have step : l.grow r (v :: more) = l.add r v >>= fun s => l.grow s more := rfl
    rw [step, add_eq_take, takeEach_cons]
    cases l.expected.take (indexed l.field (l.items r).length) v with
    | error _ => rfl
    | ok x =>
      change l.grow (l.ofItems (l.items r ++ [x])) more =
        ((l.expected.takeEach l.field _ more).map (x :: ·)).map _
      rw [ih, l.items_ofItems, List.length_append, List.length_singleton]
      cases l.expected.takeEach l.field ((l.items r).length + 1) more with
      | error _ => rfl
      | ok xs => simp [Except.map]

theorem make_eq_ok_iff (h : IsItems v given) :
    l.make v = .ok r ↔ given.map l.expected.read = (l.items r).map some := by
  rw [l.make_of_isItems h, map_eq_ok_iff]
  constructor
  · rintro ⟨xs, taken, rfl⟩
    rw [l.items_ofItems]
    exact takeEach_eq_ok_iff.mp taken
  · intro reads
    exact ⟨l.items r, takeEach_eq_ok_iff.mpr reads, l.ofItems_items r⟩

theorem make_eq_error_iff {err : Error} (h : IsItems v given) :
    l.make v = .error err ↔ ∃ before bad after, given = before ++ bad :: after ∧
      (∀ u ∈ before, (l.expected.read u).isSome = true) ∧ l.expected.read bad = none ∧
      err = .shape (indexed l.field before.length) l.expected.shape bad.shape := by
  rw [l.make_of_isItems h, map_eq_error_iff, takeEach_eq_error_iff]
  simp only [Nat.zero_add]

theorem grow_eq_make (hv : IsItems v given) (hw : IsItems w (given ++ more)) :
    (l.make v >>= fun r => l.grow r more) = l.make w := by
  rw [l.make_of_isItems hv, l.make_of_isItems hw, takeEach_append]
  cases h : l.expected.takeEach l.field 0 given with
  | error _ => rfl
  | ok xs =>
    have count : xs.length = given.length := by
      simpa using (congrArg List.length (takeEach_eq_ok_iff.mp h)).symm
    change l.grow (l.ofItems xs) more = _
    rw [l.grow_eq_takeEach, l.items_ofItems, count, Nat.zero_add]
    change _ = ((l.expected.takeEach l.field given.length more).map (xs ++ ·)).map l.ofItems
    cases l.expected.takeEach l.field given.length more <;> rfl

theorem items_of_add (h : l.add r v = .ok s) :
    ∃ x, l.expected.read v = some x ∧ l.items s = l.items r ++ [x] := by
  rw [l.add_eq_take, map_eq_ok_iff] at h
  obtain ⟨x, taken, rfl⟩ := h
  refine ⟨x, ?_, l.items_ofItems _⟩
  cases hx : l.expected.read v with
  | none =>
    rw [take_of_unread hx] at taken
    cases taken
  | some y =>
    rw [take_of_read hx] at taken
    exact congrArg some (Except.ok.inj taken)

/-- Every record along the way holds the items of the first one and those that were added so far. -/
theorem items_of_along {q : ρ} {k : Nat} (h : (l.along r more)[k]? = some q) :
    ∃ xs, (more.take k).map l.expected.read = xs.map some ∧ l.items q = l.items r ++ xs := by
  induction more generalizing r k with
  | nil =>
    obtain ⟨rfl, rfl⟩ : k = 0 ∧ r = q := by
      cases k <;> simp_all [Listing.along]
    exact ⟨[], rfl, (List.append_nil _).symm⟩
  | cons v more ih =>
    cases k with
    | zero =>
      obtain rfl : r = q := by simpa [Listing.along] using h
      exact ⟨[], rfl, (List.append_nil _).symm⟩
    | succ k =>
      rw [Listing.along, List.getElem?_cons_succ] at h
      cases added : l.add r v with
      | error _ =>
        rw [added] at h
        cases h
      | ok s =>
        rw [added] at h
        obtain ⟨x, read, items⟩ := l.items_of_add added
        obtain ⟨xs, reads, rest⟩ := ih h
        refine ⟨x :: xs, ?_, ?_⟩
        · rw [List.take_succ_cons, List.map_cons, List.map_cons, read, reads]
        · rw [rest, items, List.append_assoc, List.singleton_append]

theorem along_last (h : l.grow r more = .ok s) : (l.along r more)[more.length]? = some s := by
  induction more generalizing r with
  | nil => exact congrArg some (Except.ok.inj h)
  | cons v more ih =>
    obtain ⟨q, added, grown⟩ :=
      bind_eq_ok_iff.mp (show (l.add r v >>= fun q => l.grow q more) = .ok s from h)
    rw [Listing.along, added, List.length_cons, List.getElem?_cons_succ]
    exact ih grown

theorem tags_of_parts {u : Value} {t : ρ} (hv : IsItems v given) (hw : IsItems w more)
    (hu : IsItems u (given ++ more)) (first : l.make v = .ok r) (second : l.make w = .ok s)
    (whole : l.make u = .ok t) : l.tags t = l.tags r ++ l.tags s := by
  have items : l.items t = l.items r ++ l.items s := by
    apply List.map_injective_iff.mpr (Option.some_injective α)
    rw [← (l.make_eq_ok_iff hu).mp whole, List.map_append, List.map_append,
      (l.make_eq_ok_iff hv).mp first, (l.make_eq_ok_iff hw).mp second]
  rw [← l.ofItems_items t, items, l.tags_append, l.ofItems_items, l.ofItems_items]

theorem growsAsMade : l.GrowsAsMade where
  same := l.grow_eq_make
  made := l.make_eq_ok_iff
  refused := l.make_eq_error_iff
  along := l.items_of_along
  last := l.along_last
  tags := l.tags_of_parts

/-- So it is with roles, admins and members. -/
theorem lists_grow_as_made : roles.GrowsAsMade ∧ admins.GrowsAsMade ∧ members.GrowsAsMade :=
  ⟨growsAsMade roles, growsAsMade admins, growsAsMade members⟩

/-- A number among roles is refused at its place in the whole list, whether it is given or added. -/
theorem lists_grow_as_made_up_to_number :
    let r : Value := .role ⟨"admin", some "Full access"⟩
    let err : Error := .shape "roles[2]" .role .int
    (Roles.ofValue (.stream [r]) >>= fun rs => [r, .int 7].foldlM Roles.add rs) = .error err ∧
      Roles.ofValue (.list [r, r, .int 7]) = .error err ∧
      err.message = "roles[2] must be a Role, got int" := by
  intro r err
  obtain ⟨h, -, -⟩ := lists_grow_as_made
  have whole : IsItems (.list [r, r, .int 7]) ([r] ++ [r, .int 7]) := .list _
  have place : ("roles[2]" : Text) = indexed "roles" 2 := by decide
  have refused : Roles.ofValue (.list [r, r, .int 7]) = .error err := by
    refine (h.refused whole).mpr
      ⟨[r, r], .int 7, [], rfl, ?_, rfl, congrArg (Error.shape · .role .int) place⟩
    simp [r, roles, Expected.role, Value.role, Value.role?]
  exact ⟨(h.same (.stream [r]) whole).trans refused, refused, by decide⟩

end Listing

end GroupWire
