import Mathlib
import GroupWire.EventKind.Table

/-! # Searching a table of kinds

In a table that ascends, the search by halving keeps the place of a code between its two bounds. So
a code is found exactly if it is in the table, and the three tables say of a number what their lists
of kinds say. The check that a table has to pass looks at neighbours only; it is passed exactly by
the tables that ascend from any place to any later one. -/

namespace GroupWire

theorem injective_of_found {α β : Type} {f : α → β} {find? : β → Option α}
    (found : ∀ a, find? (f a) = some a) :
    Function.Injective f := by
  intro a b same
  have first := found a
  rw [same, found b] at first
  exact (Option.some.inj first).symm

namespace EventKind

private def ofCode? (code : Nat) : Option EventKind := all.find? (·.code = code)

theorem code_injective : Function.Injective code := by
  have found (k : EventKind) : ofCode? k.code = some k := by cases k <;> rfl
  exact injective_of_found found

end EventKind

namespace KindTable

/-- Codes before `low` are smaller, those from `high` on are not. -/
structure Brackets (codes : List Int) (code : Int) (low high : Nat) : Prop where
  order : low ≤ high
  bound : high ≤ codes.length
  below : ∀ i (_ : i < codes.length), i < low → codes[i] < code
  above : ∀ i (_ : i < codes.length), high ≤ i → code ≤ codes[i]

section Search

variable {codes : List Int} {code : Int} {low high : Nat}

private theorem brackets_whole (codes : List Int) (code : Int) :
    Brackets codes code 0 codes.length where
  order := Nat.zero_le _
  bound := Nat.le_refl _
  below _ _ h := absurd h (Nat.not_lt_zero _)
  above _ hi h := absurd hi (Nat.not_lt_of_le h)

variable (ascends : codes.Pairwise (· < ·))

include ascends

private theorem code_le {i j : Nat} (hij : i ≤ j) (hj : j < codes.length) :
    codes[i] ≤ codes[j] := by
  rcases Nat.lt_or_eq_of_le hij with h | rfl
  · exact Int.le_of_lt (List.pairwise_iff_getElem.mp ascends i j (by omega) hj h)
  · exact Int.le_refl _

private theorem Brackets.upperHalf {middle : Nat} (h : Brackets codes code low high)
    (inside : low ≤ middle ∧ middle < high)
    (less : codes.getD middle 0 < code) : Brackets codes code (middle + 1) high := by
  have hm : middle < codes.length := Nat.lt_of_lt_of_le inside.2 h.bound
  rw [List.getD_eq_getElem _ _ hm] at less
  refine ⟨by omega, h.bound, fun i hi hlow => ?_, h.above⟩
  have hle := code_le ascends (Nat.le_of_lt_succ hlow) hm
  omega

private theorem Brackets.lowerHalf {middle : Nat} (h : Brackets codes code low high)
    (inside : low ≤ middle ∧ middle < high)
    (notLess : ¬ codes.getD middle 0 < code) : Brackets codes code low middle := by
  have hm : middle < codes.length := Nat.lt_of_lt_of_le inside.2 h.bound
  rw [List.getD_eq_getElem _ _ hm] at notLess
  refine ⟨inside.1, by omega, h.below, fun i hi hhigh => ?_⟩
  have hle := code_le ascends hhigh hi
  omega

/-- The bounds close in on the place that is found. -/
theorem brackets_lowerBound (h : Brackets codes code low high) :
    Brackets codes code (lowerBound codes code low high) (lowerBound codes code low high) := by
  fun_induction lowerBound codes code low high with
  | case1 low high hlt middle less ih =>
    apply ih
    exact h.upperHalf ascends ⟨by omega, by omega⟩ less
  | case2 low high hlt middle notLess ih =>
    apply ih
    exact h.lowerHalf ascends ⟨by omega, by omega⟩ notLess
  | case3 low high hle =>
    have closed : high = low := by
      have := h.order
      omega
    rwa [closed] at h

theorem getElem?_lowerBound_iff :
    codes[lowerBound codes code 0 codes.length]? = some code ↔ code ∈ codes := by
  have h := brackets_lowerBound ascends (brackets_whole codes code)
  generalize lowerBound codes code 0 codes.length = i at h
  constructor
  · exact List.mem_of_getElem?
  · intro hm
    obtain ⟨j, hj, found⟩ := List.mem_iff_getElem.mp hm
    have first : i ≤ j := by
      by_contra before
      have less := h.below j hj (by omega)
      omega
    have hle := code_le ascends first hj
    have hge := h.above i (by omega) (Nat.le_refl i)
    rw [List.getElem?_eq_getElem (by omega)]
    congr 1
    omega

end Search

theorem has_iff {t : KindTable} (ascends : t.codes.Pairwise (· < ·)) (code : Int) :
    t.has code = true ↔ 0 ≤ code ∧ code ≤ greatestCode ∧ code ∈ t.codes := by
  rw [has, Bool.and_eq_true, Bool.and_eq_true, decide_eq_true_eq, decide_eq_true_eq,
    decide_eq_true_eq, getElem?_lowerBound_iff ascends, and_assoc]

/-! ## Checked tables -/

/-- Two neighbours that do not ascend, all those before them doing so. -/
def IsFirstDescent (codes : List Int) (pair : Int × Int) : Prop :=
  ∃ front back, codes = front ++ pair.1 :: pair.2 :: back ∧ (front ++ [pair.1]).IsChain (· < ·) ∧
    pair.2 ≤ pair.1

section Checked

variable {codes : List Int} {a b : Int} {pair : Int × Int}

private theorem head_of_eq_append {front back : List Int}
    (shape : b :: codes = front ++ a :: back) :
    (front ++ [a]).head? = some b := by
  have same : (front ++ [a]).head? = (front ++ a :: back).head? := by cases front <;> rfl
  rw [same, ← shape, List.head?_cons]

/-- Behind neighbours that ascend the search goes on. -/
private theorem isFirstDescent_cons_iff (h : a < b) :
    IsFirstDescent (a :: b :: codes) pair ↔ IsFirstDescent (b :: codes) pair := by
  constructor
  · intro ⟨front, back, shape, ascends, descends⟩
    cases front with
    | nil =>
      obtain ⟨first, second, -⟩ : a = pair.1 ∧ b = pair.2 ∧ codes = back := by simpa using shape
      omega
    | cons c front =>
      obtain ⟨-, shape⟩ := List.cons.inj shape
      exact ⟨front, back, shape, ascends.tail, descends⟩
  · intro ⟨front, back, shape, ascends, descends⟩
    refine ⟨a :: front, back, by rw [shape, List.cons_append], ?_, descends⟩
    apply List.IsChain.cons ascends
    intro c hc
    obtain rfl : b = c := Option.some.inj ((head_of_eq_append shape).symm.trans hc)
    exact h

theorem descent?_eq_some_iff : descent? codes = some pair ↔ IsFirstDescent codes pair := by
  fun_induction descent? codes with
  | case1 a b codes h ih => exact ih.trans (isFirstDescent_cons_iff h).symm
  | case2 a b codes h =>
    constructor
    · intro found
      obtain rfl := Option.some.inj found
      exact ⟨[], codes, rfl, .singleton a, Int.not_lt.mp h⟩
    · intro ⟨front, back, shape, ascends, _⟩
      cases front with
      | nil =>
        obtain ⟨rfl, rfl, -⟩ : a = pair.1 ∧ b = pair.2 ∧ codes = back := by simpa using shape
        rfl
      | cons c front =>
        -- The neighbours that were met first would have to ascend.
        obtain ⟨rfl, tail⟩ := List.cons.inj shape
        obtain ⟨rest, hr⟩ := List.head?_eq_some_iff.mp (head_of_eq_append tail)
        rw [List.cons_append, hr] at ascends
        exact absurd (List.isChain_cons_cons.mp ascends).1 h
  | case3 codes short =>
    refine iff_of_false (by simp) ?_
    intro ⟨front, back, shape, _, _⟩
    cases front with
    | nil => exact short _ _ _ shape
    | cons c front =>
      obtain ⟨d, rest, hr⟩ :=
        List.exists_cons_of_ne_nil (l := front ++ pair.1 :: pair.2 :: back) (by simp)
      exact short c d rest (by rw [shape, List.cons_append, hr])

theorem descent?_eq_none_iff : descent? codes = none ↔ codes.IsChain (· < ·) := by
  fun_induction descent? codes with
  | case1 a b codes h ih => rw [ih, List.isChain_cons_cons, and_iff_right h]
  | case2 a b codes h =>
    refine iff_of_false (by simp) ?_
    intro ascends
    exact h (List.isChain_cons_cons.mp ascends).1
  | case3 codes short =>
    refine iff_of_true rfl ?_
    match codes with
    | [] => exact .nil
    | [a] => exact .singleton a
    | a :: b :: codes => exact absurd rfl (short a b codes)

theorem ofCodes_eq_ok_iff {t : KindTable} :
    ofCodes codes = .ok t ↔ codes.Pairwise (· < ·) ∧ t = ⟨codes⟩ := by
  rw [← List.isChain_iff_pairwise, ← descent?_eq_none_iff, ofCodes]
  cases descent? codes with
  | none => simp [eq_comm]
  | some pair => simp

theorem ofCodes_eq_error_iff : ofCodes codes = .error pair ↔ IsFirstDescent codes pair := by
  rw [← descent?_eq_some_iff, ofCodes]
  cases descent? codes <;> simp

end Checked

/-- A table passes exactly if its codes ascend from every place to every later one, and else the
first descent is reported. In a table that passes, the search finds the codes of the table that can
be numbers of kinds, and no others. -/
theorem ofCodes_decides (codes : List Int) :
    ((∃ t, ofCodes codes = .ok t) ↔
        ∀ i j (hi : i < codes.length) (hj : j < codes.length), i < j → codes[i] < codes[j]) ∧
      (∀ pair, ofCodes codes = .error pair ↔ IsFirstDescent codes pair) ∧
      ∀ t, ofCodes codes = .ok t →
        t.codes = codes ∧ ∀ code : Int, t.has code = true ↔
        0 ≤ code ∧ code ≤ 65535 ∧ code ∈ codes := by
  refine ⟨?_, fun pair => ofCodes_eq_error_iff, ?_⟩
  · rw [← List.pairwise_iff_getElem]
    constructor
    · intro ⟨t, checked⟩
      exact (ofCodes_eq_ok_iff.mp checked).1
    · intro ascends
      exact ⟨⟨codes⟩, ofCodes_eq_ok_iff.mpr ⟨ascends, rfl⟩⟩
  · intro t checked
    obtain ⟨ascends, rfl⟩ := ofCodes_eq_ok_iff.mp checked
    exact ⟨rfl, has_iff ascends⟩

/-- Codes that no kind can have may stand in a table, and they are not found. -/
theorem ofCodes_decides_beyond_kinds :
    ofCodes [-3, 9, 9000, 70000] = .ok ⟨[-3, 9, 9000, 70000]⟩ ∧
      (∀ code : Int, KindTable.has ⟨[-3, 9, 9000, 70000]⟩ code = true ↔
        0 ≤ code ∧ code ≤ 65535 ∧ code ∈ [-3, 9, 9000, 70000]) ∧
      ofCodes [9, 9000, 9000, 8] = .error (9000, 9000) ∧
      IsFirstDescent [9, 9000, 9000, 8] (9000, 9000) := by
  have checked : ofCodes [-3, 9, 9000, 70000] = .ok ⟨[-3, 9, 9000, 70000]⟩ := by rfl
  have refused : ofCodes [9, 9000, 9000, 8] = .error (9000, 9000) := by rfl
  have found := ((ofCodes_decides [-3, 9, 9000, 70000]).2.2 _ checked).2
  have reported := ((ofCodes_decides [9, 9000, 9000, 8]).2.1 (9000, 9000)).mp refused
  exact ⟨checked, found, refused, reported⟩

/-! ## The three tables -/

theorem has_ofKinds {kinds : List EventKind}
    (checked : ofCodes (ofKinds kinds).codes = .ok (ofKinds kinds)) (k : EventKind) :
    (ofKinds kinds).has k.code = true ↔ k ∈ kinds := by
  have small : k.code ≤ greatestCode := by cases k <;> decide
  rw [has_iff (ofCodes_eq_ok_iff.mp checked).1]
  constructor
  · rintro ⟨-, -, hm⟩
    obtain ⟨l, hl, same⟩ := List.mem_map.mp hm
    rwa [← EventKind.code_injective (Int.ofNat_inj.mp same)]
  · intro hk
    exact ⟨Int.natCast_nonneg _, Int.ofNat_le.mpr small, List.mem_map_of_mem hk⟩

end KindTable

open EventKind

theorem isModeration_iff (k : EventKind) : isModeration k.code = true ↔
    k ∈ [putUser, removeUser, editMetadata, deleteEvent, createGroup, deleteGroup, createInvite] :=
  KindTable.has_ofKinds (KindTable.ofCodes_tables .moderation (by simp)) k

theorem isMetadata_iff (k : EventKind) :
    isMetadata k.code = true ↔ k ∈ [groupMetadata, groupAdmins, groupMembers, groupRoles] :=
  KindTable.has_ofKinds (KindTable.ofCodes_tables .metadata (by simp)) k

theorem isUserRequest_iff (k : EventKind) :
    isUserRequest k.code = true ↔ k ∈ [joinRequest, leaveRequest] :=
  KindTable.has_ofKinds (KindTable.ofCodes_tables .user (by simp)) k

/-- Of the fourteen kinds, only plain messages are none of the group's own. -/
theorem isGroupEvent_iff (k : EventKind) : isGroupEvent k.code = true ↔ k ≠ chatMessage := by
  rw [isGroupEvent, Bool.or_eq_true, Bool.or_eq_true, isModeration_iff, isMetadata_iff,
    isUserRequest_iff]
  cases k <;> decide

end GroupWire
