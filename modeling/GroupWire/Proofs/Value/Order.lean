import Mathlib
import GroupWire.Value.Order

/-! # Values in order

A rank orders values if it decides which of two is less and whether they are equal. Such values
have one order: in whatever arrangement they are given, sorting them leads to the same texts, and
as many of them count as distinct. -/

namespace GroupWire

/-! ## Texts by code points -/

/-- The first text ends where the second goes on, or it has the smaller code
point where they first differ. -/
def Text.Before (s t : Text) : Prop :=
  (∃ d back, t = s ++ d :: back) ∨
    ∃ front c d, c.toNat < d.toNat ∧ front ++ [c] <+: s ∧ front ++ [d] <+: t

theorem Text.before_iff (s t : Text) : s.Before t ↔ s < t := by
  constructor
  · rintro (⟨d, back, rfl⟩ | ⟨front, c, d, smaller, ⟨r, rfl⟩, ⟨r', rfl⟩⟩)
    · have ends := List.Lex.append_left (· < ·) (List.Lex.nil : List.Lex (· < ·) [] (d :: back)) s
      rwa [List.append_nil] at ends
    · have differs : List.Lex (· < ·) (c :: r) (d :: r') := .rel smaller
      rw [List.append_assoc, List.append_assoc]
      exact List.Lex.append_left (· < ·) differs front
  · intro less
    induction less with
    | @nil d back => exact .inl ⟨d, back, rfl⟩
    | @rel c r d r' smaller => exact .inr ⟨[], c, d, smaller, ⟨r, rfl⟩, ⟨r', rfl⟩⟩
    | @cons e r r' _ ih =>
      rcases ih with ⟨d, back, rfl⟩ | ⟨front, c, d, smaller, hs, ht⟩
      · exact .inl ⟨d, back, rfl⟩
      · exact .inr ⟨e :: front, c, d, smaller, (List.prefix_cons_inj e).mpr hs,
          (List.prefix_cons_inj e).mpr ht⟩

/-! ## Orders -/

/-- Of any two, one comes before the other or they are equal, and no two of these hold. What comes
before goes on along chains, and equal things stand in one place. -/
structure OrdersTotally {α : Type} [BEq α] (less : α → α → Bool) : Prop where
  oneOfThree : ∀ a b, ∃ o : Ordering,
    (less a b = true ↔ o = .lt) ∧ ((a == b) = true ↔ o = .eq) ∧ (less b a = true ↔ o = .gt)
  trans : ∀ a b c, less a b = true → less b c = true → less a c = true
  equivalence : Equivalence fun a b : α => (a == b) = true
  congr : ∀ a b c, (a == b) = true → less a c = less b c ∧ less c a = less c b

theorem ordersTotally_of_rank {α κ : Type} [BEq α] [LinearOrder κ] {less : α → α → Bool}
    (rank : α → κ) (less_iff : ∀ a b, less a b = true ↔ rank a < rank b)
    (same_iff : ∀ a b : α, (a == b) = true ↔ rank a = rank b) :
    OrdersTotally less where
  oneOfThree a b := by
    refine ⟨compare (rank a) (rank b), ?_, ?_, ?_⟩
    · rw [less_iff, compare_lt_iff_lt]
    · rw [same_iff, compare_eq_iff_eq]
    · rw [less_iff, compare_gt_iff_gt]
  trans a b c hab hbc := by
    rw [less_iff] at hab hbc ⊢
    exact hab.trans hbc
  equivalence := by
    simp only [same_iff]
    exact ⟨fun _ => rfl, Eq.symm, Eq.trans⟩
  congr a b c same := by
    rw [same_iff] at same
    constructor <;> simp only [Bool.eq_iff_iff, less_iff, same]

namespace Value

/-! ## One of each -/

/-- One of each class of equal values, in the order of the list. -/
structure IsChoice (kept vs : List Value) : Prop where
  sublist : kept.Sublist vs
  apart : kept.Pairwise fun v w => v.same w = false
  covers : ∀ v ∈ vs, ∃ w ∈ kept, w.same v = true

private def addNew (seen : List Value) (v : Value) : List Value :=
  if seen.any (·.same v) then seen else seen ++ [v]

private theorem isChoice_addNew {seen past : List Value} {v : Value} (h : IsChoice seen past)
    (self : v.same v = true) : IsChoice (addNew seen v) (past ++ [v]) := by
  rw [addNew]
  split
  · rename_i known
    obtain ⟨w, hw, same⟩ := List.any_eq_true.mp known
    refine ⟨h.sublist.trans (List.sublist_append_left _ _), h.apart, fun u hu => ?_⟩
    rcases List.mem_append.mp hu with hu | hu
    · exact h.covers u hu
    · rw [List.mem_singleton.mp hu]
      exact ⟨w, hw, same⟩
  · rename_i fresh
    refine ⟨h.sublist.append_right [v],
      List.pairwise_append.mpr ⟨h.apart, List.pairwise_singleton _ _, ?_⟩, ?_⟩
    · intro w hw u hu
      rw [List.mem_singleton.mp hu]
      exact Bool.eq_false_iff.mpr fun same => fresh (List.any_eq_true.mpr ⟨w, hw, same⟩)
    · intro u hu
      rcases List.mem_append.mp hu with hu | hu
      · obtain ⟨w, hw, same⟩ := h.covers u hu
        exact ⟨w, List.mem_append_left [v] hw, same⟩
      · rw [List.mem_singleton.mp hu]
        exact ⟨v, by simp, self⟩

private theorem isChoice_foldl_addNew {seen past vs : List Value} (h : IsChoice seen past)
    (self : ∀ v ∈ vs, v.same v = true) : IsChoice (vs.foldl addNew seen) (past ++ vs) := by
  induction vs generalizing seen past with
  | nil => simpa using h
  | cons v vs ih =>
    have next := ih (isChoice_addNew h (self v List.mem_cons_self)) fun w hw =>
      self w (List.mem_cons_of_mem v hw)
    rwa [List.append_assoc] at next

theorem isChoice_distinct {vs : List Value} (self : ∀ v ∈ vs, v.same v = true) :
    IsChoice (distinct vs) vs := by
  have empty : IsChoice [] [] := ⟨.refl [], .nil, by simp⟩
  exact isChoice_foldl_addNew empty self

/-! ## Ranks -/

/-- The values that are `p` can be compared and counted, and their rank tells which of two is less,
whether they are equal and what is written for them. -/
structure RankedBy {κ : Type} [LinearOrder κ] (rank : Value → κ) (p : Value → Prop) : Prop where
  compared : ∀ v w, p v → p w → (v.less? w).isSome = true
  less : ∀ v w, p v → p w → (v.less? w = some true ↔ rank v < rank w)
  same : ∀ v w, p v → p w → (v.same w = true ↔ rank v = rank w)
  fixed : ∀ v, p v → v.changeable? = none
  written : ∃ text : κ → Text, ∀ v, p v → v.plain = text (rank v)

/-- What sorting and counting make of a list: its values in ascending order, and the
number of those that differ. -/
structure Arrangement (vs xs : List Value) (count : Nat) : Prop where
  sorted : sort vs = .ok xs
  perm : xs.Perm vs
  ascends : xs.Pairwise fun v w => w.less? v = some false
  counted : countDistinct vs = .ok count
  choice : ∃ kept, IsChoice kept vs ∧ kept.length = count

section Ranked

variable {κ : Type} [LinearOrder κ] {rank : Value → κ} {p : Value → Prop} {vs ws : List Value}

theorem RankedBy.notLess_iff (ranked : RankedBy rank p) {v w : Value} (hv : p v) (hw : p w) :
    v.less? w = some false ↔ rank w ≤ rank v := by
  obtain ⟨less, answer⟩ := Option.isSome_iff_exists.mp (ranked.compared v w hv hw)
  rw [← not_lt, ← ranked.less v w hv hw, answer]
  cases less <;> simp

section Results

variable (ranked : RankedBy rank p) (all : ∀ v ∈ vs, p v)

include ranked all

theorem sort_eq : sort vs = .ok (vs.mergeSort fun v w => rank v ≤ rank w) := by
  have agree : ∀ v ∈ vs, ∀ w ∈ vs, decide (w.less? v ≠ some true) = decide (rank v ≤ rank w) := by
    intro v hv w hw
    rw [decide_eq_decide, ne_eq, ranked.less w v (all w hw) (all v hv), not_lt]
  have same : vs.mergeSort (fun v w => w.less? v ≠ some true) =
      vs.mergeSort (fun v w => rank v ≤ rank w) := by
    simpa only [List.map_id] using List.map_mergeSort (f := id) agree
  cases vs with
  | nil => simp [sort]
  | cons first rest =>
    have ordered : (rest.find? fun v => (v.less? first).isNone) = none := by
      rw [List.find?_eq_none]
      intro v hv
      have compared := ranked.compared v first (all v (List.mem_cons_of_mem first hv))
        (all first List.mem_cons_self)
      simp [Option.isNone_iff_eq_none, Option.isSome_iff_ne_none.mp compared]
    simp only [sort, ordered, same]

theorem countDistinct_eq : countDistinct vs = .ok (distinct vs).length := by
  have fixed : firstChangeable? vs = none := by
    induction vs with
    | nil => rw [firstChangeable?]
    | cons v vs ih =>
      rw [firstChangeable?, ranked.fixed v (all v List.mem_cons_self)]
      exact ih fun w hw => all w (List.mem_cons_of_mem v hw)
  rw [countDistinct, fixed]

/-- Sorting and counting do what they say of values with a rank. -/
theorem exists_arrangement : ∃ xs count, Arrangement vs xs count := by
  have perm : (vs.mergeSort fun v w => rank v ≤ rank w).Perm vs := List.mergeSort_perm _ _
  have ascends : (vs.mergeSort fun v w => rank v ≤ rank w).Pairwise fun v w =>
      decide (rank v ≤ rank w) = true := by
    apply List.pairwise_mergeSort
    · intro u v w huv hvw
      exact decide_eq_true ((of_decide_eq_true huv).trans (of_decide_eq_true hvw))
    · intro v w
      simpa only [Bool.or_eq_true, decide_eq_true_eq] using le_total (rank v) (rank w)
  have self : ∀ v ∈ vs, v.same v = true :=
    fun v hv => (ranked.same v v (all v hv) (all v hv)).mpr rfl
  refine ⟨_, _, sort_eq ranked all, perm,
    ascends.imp_of_mem fun {v w} hv hw inOrder => ?_, countDistinct_eq ranked all,
    distinct vs, isChoice_distinct self, rfl⟩
  rw [ranked.notLess_iff (all w (perm.mem_iff.mp hw)) (all v (perm.mem_iff.mp hv))]
  exact of_decide_eq_true inOrder

private theorem ranks_ascend {xs : List Value} {count : Nat} (h : Arrangement vs xs count) :
    (xs.map rank).Pairwise (· ≤ ·) := by
  rw [List.pairwise_map]
  refine h.ascends.imp_of_mem fun {v w} hv hw inOrder => ?_
  exact (ranked.notLess_iff (all w (h.perm.mem_iff.mp hw))
    (all v (h.perm.mem_iff.mp hv))).mp inOrder

private theorem IsChoice.nodup_ranks {kept : List Value} (h : IsChoice kept vs) :
    (kept.map rank).Nodup := by
  rw [List.Nodup, List.pairwise_map]
  refine h.apart.imp_of_mem fun {v w} hv hw apart alike => ?_
  have same := (ranked.same v w (all v (h.sublist.subset hv))
    (all w (h.sublist.subset hw))).mpr alike
  rw [apart] at same
  cases same

private theorem IsChoice.mem_ranks_iff {kept : List Value} (h : IsChoice kept vs) (r : κ) :
    r ∈ kept.map rank ↔ r ∈ vs.map rank := by
  constructor
  · intro hr
    exact (h.sublist.map rank).subset hr
  · intro hr
    obtain ⟨v, hv, rfl⟩ := List.mem_map.mp hr
    obtain ⟨w, hw, same⟩ := h.covers v hv
    rw [← (ranked.same w v (all w (h.sublist.subset hw)) (all v hv)).mp same]
    exact List.mem_map_of_mem hw

/-- Values in another arrangement are sorted to the same texts, and as many of them count as
distinct. -/
theorem Arrangement.unique {xs ys : List Value} {m n : Nat} (arranged : vs.Perm ws)
    (hx : Arrangement vs xs m)
    (hy : Arrangement ws ys n) : xs.map plain = ys.map plain ∧ m = n := by
  have all' : ∀ v ∈ ws, p v := fun v hv => all v (arranged.mem_iff.mpr hv)
  constructor
  · have perm : (xs.map rank).Perm (ys.map rank) :=
      (hx.perm.trans (arranged.trans hy.perm.symm)).map rank
    have ranks : xs.map rank = ys.map rank :=
      perm.eq_of_pairwise (fun _ _ _ _ => le_antisymm) (ranks_ascend ranked all hx)
        (ranks_ascend ranked all' hy)
    obtain ⟨text, written⟩ := ranked.written
    have texts {vs xs : List Value} (all : ∀ v ∈ vs, p v) (perm : xs.Perm vs) :
        xs.map plain = (xs.map rank).map text := by
      rw [List.map_map]
      exact List.map_congr_left fun v hv => written v (all v (perm.mem_iff.mp hv))
    rw [texts all hx.perm, texts all' hy.perm, ranks]
  · obtain ⟨kept, choice, rfl⟩ := hx.choice
    obtain ⟨kept', choice', rfl⟩ := hy.choice
    have perm : (kept.map rank).Perm (kept'.map rank) := by
      rw [List.perm_ext_iff_of_nodup (choice.nodup_ranks ranked all)
        (choice'.nodup_ranks ranked all')]
      intro r
      rw [choice.mem_ranks_iff ranked all, choice'.mem_ranks_iff ranked all',
        (arranged.map rank).mem_iff]
    simpa only [List.length_map] using perm.length_eq

theorem exists_arrangements (arranged : vs.Perm ws) :
    ∃ xs ys count, Arrangement vs xs count ∧ Arrangement ws ys count ∧
      xs.map plain = ys.map plain := by
  obtain ⟨xs, count, hx⟩ := exists_arrangement ranked all
  obtain ⟨ys, count', hy⟩ := exists_arrangement ranked fun v hv => all v (arranged.mem_iff.mpr hv)
  obtain ⟨texts, rfl⟩ := hx.unique ranked all arranged hy
  exact ⟨xs, ys, count, hx, hy, texts⟩

end Results

end Ranked

end Value

end GroupWire
