import Mathlib
import GroupWire.Text

/-! # Texts: pieces between separators, leading runs, trimming and numerals

Splitting at a separator is the library's `List.splitOn`, so joining and splitting undo
each other. A class of characters that is closed under ASCII lowercasing is checked on the
128 code points it can hold. -/

namespace GroupWire.Text

/-! ## Pieces -/

theorem split_eq_splitOn (sep : Char) (t : Text) : t.split sep = t.splitOn sep := by
  induction t with
  | nil => simp [split]
  | cons c r ih =>
    rw [split, List.splitOn_cons_eq_if_modifyHead, ← ih]
    by_cases hc : c = sep
    · simp [hc]
    · cases hs : split sep r with
      | nil => exact absurd (ih.symm.trans hs) (List.splitOn_ne_nil sep r)
      | cons w ws => simp [hc]

@[simp] theorem split_ne_nil (sep : Char) (t : Text) : t.split sep ≠ [] := by
  simp [split_eq_splitOn]

@[simp] theorem join_split (sep : Char) (t : Text) : join [sep] (t.split sep) = t := by
  simp [split_eq_splitOn, join]

theorem split_join {sep : Char} {parts : List Text} (clean : ∀ p ∈ parts, sep ∉ p)
    (ne : parts ≠ []) : (join [sep] parts).split sep = parts := by
  rw [split_eq_splitOn, join]
  exact List.splitOn_intercalate sep clean ne

theorem split_append_cons (sep : Char) (s t : Text) :
    (s ++ sep :: t).split sep = s.split sep ++ t.split sep := by
  simp only [split_eq_splitOn]
  exact List.splitOn_append_cons_self s t

theorem split_of_not_mem {sep : Char} {t : Text} (h : sep ∉ t) : t.split sep = [t] := by
  rw [split_eq_splitOn]
  exact List.splitOn_eq_singleton h

theorem split_append_of_not_mem {sep : Char} {s : Text} (h : sep ∉ s) (t : Text) :
    (s ++ t).split sep = (t.split sep).modifyHead (s ++ ·) := by
  induction s with
  | nil => cases ht : t.split sep <;> simp [ht]
  | cons c s ih =>
    have hc : c ≠ sep := fun hc => h (by simp [hc])
    have hs : sep ∉ s := fun hs => h (by simp [hs])
    rw [List.cons_append, split, if_neg hc, ih hs]
    cases ht : t.split sep with
    | nil => exact absurd ht (split_ne_nil sep t)
    | cons w ws => rfl

/-- Characters that become texts without separators do not change where a text is cut. -/
theorem split_flatMap {sep : Char} {g : Char → Text} (same : g sep = [sep])
    (clean : ∀ c, c ≠ sep → sep ∉ g c)
    (t : Text) : split sep (t.flatMap g) = (t.split sep).map (List.flatMap g) := by
  induction t with
  | nil => rfl
  | cons c r ih =>
    by_cases hc : c = sep
    · subst hc
      simp [split, same, ih]
    · rw [List.flatMap_cons, split_append_of_not_mem (clean c hc), ih, split, if_neg hc]
      cases hr : split sep r with
      | nil => exact absurd hr (split_ne_nil sep r)
      | cons w ws => rfl

theorem join_cons_cons (sep : Char) (p q : Text) (parts : List Text) :
    join [sep] (p :: q :: parts) = p ++ sep :: join [sep] (q :: parts) := by
  simp [join, List.intercalate_cons_cons]

theorem join_cons (sep : Char) (p : Text) (parts : List Text) :
    join [sep] (p :: parts) = p ++ parts.flatMap (sep :: ·) := by
  induction parts generalizing p with
  | nil => simp [join]
  | cons q parts ih => rw [join_cons_cons, ih, List.flatMap_cons, List.cons_append]

@[simp] theorem join_singleton (sep : Char) (p : Text) : join [sep] [p] = p := by
  simp [join]

@[simp] theorem join_nil (sep : Char) : join [sep] [] = [] := by
  simp [join]

/-- What holds of a text without separators and survives gluing two texts at one holds of joined
pieces. -/
theorem join_induction {sep : Char} {motive : Text → Prop} (nil : motive [])
    (glue : ∀ s t, motive s → motive t → motive (s ++ sep :: t)) (parts : List Text)
    (each : ∀ p ∈ parts, motive p) : motive (join [sep] parts) := by
  match parts with
  | [] => simpa using nil
  | [p] => simpa using each p (by simp)
  | p :: q :: r =>
    rw [join_cons_cons]
    refine glue p _ (each p (by simp)) ?_
    exact join_induction nil glue (q :: r) fun s hs => each s (List.mem_cons_of_mem p hs)

private theorem pieces_of_split {sep : Char} (t : Text) :
    ∀ p ∈ t.split sep, sep ∉ p ∧ ∀ c ∈ p, c ∈ t := by
  induction t with
  | nil => simp [split]
  | cons c r ih =>
    intro p hp
    rw [split] at hp
    split at hp
    · rcases List.mem_cons.mp hp with rfl | hp
      · simp
      · exact ⟨(ih p hp).1, fun d hd => List.mem_cons_of_mem c ((ih p hp).2 d hd)⟩
    · rename_i hc
      cases hs : split sep r with
      | nil => exact absurd hs (split_ne_nil sep r)
      | cons w ws =>
        rw [hs] at hp
        rcases List.mem_cons.mp hp with rfl | hp
        · obtain ⟨clean, inside⟩ := ih w (by simp [hs])
          refine ⟨by simp [clean, Ne.symm hc], ?_⟩
          intro d hd
          rcases List.mem_cons.mp hd with rfl | hd
          · exact List.mem_cons_self
          · exact List.mem_cons_of_mem c (inside d hd)
        · obtain ⟨clean, inside⟩ := ih p (by simp [hs, hp])
          exact ⟨clean, fun d hd => List.mem_cons_of_mem c (inside d hd)⟩

theorem not_mem_of_mem_split {sep : Char} {t p : Text} (h : p ∈ t.split sep) : sep ∉ p :=
  (pieces_of_split t p h).1

theorem mem_of_mem_split {sep c : Char} {t p : Text} (h : p ∈ t.split sep) (hc : c ∈ p) : c ∈ t :=
  (pieces_of_split t p h).2 c hc

/-- What holds of the separator and inside every piece holds of every character. -/
theorem forall_of_split (sep : Char) {P : Char → Prop} {t : Text} (hsep : P sep)
    (each : ∀ p ∈ t.split sep, ∀ c ∈ p, P c) : ∀ c ∈ t, P c := by
  rw [← join_split sep t]
  generalize t.split sep = parts at each
  refine join_induction (by simp) ?_ parts each
  intro s r hs hr c hc
  simp only [List.mem_append, List.mem_cons] at hc
  rcases hc with hc | rfl | hc
  · exact hs c hc
  · exact hsep
  · exact hr c hc

theorem length_split (sep : Char) (t : Text) : (t.split sep).length = t.count sep + 1 := by
  induction t with
  | nil => simp [split]
  | cons c r ih =>
    rw [split]
    split
    · rename_i hc
      simp [hc, ih]
    · rename_i hc
      rw [List.count_cons_of_ne hc, ← ih]
      cases hs : split sep r with
      | nil => exact absurd hs (split_ne_nil sep r)
      | cons w ws => simp

theorem split_map {sep : Char} {f : Char → Char} (keeps : ∀ c, f c = sep ↔ c = sep) (t : Text) :
    split sep (t.map f) = (t.split sep).map (List.map f) := by
  induction t with
  | nil => simp [split]
  | cons c r ih =>
    simp only [List.map_cons, split, keeps]
    split
    · simp [ih]
    · rw [ih]
      cases split sep r <;> simp

/-! ## Leading runs -/

theorem takeWhile_append_stop {f : Char → Bool} {s t : Text} (run : ∀ c ∈ s, f c = true)
    (stop : ∀ c ∈ t.head?, f c = false) : (s ++ t).takeWhile f = s := by
  rw [List.takeWhile_append_of_pos run]
  cases t with
  | nil => simp
  | cons c r => simp [stop c (by simp)]

theorem dropWhile_append_stop {f : Char → Bool} {s t : Text} (run : ∀ c ∈ s, f c = true)
    (stop : ∀ c ∈ t.head?, f c = false) : (s ++ t).dropWhile f = t := by
  rw [List.dropWhile_append_of_pos run]
  cases t with
  | nil => simp
  | cons c r => simp [stop c (by simp)]

theorem ne_of_not_mem {sep : Char} {t : Text} (h : sep ∉ t) : ∀ c ∈ t, decide (c ≠ sep) = true := by
  intro c hc
  rw [decide_eq_true_eq]
  rintro rfl
  exact h hc

theorem not_mem_takeWhile_ne (sep : Char) (t : Text) : sep ∉ t.takeWhile (· ≠ sep) := by
  intro hm
  simpa using List.mem_takeWhile_imp hm

theorem eq_of_dropWhile_ne {sep c : Char} {t r : Text} (h : t.dropWhile (· ≠ sep) = c :: r) :
    c = sep := by
  have stop := List.head?_dropWhile_not (· ≠ sep) t
  rw [h] at stop
  simpa using stop

/-! ## Trimming, lowercasing, numerals -/

theorem trimBy_eq_self {f : Char → Bool} {t : Text} (h : ∀ c ∈ t, f c = false) :
    trimBy f t = t := by
  have whole {s : Text} (hs : ∀ c ∈ s, f c = false) : s.dropWhile f = s := by
    cases s with
    | nil => rfl
    | cons c r => simp [hs c (by simp)]
  rw [trimBy, whole h, whole (by simpa using h), List.reverse_reverse]

theorem trimBy_sublist (f : Char → Bool) (t : Text) : (trimBy f t).Sublist t := by
  have inner := (List.dropWhile_sublist f (l := (t.dropWhile f).reverse)).reverse
  rw [List.reverse_reverse] at inner
  exact inner.trans (List.dropWhile_sublist f)

/-- What ends in a character that stays shields all before it. -/
theorem rdropWhile_append {f : Char → Bool} {s : Text} (back : ∀ c ∈ s.getLast?, f c = false)
    (r : Text) : (s ++ r).rdropWhile f = s ++ r.rdropWhile f := by
  induction r using List.reverseRecOn with
  | nil =>
    rw [List.append_nil, List.rdropWhile_nil, List.append_nil, List.rdropWhile_eq_self_iff]
    intro ne
    simp [back _ (List.getLast?_eq_some_getLast ne)]
  | append_singleton r c ih =>
    rw [← List.append_assoc, List.rdropWhile_concat, List.rdropWhile_concat]
    split
    · exact ih
    · rw [List.append_assoc]

theorem rdropWhile_cons (f : Char → Bool) (c : Char) (r : Text) :
    (c :: r).rdropWhile f =
      if r.rdropWhile f = [] ∧ f c = true then [] else c :: r.rdropWhile f := by
  induction r using List.reverseRecOn with
  | nil => simp [List.rdropWhile_singleton]
  | append_singleton r d ih =>
    rw [← List.cons_append, List.rdropWhile_concat, List.rdropWhile_concat]
    split
    · exact ih
    · simp

/-- What ends in characters that go loses them whatever stands before them. -/
theorem rdropWhile_append_gone {f : Char → Bool} {t : Text} (gone : ∀ c ∈ t, f c = true)
    (s : Text) : (s ++ t).rdropWhile f = s.rdropWhile f := by
  induction t using List.reverseRecOn with
  | nil => rw [List.append_nil]
  | append_singleton t c ih =>
    rw [← List.append_assoc, List.rdropWhile_concat_pos _ _ _ (gone c (by simp))]
    exact ih fun d hd => gone d (by simp [hd])

theorem trimBy_append_front {f : Char → Bool} {s : Text} (gone : ∀ c ∈ s, f c = true) (t : Text) :
    trimBy f (s ++ t) = trimBy f t := by
  rw [trimBy, List.dropWhile_append_of_pos gone, trimBy]

/-- Only what stands behind a text that begins and ends with characters that stay is trimmed. -/
theorem trimBy_append {f : Char → Bool} {s : Text} (ne : s ≠ [])
    (front : ∀ c ∈ s.head?, f c = false) (back : ∀ c ∈ s.getLast?, f c = false)
    (r : Text) : trimBy f (s ++ r) = s ++ r.rdropWhile f := by
  obtain ⟨c, t, rfl⟩ := List.exists_cons_of_ne_nil ne
  have whole : (c :: t ++ r).dropWhile f = c :: t ++ r := by simp [front c rfl]
  rw [trimBy, whole, ← List.rdropWhile, rdropWhile_append back]

/-- What holds of the first 128 code points holds of every ASCII character. -/
theorem of_ascii {P : Char → Prop} (all : ∀ n < 128, P (Char.ofNat n)) {c : Char}
    (hc : c.toNat < 128) : P c := by
  have h := all c.toNat hc
  rwa [Char.ofNat_toNat] at h

theorem toLower_of_not_ascii {c : Char} (hc : 128 ≤ c.toNat) : c.toLower = c := by
  rw [Char.toLower, dif_neg]
  rintro ⟨_, h⟩
  have h : c.toNat ≤ 90 := UInt32.le_iff_toNat_le.mp h
  omega

/-- A class that does not tell the two cases of an ASCII letter apart. -/
theorem toLower_invariant {p : Char → Bool}
    (h : ∀ n < 128, p (Char.ofNat n).toLower = p (Char.ofNat n)) (c : Char) :
    p c.toLower = p c := by
  by_cases hc : c.toNat < 128
  · exact of_ascii (P := fun c => p c.toLower = p c) h hc
  · rw [toLower_of_not_ascii (Nat.le_of_not_lt hc)]

@[simp] theorem toLower_toLower (t : Text) : t.toLower.toLower = t.toLower := by
  simp only [toLower, List.map_map, Function.comp_def, Char.toLower_toLower_eq_toLower]

/-- Characters that are no letters stay where they are. -/
theorem toLower_eq_iff {sep : Char}
    (fixed : ∀ n < 128, (Char.ofNat n).toLower = sep ↔ Char.ofNat n = sep) (c : Char) :
    c.toLower = sep ↔ c = sep := by
  by_cases hc : c.toNat < 128
  · exact of_ascii (P := fun c => c.toLower = sep ↔ c = sep) fixed hc
  · rw [toLower_of_not_ascii (Nat.le_of_not_lt hc)]

theorem toNat_ofNat (n : Nat) : toNat 10 (ofNat n) = n := by
  have digits : ∀ c ∈ Nat.toDigits 10 n, c.isDigit = true := fun c hc =>
    Nat.isDigit_of_mem_toDigits (by decide) (by decide) hc
  have same (l : Text) (hl : ∀ c ∈ l, c.isDigit = true) (init : Nat) :
      l.foldl (fun n c => n * 10 + (if c.isDigit then c.toNat - 48 else c.toLower.toNat - 87))
        init = Nat.ofDigitChars 10 l init := by
    induction l generalizing init with
    | nil => simp
    | cons c r ih =>
      rw [List.foldl_cons, Nat.ofDigitChars_cons, ih fun d hd => hl d (List.mem_cons_of_mem c hd)]
      simp [hl c List.mem_cons_self, Nat.mul_comm]
  rw [toNat, ofNat, same _ digits, Nat.ofDigitChars_ten_toDigits]

theorem ofNat_isDigit (n : Nat) : (ofNat n).all Char.isDigit = true :=
  List.all_eq_true.mpr fun _ hc => Nat.isDigit_of_mem_toDigits (by decide) (by decide) hc

@[simp] theorem ofNat_ne_nil (n : Nat) : ofNat n ≠ [] := Nat.toDigits_ne_nil

end GroupWire.Text
