import GroupWire.Proofs.Uri.Encoded
import GroupWire.Uri.DotSegments

/-! # Paths without dot segments

Removing dot segments keeps a selection of the segments of a path, perhaps between two empty ones.
Hence the result has no dot segment, is left alone by a second removal, is no richer in slashes than
the path was, and is rooted whenever the path was. -/

namespace GroupWire.Uri

/-- Whether a path is the way up or the way nowhere. -/
def IsDot (s : Text) : Prop := s = ['.'] ∨ s = ['.', '.']

def NoDots (path : Text) : Prop := ∀ s ∈ path.split '/', ¬ IsDot s

/-- Such a path can stand behind an authority without running into it. -/
def IsRooted (path : Text) : Prop := path = [] ∨ path.head? = some '/'

def frontSegment (path : Text) : List Text :=
  if path.head? = some '/' ∧ (keptSegments path).head? ≠ some [] then [[]] else []

def backSegment (path : Text) : List Text :=
  if ['/', '.'].isSuffixOf path || ['/', '.', '.'].isSuffixOf path then [[]] else []

def remainingSegments (path : Text) : List Text :=
  frontSegment path ++ keptSegments path ++ backSegment path

theorem removeDots_eq_join (path : Text) :
    removeDots path = Text.join ['/'] (remainingSegments path) := by
  have slash : ['/'].isPrefixOf path = decide (path.head? = some '/') := by
    cases path <;> simp [List.isPrefixOf_cons_cons, Bool.beq_eq_decide_eq, eq_comm]
  simp [removeDots, remainingSegments, frontSegment, backSegment, slash]

/-! ## Which segments remain -/

theorem keepSegment_of_not_isDot {s : Text} (h : ¬ IsDot s) (kept : List Text) :
    keepSegment kept s = s :: kept := by
  rw [IsDot, not_or] at h
  rw [keepSegment, if_neg h.1, if_neg h.2]

private theorem mem_foldl_keepSegment {s : Text} (parts kept : List Text)
    (h : s ∈ parts.foldl keepSegment kept) :
    s ∈ kept ∨ s ∈ parts ∧ ¬ IsDot s := by
  induction parts generalizing kept with
  | nil => exact Or.inl h
  | cons p parts ih =>
    rcases ih (keepSegment kept p) h with hs | ⟨hs, hd⟩
    · rw [keepSegment] at hs
      split at hs
      · exact Or.inl hs
      · split at hs
        · exact Or.inl (List.mem_of_mem_tail hs)
        · rename_i h1 h2
          rcases List.mem_cons.mp hs with rfl | hs
          · exact Or.inr ⟨by simp, by simp [IsDot, h1, h2]⟩
          · exact Or.inl hs
    · exact Or.inr ⟨by simp [hs], hd⟩

theorem mem_keptSegments {s path : Text} (h : s ∈ keptSegments path) :
    s ∈ path.split '/' ∧ ¬ IsDot s := by
  rw [keptSegments, List.mem_reverse] at h
  simpa using mem_foldl_keepSegment _ _ h

private theorem eq_nil_of_mem_frontSegment {s path : Text} (h : s ∈ frontSegment path) :
    s = [] := by
  rw [frontSegment] at h
  split at h <;> simp_all

private theorem eq_nil_of_mem_backSegment {s path : Text} (h : s ∈ backSegment path) : s = [] := by
  rw [backSegment] at h
  split at h <;> simp_all

theorem mem_remainingSegments {s path : Text} (h : s ∈ remainingSegments path) :
    s = [] ∨ s ∈ path.split '/' ∧ ¬ IsDot s := by
  simp only [remainingSegments, List.mem_append] at h
  rcases h with (h | h) | h
  · exact Or.inl (eq_nil_of_mem_frontSegment h)
  · exact Or.inr (mem_keptSegments h)
  · exact Or.inl (eq_nil_of_mem_backSegment h)

private theorem not_isDot_nil : ¬ IsDot [] := by simp [IsDot]

theorem slash_not_mem_remainingSegments {s path : Text} (h : s ∈ remainingSegments path) :
    '/' ∉ s := by
  rcases mem_remainingSegments h with rfl | ⟨hs, -⟩
  · simp
  · exact Text.not_mem_of_mem_split hs

theorem noDots_removeDots (path : Text) : NoDots (removeDots path) := by
  intro s hs
  rw [removeDots_eq_join] at hs
  by_cases hr : remainingSegments path = []
  · rw [hr] at hs
    obtain rfl : s = [] := by simpa [Text.split] using hs
    exact not_isDot_nil
  · rw [Text.split_join (fun _ => slash_not_mem_remainingSegments) hr] at hs
    rcases mem_remainingSegments hs with rfl | ⟨-, hd⟩
    · exact not_isDot_nil
    · exact hd

theorem Encoded.removeDots {hex ok : Char → Bool} {path : Text} (hx : hex '/' = false)
    (ho : ok '/' = true) (h : Encoded hex ok path) : Encoded hex ok (removeDots path) := by
  rw [removeDots_eq_join]
  refine Encoded.join (by decide) ho fun s hs => ?_
  rcases mem_remainingSegments hs with rfl | ⟨hs, -⟩
  · exact .nil
  · exact h.of_mem_split (by decide) hx s hs

/-! ## Paths without dot segments are left alone -/

private theorem foldl_keepSegment_of_noDots (parts kept : List Text) (h : ∀ s ∈ parts, ¬ IsDot s) :
    parts.foldl keepSegment kept = parts.reverse ++ kept := by
  induction parts generalizing kept with
  | nil => rfl
  | cons p parts ih =>
    rw [List.foldl_cons, keepSegment_of_not_isDot (h p (by simp)),
      ih _ fun s hs => h s (by simp [hs])]
    simp

theorem keptSegments_of_noDots {path : Text} (h : NoDots path) :
    keptSegments path = path.split '/' := by
  rw [keptSegments, foldl_keepSegment_of_noDots _ _ h]
  simp

private theorem mem_split_of_suffix {path s : Text} (hs : '/' ∉ s) (h : ('/' :: s) <:+ path) :
    s ∈ path.split '/' := by
  obtain ⟨front, rfl⟩ := h
  rw [Text.split_append_cons, Text.split_of_not_mem hs]
  simp

private theorem head_split_of_slash {path : Text} (h : path.head? = some '/') :
    (path.split '/').head? = some [] := by
  cases path with
  | nil => simp at h
  | cons c r =>
    obtain rfl : c = '/' := by simpa using h
    simp [Text.split]

theorem removeDots_eq_self {path : Text} (h : NoDots path) : removeDots path = path := by
  have front : frontSegment path = [] := by
    rw [frontSegment, if_neg]
    rintro ⟨hp, hk⟩
    rw [keptSegments_of_noDots h] at hk
    exact hk (head_split_of_slash hp)
  have back : backSegment path = [] := by
    rw [backSegment, if_neg]
    simp only [Bool.or_eq_true, List.isSuffixOf_iff_suffix, not_or]
    constructor
    · intro hs
      exact h _ (mem_split_of_suffix (by decide) hs) (Or.inl rfl)
    · intro hs
      exact h _ (mem_split_of_suffix (by decide) hs) (Or.inr rfl)
  rw [removeDots_eq_join, remainingSegments, front, back, keptSegments_of_noDots h]
  simp

theorem NoDots.of_append_slash {path : Text} (h : NoDots (path ++ ['/'])) : NoDots path := by
  intro s hs
  refine h s ?_
  rw [Text.split_append_cons]
  exact List.mem_append_left _ hs

/-! ## Rooted paths -/

private theorem isRooted_join_iff {parts : List Text} (clean : ∀ s ∈ parts, '/' ∉ s) :
    IsRooted (Text.join ['/'] parts) ↔ ∀ s ∈ parts.head?, s = [] := by
  match parts with
  | [] => simp [IsRooted]
  | [s] =>
    have hs : '/' ∉ s := clean s (by simp)
    cases s with
    | nil => simp [IsRooted]
    | cons c r =>
      have hc : c ≠ '/' := fun h => hs (by simp [h])
      simp [IsRooted, hc]
  | s :: t :: r =>
    have hs : '/' ∉ s := clean s (by simp)
    rw [Text.join_cons_cons]
    cases s with
    | nil => simp [IsRooted]
    | cons c r =>
      have hc : c ≠ '/' := fun h => hs (by simp [h])
      simp [IsRooted, hc]

theorem isRooted_removeDots_iff (path : Text) :
    IsRooted (removeDots path) ↔
      path.head? = some '/' ∨ ∀ s ∈ (keptSegments path).head?, s = [] := by
  rw [removeDots_eq_join,
    isRooted_join_iff fun _ => slash_not_mem_remainingSegments, remainingSegments]
  have back : ∀ s ∈ (backSegment path).head?, s = [] := fun s hs =>
    eq_nil_of_mem_backSegment (List.mem_of_mem_head? hs)
  by_cases hp : path.head? = some '/'
  · by_cases hk : (keptSegments path).head? = some []
    · cases hks : keptSegments path <;> simp_all [frontSegment]
    · simp [frontSegment, hp, hk]
  · have front : frontSegment path = [] := by simp [frontSegment, hp]
    rw [front]
    cases hk : keptSegments path with
    | nil => simpa [hp] using back
    | cons k ks => simp [hp]

/-! ## Slashes -/

private theorem length_keepSegment_le (kept : List Text) (s : Text) :
    (keepSegment kept s).length ≤ kept.length + 1 := by
  rw [keepSegment]
  split
  · omega
  · split
    · simp only [List.length_tail]
      omega
    · simp

private theorem length_keepSegment_of_isDot {s : Text} (h : IsDot s) (kept : List Text) :
    (keepSegment kept s).length ≤ kept.length := by
  rcases h with rfl | rfl <;> simp [keepSegment]

private theorem length_foldl_keepSegment_le (parts kept : List Text) :
    (parts.foldl keepSegment kept).length ≤ kept.length + parts.length := by
  induction parts generalizing kept with
  | nil => simp
  | cons p parts ih =>
    have h := ih (keepSegment kept p)
    have hp := length_keepSegment_le kept p
    simp only [List.foldl_cons, List.length_cons]
    omega

/-- Of `n` segments, the first an empty one, either the first is still there, or some
`..` took it and itself away. -/
private def FrontKept (kept : List Text) (n : Nat) : Prop :=
  kept.getLast? = some [] ∨ kept.length + 2 ≤ n

private theorem getLast_tail {kept : List Text} (h : kept.getLast? = some []) :
    kept.tail.getLast? = some [] ∨ kept.tail = [] := by
  match kept with
  | [] => simp at h
  | [s] => exact Or.inr rfl
  | s :: t :: r => exact Or.inl (by simpa [List.getLast?_cons_cons] using h)

private theorem frontKept_keepSegment {kept : List Text} {n : Nat} (h : FrontKept kept n)
    (hn : 1 ≤ n) (s : Text) : FrontKept (keepSegment kept s) (n + 1) := by
  rw [keepSegment]
  split
  · exact h.imp_right fun h => by omega
  · split
    · rcases h with h | h
      · rcases getLast_tail h with h | h
        · exact Or.inl h
        · exact Or.inr (by simp [h]; omega)
      · exact Or.inr (by simp only [List.length_tail]; omega)
    · rcases h with h | h
      · cases kept with
        | nil => simp at h
        | cons k kept => exact Or.inl (by simpa [List.getLast?_cons_cons] using h)
      · exact Or.inr (by simp only [List.length_cons]; omega)

private theorem frontKept_foldl (parts : List Text) {kept : List Text} {n : Nat}
    (h : FrontKept kept n) (hn : 1 ≤ n) :
    FrontKept (parts.foldl keepSegment kept) (n + parts.length) := by
  induction parts generalizing kept n with
  | nil => exact h
  | cons p parts ih =>
    have h := ih (frontKept_keepSegment h hn p) (by omega)
    simpa only [List.foldl_cons, List.length_cons, Nat.add_assoc, Nat.add_comm 1] using h

private theorem length_keptSegments_of_front {path : Text} (hp : path.head? = some '/')
    (hk : (keptSegments path).head? ≠ some []) :
    (keptSegments path).length + 2 ≤ (path.split '/').length := by
  obtain ⟨r, hr⟩ : ∃ r, path.split '/' = [] :: r := by
    have h := head_split_of_slash hp
    cases hs : path.split '/' with
    | nil => simp [hs] at h
    | cons s r => exact ⟨r, by simpa [hs] using h⟩
  have h : FrontKept (r.foldl keepSegment [[]]) (1 + r.length) :=
    frontKept_foldl r (Or.inl rfl) (Nat.le_refl 1)
  rw [keptSegments, hr, List.head?_reverse] at hk
  rw [keptSegments, hr, List.length_reverse, List.length_cons]
  rcases h with h | h
  · exact absurd h hk
  · have hn : keepSegment [] [] = [[]] := rfl
    rw [List.foldl_cons, hn]
    omega

private theorem length_keptSegments_of_dot {path front d : Text} (hs : '/' ∉ d) (hd : IsDot d)
    (h : front ++ '/' :: d = path) : (keptSegments path).length + 1 ≤ (path.split '/').length := by
  rw [keptSegments, ← h, Text.split_append_cons, Text.split_of_not_mem hs, List.foldl_append,
    List.length_reverse]
  have hk := length_keepSegment_of_isDot hd ((front.split '/').foldl keepSegment [])
  have hf := length_foldl_keepSegment_le (front.split '/') []
  simp only [List.foldl_cons, List.foldl_nil, List.length_append, List.length_singleton,
    List.length_nil] at hk hf ⊢
  omega

/-- The two empty segments that may be added make up for segments that were taken away. -/
theorem length_remainingSegments_le (path : Text) :
    (remainingSegments path).length ≤ (path.split '/').length := by
  have whole : (keptSegments path).length ≤ (path.split '/').length := by
    simpa [keptSegments] using length_foldl_keepSegment_le (path.split '/') []
  have back : (keptSegments path).length + (backSegment path).length ≤ (path.split '/').length := by
    rw [backSegment]
    split
    · rename_i hb
      simp only [Bool.or_eq_true, List.isSuffixOf_iff_suffix] at hb
      rcases hb with ⟨front, hb⟩ | ⟨front, hb⟩
      · exact length_keptSegments_of_dot (by decide) (Or.inl rfl) hb
      · exact length_keptSegments_of_dot (by decide) (Or.inr rfl) hb
    · exact whole
  have one : (backSegment path).length ≤ 1 := by
    rw [backSegment]
    split <;> simp
  simp only [remainingSegments, List.length_append]
  rw [frontSegment]
  split
  · rename_i hf
    have front := length_keptSegments_of_front hf.1 hf.2
    simp only [List.length_singleton]
    omega
  · simp only [List.length_nil]
    omega

theorem count_slash_removeDots_le (path : Text) : (removeDots path).count '/' ≤ path.count '/' := by
  have h := length_remainingSegments_le path
  rw [Text.length_split] at h
  rw [removeDots_eq_join]
  by_cases hr : remainingSegments path = []
  · simp [hr]
  · have hs := Text.length_split '/' (Text.join ['/'] (remainingSegments path))
    rw [Text.split_join (fun _ => slash_not_mem_remainingSegments) hr] at hs
    omega

end GroupWire.Uri
