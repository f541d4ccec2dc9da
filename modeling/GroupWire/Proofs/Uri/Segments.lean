import GroupWire.Proofs.Uri.DotSegments

/-! # Segments of encoded paths

Percent-encoding works inside the segments of a path: it neither makes nor removes a slash or a row
of dots. So the segments that remain of an encoded path are those that remain of the path itself,
each encoded, and whether they begin with two slashes can be seen before anything is encoded. -/

namespace GroupWire.Uri

/-! ## Rows of dots -/

/-- Rows of dots stay as they are, and nothing else becomes one. The empty text is such a row. -/
def KeepsDots (f : Text → Text) : Prop := ∀ s w : Text, (∀ c ∈ w, c = '.') → (f s = w ↔ s = w)

theorem KeepsDots.comp {f g : Text → Text} (hf : KeepsDots f) (hg : KeepsDots g) :
    KeepsDots (f ∘ g) := by
  intro s w hw
  exact (hf (g s) w hw).trans (hg s w hw)

theorem keepsDots_upperTriplets : KeepsDots upperTriplets := by
  intro s w hw
  fun_induction upperTriplets s generalizing w with
  | case1 a b r ih =>
    refine iff_of_false ?_ ?_
    all_goals
      rintro rfl
      exact absurd (hw '%' (by simp)) (by decide)
  | case2 c r hc ih =>
    cases w with
    | nil => simp
    | cons d w => simp [ih w fun e he => hw e (by simp [he])]
  | case3 => rfl

theorem keepsDots_encode {keep : Char → Bool} (hk : keep '.' = true) :
    KeepsDots (List.flatMap (encodeChar keep)) := by
  intro s
  induction s with
  | nil => exact fun w _ => Iff.rfl
  | cons c r ih =>
    intro w hw
    rw [List.flatMap_cons]
    rcases encodeChar_shape keep c with h | ⟨hc, q, h⟩
    · rw [h, List.singleton_append]
      cases w with
      | nil => simp
      | cons d w => simp [ih w fun e he => hw e (by simp [he])]
    · -- The character is encoded, so it is no dot, and its code begins with a percent sign.
      rw [h]
      refine iff_of_false ?_ ?_
      · rintro rfl
        exact absurd (hw '%' (by simp)) (by decide)
      · rintro rfl
        have dot : c = '.' := hw c (by simp)
        rw [dot, hk] at hc
        cases hc

/-! ## Pieces of encoded texts -/

theorem split_flatMap_encodeChar {keep : Char → Bool} (hk : keep '/' = true) (t : Text) :
    Text.split '/' (t.flatMap (encodeChar keep)) =
      (t.split '/').map (List.flatMap (encodeChar keep)) := by
  refine Text.split_flatMap ?_ (fun c => slash_not_mem_encodeChar) t
  rw [encodeChar, if_pos hk]

private theorem split_cons_of_ne {c : Char} (hc : c ≠ '/') (r : Text) :
    Text.split '/' (c :: r) = (Text.split '/' r).modifyHead (c :: ·) :=
  Text.split_append_of_not_mem (s := [c]) (by simpa using hc.symm) r

theorem split_upperTriplets {ok : Char → Bool} {t : Text} (h : Encoded isHex ok t) :
    Text.split '/' (upperTriplets t) = (t.split '/').map upperTriplets := by
  induction h with
  | nil => rfl
  | @char c r hc allowed tail ih =>
    rw [upperTriplets_cons hc]
    by_cases hs : c = '/'
    · simp [Text.split, hs, ih, upperTriplets]
    · rw [split_cons_of_ne hs, split_cons_of_ne hs, ih]
      cases Text.split '/' r with
      | nil => rfl
      | cons w ws => simp [upperTriplets_cons hc]
  | @triplet a b r high low tail ih =>
    have code : Encoded isHex (fun _ => false) ['%', a, b] := .triplet high low .nil
    have before := Text.split_append_of_not_mem (slash_not_mem_of_triplets code) r
    have after := Text.split_append_of_not_mem
      (slash_not_mem_of_triplets code.upperTriplets.anyCase) (upperTriplets r)
    calc
      Text.split '/' (upperTriplets ('%' :: a :: b :: r))
          = (Text.split '/' (upperTriplets r)).modifyHead (upperTriplets ['%', a, b] ++ ·) := after
      _ = ((Text.split '/' r).modifyHead (['%', a, b] ++ ·)).map upperTriplets := by
        rw [ih]
        cases Text.split '/' r <;> rfl
      _ = (Text.split '/' ('%' :: a :: b :: r)).map upperTriplets := by rw [← before]; rfl

theorem split_encoded (t : Text) : ∃ f, KeepsDots f ∧
    Text.split '/' (upperTriplets (encode t)) = (t.split '/').map f := by
  let keep (c : Char) : Bool := isPlain c || (isEncoded t && c = '%')
  refine ⟨upperTriplets ∘ List.flatMap (encodeChar keep),
    keepsDots_upperTriplets.comp (keepsDots_encode rfl), ?_⟩
  rw [split_upperTriplets (encode_encoded t), encode, split_flatMap_encodeChar rfl, List.map_map]

theorem count_slash_encoded (t : Text) : (upperTriplets (encode t)).count '/' = t.count '/' := by
  obtain ⟨f, -, segments⟩ := split_encoded t
  have length := congrArg List.length segments
  simpa [Text.length_split] using length

/-! ## Segments that remain -/

variable {f : Text → Text} {path path' : Text}

theorem KeepsDots.nil (hf : KeepsDots f) : f [] = [] := (hf [] [] (by simp)).mpr rfl

theorem KeepsDots.eq_nil_iff (hf : KeepsDots f) (s : Text) : f s = [] ↔ s = [] := hf s [] (by simp)

private theorem keepSegment_map (hf : KeepsDots f) (kept : List Text) (s : Text) :
    keepSegment (kept.map f) (f s) = (keepSegment kept s).map f := by
  have single := hf s ['.'] (by simp)
  have double := hf s ['.', '.'] (by simp)
  simp only [keepSegment, single, double]
  split
  · rfl
  · split
    · rw [List.map_tail]
    · rfl

private theorem foldl_keepSegment_map (hf : KeepsDots f) (parts kept : List Text) :
    (parts.map f).foldl keepSegment (kept.map f) = (parts.foldl keepSegment kept).map f := by
  induction parts generalizing kept with
  | nil => rfl
  | cons p parts ih => rw [List.map_cons, List.foldl_cons, keepSegment_map hf, ih, List.foldl_cons]

/-- A path is rooted if its first piece is empty and not its only one. -/
theorem head_eq_slash_iff (path : Text) :
    path.head? = some '/' ↔ 2 ≤ (path.split '/').length ∧ (path.split '/').head? = some [] := by
  cases path with
  | nil => simp [Text.split]
  | cons c r =>
    have pieces : 0 < (Text.split '/' r).length := List.length_pos_iff.mpr (Text.split_ne_nil '/' r)
    by_cases hc : c = '/'
    · simp [Text.split, hc]
      omega
    · rw [split_cons_of_ne hc]
      cases hr : Text.split '/' r with
      | nil => exact absurd hr (Text.split_ne_nil '/' r)
      | cons w ws => simp [hc]

/-- A path ends in a segment behind a slash if that is its last piece and not its only one. -/
theorem suffix_iff {d : Text} (hd : '/' ∉ d) (path : Text) :
    ('/' :: d) <:+ path ↔ 2 ≤ (path.split '/').length ∧ (path.split '/').getLast? = some d := by
  constructor
  · rintro ⟨front, rfl⟩
    have pieces : 0 < (Text.split '/' front).length :=
      List.length_pos_iff.mpr (Text.split_ne_nil '/' front)
    rw [Text.split_append_cons, Text.split_of_not_mem hd]
    refine ⟨?_, by simp⟩
    simp only [List.length_append, List.length_singleton]
    omega
  · rintro ⟨many, last⟩
    rcases List.eq_nil_or_concat (path.split '/') with h | ⟨front, e, h⟩
    · exact absurd h (Text.split_ne_nil '/' path)
    · rw [h, List.concat_eq_append] at many last
      obtain rfl : e = d := by simpa using last
      have solid : front ≠ [] := by
        rintro rfl
        simp at many
      have clean : ∀ p ∈ front, '/' ∉ p := fun p hp =>
        Text.not_mem_of_mem_split (t := path) (by simp [h, hp])
      have same : Text.split '/' (Text.join ['/'] front ++ '/' :: e) = path.split '/' := by
        rw [Text.split_append_cons, Text.split_join clean solid, Text.split_of_not_mem hd, h,
          List.concat_eq_append]
      refine ⟨Text.join ['/'] front, ?_⟩
      rw [← Text.join_split '/' (Text.join ['/'] front ++ '/' :: e), same, Text.join_split]

section Map

variable (segments : path'.split '/' = (path.split '/').map f) (hf : KeepsDots f)

include segments hf

theorem keptSegments_map : keptSegments path' = (keptSegments path).map f := by
  have fold := foldl_keepSegment_map hf (path.split '/') []
  rw [List.map_nil] at fold
  rw [keptSegments, keptSegments, segments, fold, List.map_reverse]

private theorem frontSegment_map : frontSegment path' = (frontSegment path).map f := by
  have empty (l : List Text) : (l.map f).head? = some [] ↔ l.head? = some [] := by
    cases l <;> simp [hf.eq_nil_iff]
  have rooted : path'.head? = some '/' ↔ path.head? = some '/' := by
    rw [head_eq_slash_iff, head_eq_slash_iff, segments, empty, List.length_map]
  have kept : (keptSegments path').head? = some [] ↔ (keptSegments path).head? = some [] := by
    rw [keptSegments_map segments hf, empty]
  simp only [frontSegment, rooted, ne_eq, kept]
  split <;> simp [hf.nil]

private theorem backSegment_map : backSegment path' = (backSegment path).map f := by
  have ends {d : Text} (hd : ∀ c ∈ d, c = '.') : ('/' :: d) <:+ path' ↔ ('/' :: d) <:+ path := by
    have clean : '/' ∉ d := fun hm => absurd (hd '/' hm) (by decide)
    have last (l : List Text) : (l.map f).getLast? = some d ↔ l.getLast? = some d := by
      simp [hf _ d hd]
    rw [suffix_iff clean, suffix_iff clean, segments, last, List.length_map]
  have single := ends (d := ['.']) (by simp)
  have double := ends (d := ['.', '.']) (by simp)
  simp only [backSegment, Bool.or_eq_true, List.isSuffixOf_iff_suffix, single, double]
  split <;> simp [hf.nil]

theorem remainingSegments_map : remainingSegments path' = (remainingSegments path).map f := by
  rw [remainingSegments, remainingSegments, frontSegment_map segments hf,
    keptSegments_map segments hf, backSegment_map segments hf, List.map_append, List.map_append]

end Map

/-! ## Two slashes in front -/

private theorem slash_prefix_join {parts : List Text} (clean : ∀ s ∈ parts, '/' ∉ s)
    (h : ['/'] <+: Text.join ['/'] parts) : ∃ s r, parts = [] :: s :: r := by
  obtain ⟨t, ht⟩ := h
  match parts with
  | [] => simp at ht
  | [p] =>
    rw [Text.join_singleton] at ht
    exact absurd (by simp [← ht]) (clean p (by simp))
  | p :: s :: r =>
    rw [Text.join_cons_cons] at ht
    cases p with
    | nil => exact ⟨s, r, rfl⟩
    | cons c p =>
      obtain ⟨rfl, -⟩ := List.cons.inj ht
      exact absurd (by simp) (clean ('/' :: p) (by simp))

theorem slashes_prefix_join_iff {parts : List Text} (clean : ∀ s ∈ parts, '/' ∉ s) :
    ['/', '/'] <+: Text.join ['/'] parts ↔ ∃ s r, parts = [] :: [] :: s :: r := by
  constructor
  · intro h
    obtain ⟨q, rest, rfl⟩ := slash_prefix_join clean ((List.prefix_append ['/'] ['/']).trans h)
    rw [Text.join_cons_cons, List.nil_append, List.cons_prefix_cons] at h
    obtain ⟨s, r, hs⟩ := slash_prefix_join (fun p hp => clean p (List.mem_cons_of_mem [] hp)) h.2
    exact ⟨s, r, by rw [hs]⟩
  · rintro ⟨s, r, rfl⟩
    simp [Text.join_cons_cons]

/-- The path begins with two slashes once its dot segments are gone. -/
def IsDoubled (path : Text) : Prop := ['/', '/'] <+: removeDots path

instance (path : Text) : Decidable (IsDoubled path) := inferInstanceAs (Decidable (_ <+: _))

theorem isDoubled_iff (path : Text) :
    IsDoubled path ↔ ∃ s r, remainingSegments path = [] :: [] :: s :: r := by
  rw [IsDoubled, removeDots_eq_join,
    slashes_prefix_join_iff fun _ => slash_not_mem_remainingSegments]

theorem isDoubled_encoded_iff (path : Text) :
    IsDoubled (upperTriplets (encode path)) ↔ IsDoubled path := by
  obtain ⟨f, hf, segments⟩ := split_encoded path
  rw [isDoubled_iff, isDoubled_iff, remainingSegments_map segments hf]
  constructor
  · rintro ⟨s, r, h⟩
    obtain ⟨p, rest, hp, first, h⟩ := List.map_eq_cons_iff.mp h
    obtain ⟨q, rest, rfl, second, h⟩ := List.map_eq_cons_iff.mp h
    obtain ⟨t, rest, rfl, -⟩ := List.map_eq_cons_iff.mp h
    rw [hf.eq_nil_iff] at first second
    exact ⟨t, rest, by rw [hp, first, second]⟩
  · rintro ⟨s, r, h⟩
    exact ⟨f s, r.map f, by simp [h, hf.nil]⟩

end GroupWire.Uri
