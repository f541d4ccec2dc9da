import GroupWire.Proofs.Uri.Reference

/-! # Triplets in either case

A reference may write the digits of its triplets small or as capitals. Encoding keeps them as
they are and normalization makes capitals of them, so two parts that differ in nothing else
become the same part, and trimming the reference or ending its fragment with the line takes
the same characters from both. -/

namespace GroupWire.Uri

/-- Every percent sign of either text begins a triplet, and only the case of the triplets' digits
differs. -/
inductive SameTriplets : Text → Text → Prop where
  | nil : SameTriplets [] []
  | char {c r r'} (hc : c ≠ '%') (tail : SameTriplets r r') : SameTriplets (c :: r) (c :: r')
  | triplet {a b a' b' r r'} (high : isHex a = true) (low : isHex b = true)
      (high' : a'.toLower = a.toLower) (low' : b'.toLower = b.toLower)
      (tail : SameTriplets r r') : SameTriplets ('%' :: a :: b :: r) ('%' :: a' :: b' :: r')

theorem isHex_of_toLower_eq {a a' : Char} (h : isHex a = true) (same : a'.toLower = a.toLower) :
    isHex a' = true := by
  have invariant (c : Char) : isHex c.toLower = isHex c := Text.toLower_invariant (by decide) c
  rw [← invariant, same, invariant, h]

private theorem toUpper_of_toLower_eq {a a' : Char} (same : a'.toLower = a.toLower) :
    a'.toUpper = a.toUpper := by
  rw [← Char.toUpper_toLower_eq_toUpper, same, Char.toUpper_toLower_eq_toUpper]

namespace SameTriplets

variable {s t : Text} {f : Char → Bool}

theorem eq_nil_iff (h : SameTriplets s t) : s = [] ↔ t = [] := by
  cases h <;> simp

theorem mem_iff (h : SameTriplets s t) {c : Char} (hc : isHex c = false) : c ∈ s ↔ c ∈ t := by
  have other {d : Char} (hd : isHex d = true) : c ≠ d := by
    rintro rfl
    simp [hc] at hd
  induction h with
  | nil => rfl
  | char _ _ ih => simp only [List.mem_cons, ih]
  | triplet high low high' low' _ ih =>
    simp only [List.mem_cons, ih, other high, other low, other (isHex_of_toLower_eq high high'),
      other (isHex_of_toLower_eq low low'), false_or]

theorem head_eq_iff (h : SameTriplets s t) {c : Char} : s.head? = some c ↔ t.head? = some c := by
  cases h <;> rfl

theorem takeWhile (h : SameTriplets s t) (percent : f '%' = true)
    (hex : ∀ c, isHex c = true → f c = true) :
    SameTriplets (s.takeWhile f) (t.takeWhile f) := by
  induction h with
  | nil => exact .nil
  | @char c r r' hc _ ih =>
    by_cases hf : f c = true
    · rw [List.takeWhile_cons_of_pos hf, List.takeWhile_cons_of_pos hf]
      exact .char hc ih
    · rw [List.takeWhile_cons_of_neg hf, List.takeWhile_cons_of_neg hf]
      exact .nil
  | triplet high low high' low' _ ih =>
    have step {a b : Char} (ha : isHex a = true) (hb : isHex b = true) (r : Text) :
        ('%' :: a :: b :: r).takeWhile f = '%' :: a :: b :: r.takeWhile f := by
      simp [percent, hex a ha, hex b hb]
    rw [step high low, step (isHex_of_toLower_eq high high') (isHex_of_toLower_eq low low')]
    exact .triplet high low high' low' ih

theorem rdropWhile (h : SameTriplets s t) (percent : f '%' = false)
    (hex : ∀ c, isHex c = true → f c = false) :
    SameTriplets (s.rdropWhile f) (t.rdropWhile f) := by
  induction h with
  | nil => exact .nil
  | @char c r r' hc _ ih =>
    simp only [Text.rdropWhile_cons, ih.eq_nil_iff]
    split
    · exact .nil
    · exact .char hc ih
  | triplet high low high' low' _ ih =>
    have step {a b : Char} (ha : isHex a = true) (hb : isHex b = true) (r : Text) :
        ('%' :: a :: b :: r).rdropWhile f = '%' :: a :: b :: r.rdropWhile f := by
      simp [Text.rdropWhile_cons, percent, hex a ha, hex b hb]
    rw [step high low, step (isHex_of_toLower_eq high high') (isHex_of_toLower_eq low low')]
    exact .triplet high low high' low' ih

private theorem encoded (h : SameTriplets s t) :
    Encoded isHex (fun _ => true) s ∧ Encoded isHex (fun _ => true) t := by
  induction h with
  | nil => exact ⟨.nil, .nil⟩
  | char hc _ ih => exact ⟨.char hc rfl ih.1, .char hc rfl ih.2⟩
  | triplet high low high' low' _ ih =>
    exact ⟨.triplet high low ih.1,
      .triplet (isHex_of_toLower_eq high high') (isHex_of_toLower_eq low low') ih.2⟩

theorem of_encoded {ok : Char → Bool} (h : Encoded isHex ok t) :
    SameTriplets t (upperTriplets t) := by
  induction h with
  | nil => exact .nil
  | char hc _ _ ih =>
    rw [upperTriplets_cons hc]
    exact .char hc ih
  | triplet high low _ ih =>
    exact .triplet high low (Char.toLower_toUpper_eq_toLower _)
      (Char.toLower_toUpper_eq_toLower _) ih

theorem upperTriplets_encode (h : SameTriplets s t) :
    upperTriplets (encode s) = upperTriplets (encode t) := by
  rw [encode_of_isEncoded (isEncoded_of_encoded h.encoded.1),
    encode_of_isEncoded (isEncoded_of_encoded h.encoded.2)]
  induction h with
  | nil => rfl
  | @char c r r' hc _ ih =>
    rw [List.flatMap_cons, List.flatMap_cons]
    exact upperTriplets_encodeChar_append (by simp [hc]) ih
  | @triplet a b a' b' r r' high low high' low' _ ih =>
    have kept {d : Char} (hd : isHex d = true) :
        encodeChar (fun c => isPlain c || c = '%') d = [d] := by
      simp [encodeChar, isPlain_of_isHex hd]
    have percent : encodeChar (fun c => isPlain c || c = '%') '%' = ['%'] := by rfl
    simp only [List.flatMap_cons, percent, kept high, kept low,
      kept (isHex_of_toLower_eq high high'), kept (isHex_of_toLower_eq low low'), List.cons_append,
      List.nil_append, upperTriplets, ih, toUpper_of_toLower_eq high', toUpper_of_toLower_eq low']

end SameTriplets

/-- A part as it stands, or with the digits of its triplets in another case. -/
def RespelledPart (s t : Text) : Prop := s = t ∨ SameTriplets s t

namespace RespelledPart

variable {s t : Text} {f : Char → Bool}

theorem mem_iff (h : RespelledPart s t) {c : Char} (hc : isHex c = false) : c ∈ s ↔ c ∈ t := by
  rcases h with rfl | h
  · rfl
  · exact h.mem_iff hc

theorem head_eq_iff (h : RespelledPart s t) {c : Char} : s.head? = some c ↔ t.head? = some c := by
  rcases h with rfl | h
  · rfl
  · exact h.head_eq_iff

theorem eq_nil_iff (h : RespelledPart s t) : s = [] ↔ t = [] := by
  rcases h with rfl | h
  · rfl
  · exact h.eq_nil_iff

theorem takeWhile (h : RespelledPart s t) (percent : f '%' = true)
    (hex : ∀ c, isHex c = true → f c = true) :
    RespelledPart (s.takeWhile f) (t.takeWhile f) :=
  h.imp (congrArg (List.takeWhile f)) fun h => h.takeWhile percent hex

theorem rdropWhile (h : RespelledPart s t) (percent : f '%' = false)
    (hex : ∀ c, isHex c = true → f c = false) :
    RespelledPart (s.rdropWhile f) (t.rdropWhile f) :=
  h.imp (congrArg (List.rdropWhile f)) fun h => h.rdropWhile percent hex

theorem upperTriplets_encode (h : RespelledPart s t) :
    upperTriplets (encode s) = upperTriplets (encode t) := by
  rcases h with rfl | h
  · rfl
  · exact h.upperTriplets_encode

end RespelledPart

/-! ## What stands behind an authority -/

open Reference

def restText (path : Text) (query fragment : Option Text) : Text :=
  path ++ (queryPart query ++ fragmentPart fragment)

/-- Parts that are found where they were put: the path is empty or starts with a slash, and no
delimiter of a later part occurs in an earlier one. -/
structure AreParts (path : Text) (query : Option Text) : Prop where
  rooted : path = [] ∨ path.head? = some '/'
  path : ∀ c ∈ path, endsPath c = false
  query : ∀ q ∈ query, '#' ∉ q

/-- The rests of two references whose parts differ in the case of triplets' digits, if at all. -/
inductive RespelledRest : Text → Text → Prop where
  | parts {path path' : Text} {query query' fragment fragment' : Option Text}
      (parts : AreParts path query)
      (hpath : RespelledPart path path') (hquery : Option.Rel RespelledPart query query')
      (hfragment : Option.Rel RespelledPart fragment fragment') :
      RespelledRest (restText path query fragment) (restText path' query' fragment')

private theorem endsPath_of_isHex {c : Char} (h : isHex c = true) : endsPath c = false :=
  of_plain (P := fun c => isHex c = true → endsPath c = false) (by decide) (isPlain_of_isHex h) h

private theorem isBlank_of_isHex {c : Char} (h : isHex c = true) : Text.isBlank c = false :=
  of_plain (P := fun c => isHex c = true → Text.isBlank c = false) (by decide)
    (isPlain_of_isHex h) h

private theorem ne_lineFeed_of_isHex (c : Char) (h : isHex c = true) :
    decide (c ≠ '\n') = true := by
  rw [decide_eq_true_eq]
  rintro rfl
  exact absurd h (by decide)

variable {path path' : Text} {query query' fragment fragment' : Option Text}

theorem AreParts.respelled (h : AreParts path query) (hpath : RespelledPart path path')
    (hquery : Option.Rel RespelledPart query query') : AreParts path' query' where
  rooted := h.rooted.imp hpath.eq_nil_iff.mp hpath.head_eq_iff.mp
  path := by
    intro c hc
    by_cases hx : isHex c = true
    · exact endsPath_of_isHex hx
    · exact h.path c ((hpath.mem_iff (by simpa using hx)).mpr hc)
  query := by
    intro q hq
    cases hquery with
    | none => simp at hq
    | @some q₀ q₁ same =>
      obtain rfl : q₁ = q := Option.some.inj hq
      exact fun hm => h.query q₀ rfl ((same.mem_iff (by decide)).mpr hm)

theorem head_restText (h : AreParts path query) (fragment : Option Text) :
    ∀ c ∈ (restText path query fragment).head?, c = '/' ∨ c = '?' ∨ c = '#' := by
  intro c hc
  cases path with
  | nil => exact Or.inr (head_queryPart query fragment c hc)
  | cons d path =>
    have slash : d = '/' := by simpa using h.rooted
    have first : d = c := by simpa [restText] using hc
    exact Or.inl (first.symm.trans slash)

theorem mem_restText_iff {c : Char} (delimiter : c ≠ '?' ∧ c ≠ '#') :
    c ∈ restText path query fragment ↔ c ∈ path ∨ (∃ q ∈ query, c ∈ q) ∨ ∃ f ∈ fragment, c ∈ f := by
  cases query <;> cases fragment <;> simp [restText, queryPart, fragmentPart, delimiter]

private theorem exists_mem_iff {o o' : Option Text} (h : Option.Rel RespelledPart o o') {c : Char}
    (hc : isHex c = false) : (∃ t ∈ o, c ∈ t) ↔ ∃ t ∈ o', c ∈ t := by
  cases h with
  | none => simp
  | some same => simpa using same.mem_iff hc

private theorem normal_eq {o o' : Option Text} (h : Option.Rel RespelledPart o o') :
    o.map (upperTriplets ∘ encode) = o'.map (upperTriplets ∘ encode) := by
  cases h with
  | none => rfl
  | some same => exact congrArg some same.upperTriplets_encode

/-! ### Finding the parts -/

private theorem exists_query (r : Text) : ∃ q f, '#' ∉ q ∧ r = q ++ fragmentPart f := by
  have glued : r.takeWhile (· ≠ '#') ++ r.dropWhile (· ≠ '#') = r := List.takeWhile_append_dropWhile
  have clean := Text.not_mem_takeWhile_ne '#' r
  cases hd : r.dropWhile (· ≠ '#') with
  | nil =>
    rw [hd] at glued
    exact ⟨_, none, clean, glued.symm⟩
  | cons c f =>
    obtain rfl := Text.eq_of_dropWhile_ne hd
    rw [hd] at glued
    exact ⟨_, some f, clean, glued.symm⟩

/-- Whatever is empty or begins with a delimiter is made up of parts. -/
theorem exists_parts {rest : Text} (front : ∀ c ∈ rest.head?, c = '/' ∨ c = '?' ∨ c = '#') :
    ∃ path query fragment, AreParts path query ∧ rest = restText path query fragment := by
  have glued : pathOf rest ++ rest.dropWhile (!endsPath ·) = rest := List.takeWhile_append_dropWhile
  have inside : ∀ c ∈ pathOf rest, endsPath c = false := by
    intro c hc
    simpa using List.mem_takeWhile_imp hc
  have rooted : pathOf rest = [] ∨ (pathOf rest).head? = some '/' := by
    cases rest with
    | nil => exact Or.inl rfl
    | cons c r =>
      rcases front c rfl with rfl | rfl | rfl
      · exact Or.inr rfl
      · exact Or.inl rfl
      · exact Or.inl rfl
  cases hd : rest.dropWhile (!endsPath ·) with
  | nil =>
    rw [hd] at glued
    exact ⟨_, none, none, ⟨rooted, inside, by simp⟩, glued.symm⟩
  | cons c r =>
    rw [hd] at glued
    have stop := List.head?_dropWhile_not (!endsPath ·) rest
    simp only [hd, List.head?_cons] at stop
    have ends : c = '?' ∨ c = '#' := by simpa [endsPath, Decidable.or_iff_not_imp_left] using stop
    rcases ends with rfl | rfl
    · obtain ⟨q, f, clean, rfl⟩ := exists_query r
      exact ⟨_, some q, f, ⟨rooted, inside, by simpa using clean⟩, glued.symm⟩
    · exact ⟨_, none, some r, ⟨rooted, inside, by simp⟩, glued.symm⟩

theorem RespelledRest.refl {rest : Text} (front : ∀ c ∈ rest.head?, c = '/' ∨ c = '?' ∨ c = '#') :
    RespelledRest rest rest := by
  have part (t : Text) : RespelledPart t t := Or.inl rfl
  have optional (o : Option Text) : Option.Rel RespelledPart o o := by
    cases o with
    | none => exact .none
    | some t => exact .some (part t)
  obtain ⟨path, query, fragment, parts, rfl⟩ := exists_parts front
  exact .parts parts (part path) (optional query) (optional fragment)

/-! ### Trimming -/

private theorem rdropWhile_behind (s t : Text) {c : Char} (hc : Text.isBlank c = false) :
    (s ++ c :: t).rdropWhile Text.isBlank = s ++ c :: t.rdropWhile Text.isBlank := by
  have glue (r : Text) : s ++ c :: r = (s ++ [c]) ++ r := by simp
  rw [glue t, Text.rdropWhile_append (by simpa using hc), ← glue]

private theorem trim_fragment (p f : Text) (q : Option Text) :
    (restText p q (some f)).rdropWhile Text.isBlank =
      restText p q (some (f.rdropWhile Text.isBlank)) := by
  have glue (r : Text) : restText p q (some r) = (p ++ queryPart q) ++ '#' :: r := by
    simp [restText, fragmentPart]
  rw [glue, rdropWhile_behind _ _ (by decide), ← glue]

private theorem trim_query (p q : Text) :
    (restText p (some q) none).rdropWhile Text.isBlank =
      restText p (some (q.rdropWhile Text.isBlank)) none := by
  have glue (r : Text) : restText p (some r) none = p ++ '?' :: r := by
    simp [restText, queryPart, fragmentPart]
  rw [glue, rdropWhile_behind _ _ (by decide), ← glue]

private theorem trim_path (p : Text) :
    (restText p none none).rdropWhile Text.isBlank =
      restText (p.rdropWhile Text.isBlank) none none := by
  simp [restText, queryPart, fragmentPart]

theorem AreParts.trim_query {q : Text} (h : AreParts path (some q)) :
    AreParts path (some (q.rdropWhile Text.isBlank)) := by
  refine ⟨h.rooted, h.path, ?_⟩
  rintro t ⟨⟩ hm
  exact h.query q rfl ((List.rdropWhile_prefix _ _).subset hm)

theorem AreParts.trim_path (h : AreParts path none) :
    AreParts (path.rdropWhile Text.isBlank) none := by
  refine ⟨?_, fun c hc => h.path c ((List.rdropWhile_prefix _ _).subset hc), by simp⟩
  cases path with
  | nil => exact Or.inl rfl
  | cons c p =>
    have slash : c = '/' := by simpa using h.rooted
    have stays : Text.isBlank '/' = false := by decide
    simp [Text.rdropWhile_cons, slash, stays]

namespace RespelledRest

variable {rest rest' : Text}

theorem head (h : RespelledRest rest rest') :
    (∀ c ∈ rest.head?, c = '/' ∨ c = '?' ∨ c = '#') ∧
      ∀ c ∈ rest'.head?, c = '/' ∨ c = '?' ∨ c = '#' := by
  cases h with
  | parts parts hpath hquery hfragment =>
    exact ⟨head_restText parts _, head_restText (parts.respelled hpath hquery) _⟩

theorem null_mem_iff (h : RespelledRest rest rest') : '\x00' ∈ rest ↔ '\x00' ∈ rest' := by
  cases h with
  | parts parts hpath hquery hfragment =>
    rw [mem_restText_iff (by decide), mem_restText_iff (by decide), hpath.mem_iff (by decide),
      exists_mem_iff hquery (by decide), exists_mem_iff hfragment (by decide)]

/-- Trimming cuts the last of the parts that are there. -/
theorem trim (h : RespelledRest rest rest') :
    RespelledRest (rest.rdropWhile Text.isBlank) (rest'.rdropWhile Text.isBlank) := by
  have kept {s t : Text} (same : RespelledPart s t) :
      RespelledPart (s.rdropWhile Text.isBlank) (t.rdropWhile Text.isBlank) :=
    same.rdropWhile (by decide) fun _ => isBlank_of_isHex
  cases h with
  | parts parts hpath hquery hfragment =>
    cases hfragment with
    | some same =>
      rw [trim_fragment, trim_fragment]
      exact .parts parts hpath hquery (.some (kept same))
    | none =>
      cases hquery with
      | some same =>
        rw [trim_query, trim_query]
        exact .parts parts.trim_query hpath (.some (kept same)) .none
      | none =>
        rw [trim_path, trim_path]
        exact .parts parts.trim_path (kept hpath) .none .none

/-- Both rests have the same parts once these are encoded and their triplets are in capitals. -/
theorem normal_parts_eq (h : RespelledRest rest rest') :
    upperTriplets (encode (pathOf rest)) = upperTriplets (encode (pathOf rest')) ∧
      (queryOf rest).map (upperTriplets ∘ encode) = (queryOf rest').map (upperTriplets ∘ encode) ∧
      (fragmentOf rest).map (upperTriplets ∘ encode) =
      (fragmentOf rest').map (upperTriplets ∘ encode) := by
  cases h with
  | @parts path path' query query' fragment fragment' parts hpath hquery hfragment =>
    have parts' := parts.respelled hpath hquery
    -- A fragment ends with its line, and no triplet holds the end of one.
    have lines : Option.Rel RespelledPart (fragment.map (List.takeWhile (· ≠ '\n')))
        (fragment'.map (List.takeWhile (· ≠ '\n'))) := by
      cases hfragment with
      | none => exact .none
      | some same => exact .some (same.takeWhile (by decide) ne_lineFeed_of_isHex)
    rw [restText, restText, pathOf_glued parts.path, pathOf_glued parts'.path,
      queryOf_glued parts.path _ parts.query, queryOf_glued parts'.path _ parts'.query,
      fragmentOf_glued parts.path _ parts.query, fragmentOf_glued parts'.path _ parts'.query]
    exact ⟨hpath.upperTriplets_encode, normal_eq hquery, normal_eq lines⟩

end RespelledRest

end GroupWire.Uri
