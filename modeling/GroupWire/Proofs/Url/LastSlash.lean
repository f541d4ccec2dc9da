import GroupWire.Proofs.Url.Host

/-! # URLs without their last slash

The last slash of a text in normal form belongs to the fragment, the query or the path, and what is
left without it is in normal form. So it is read as another URL, unless the slash is the path of a
scheme that writes an empty path as a slash. -/

namespace GroupWire.Url

open Uri

/-- A scheme that writes an empty path as a slash, and nothing behind that slash. -/
def IsBareRoot (u : Url) : Prop :=
  isSpecial u.scheme = true ∧ u.path = ['/'] ∧ u.query = none ∧ u.fragment = none

instance (u : Url) : Decidable u.IsBareRoot := inferInstanceAs (Decidable (_ ∧ _))

/-- A URI loses the last slash of its text. -/
inductive IsCut : Uri → Uri → Prop
  | fragment {u : Uri} {f : Text} :
      IsCut { u with fragment := some (f ++ ['/']) } { u with fragment := some f }
  | query {u : Uri} {q : Text} (last : u.fragment = none) :
      IsCut { u with query := some (q ++ ['/']) } { u with query := some q }
  | path {u : Uri} {p : Text} (alone : u.query = none) (last : u.fragment = none) :
      IsCut { u with path := p ++ ['/'] } { u with path := p }

variable {uri cut : Uri}

namespace IsCut

theorem text_append (h : IsCut uri cut) : cut.text ++ ['/'] = uri.text := by
  cases h with
  | fragment => simp [Uri.text, Reference.fragmentPart]
  | query last => simp [Uri.text, Reference.queryPart, Reference.fragmentPart, last]
  | path alone last => simp [Uri.text, Reference.queryPart, Reference.fragmentPart, alone, last]

private theorem encoded_cut {ok : Char → Bool} {t : Text}
    (h : Uri.Encoded isCapitalHex ok (t ++ ['/'])) :
    Uri.Encoded isCapitalHex ok t := (h.cut (by decide) (by decide)).1

theorem isSource (h : IsCut uri cut) (hs : IsSource uri) : IsSource cut := by
  obtain ⟨hn, hosted⟩ := hs
  cases h with
  | @fragment u f =>
    have hf : ∀ t ∈ some f, Uri.Encoded isCapitalHex isQueryChar t := by
      rintro t ⟨⟩
      exact encoded_cut (hn.fragment _ rfl)
    exact ⟨{ hn with fragment := hf }, hosted⟩
  | @query u q last =>
    have hq : ∀ t ∈ some q, Uri.Encoded isCapitalHex isQueryChar t := by
      rintro t ⟨⟩
      exact encoded_cut (hn.query _ rfl)
    exact ⟨{ hn with query := hq }, hosted⟩
  | path =>
    exact ⟨{ hn with path := encoded_cut hn.path, noDots := hn.noDots.of_append_slash }, hosted⟩

theorem fits (h : IsCut uri cut) (hf : uri.Fits) : cut.Fits := by
  cases h with
  | fragment => exact hf
  | query => exact hf
  | @path u p alone last =>
    cases ha : u.authority with
    | none =>
      simp only [Fits, ha, Option.map_none, Reference.PathFits] at hf ⊢
      exact fun h => hf (h.trans (List.prefix_append p ['/']))
    | some a =>
      simp only [Fits, ha, Option.map_some, Reference.PathFits] at hf ⊢
      cases p with
      | nil => exact Or.inl rfl
      | cons c r => exact Or.inr (by simpa using hf)

private theorem text_ne (h : IsCut uri cut) : cut.text ≠ uri.text := by
  intro same
  have length := congrArg List.length (h.text_append.trans same.symm)
  simp at length

private theorem tidy_eq_self (h : IsCut uri cut) (tidied : tidy uri = uri)
    (solid : ¬ (isSpecial cut.scheme && cut.path.isEmpty) = true) : tidy cut = cut := by
  have authority : (tidy cut).authority = cut.authority := by
    have whole := congrArg Uri.authority tidied
    cases h <;> exact whole
  have path : tidyPath (isSpecial cut.scheme) cut.path = cut.path := if_neg solid
  calc
    tidy cut = { cut with
      authority := (tidy cut).authority, path := tidyPath (isSpecial cut.scheme) cut.path } := rfl
    _ = cut := by rw [authority, path]

private theorem path_ne_nil (tidied : tidy uri = uri) (special : isSpecial uri.scheme = true) :
    uri.path ≠ [] := by
  intro bare
  have path := congrArg Uri.path tidied
  simp [tidy, tidyPath, bare, special] at path

/-- Reading puts a slash back only as the path of a scheme that writes an empty path as one. -/
theorem text_tidy_eq_iff (h : IsCut uri cut) (tidied : tidy uri = uri) :
    (tidy cut).text = uri.text ↔
      isSpecial uri.scheme = true ∧ uri.path = ['/'] ∧ uri.query = none ∧ uri.fragment = none := by
  by_cases hb : (isSpecial cut.scheme && cut.path.isEmpty) = true
  · obtain ⟨special, hp⟩ := Bool.and_eq_true_iff.mp hb
    cases h with
    | fragment => exact (path_ne_nil tidied special (List.isEmpty_iff.mp hp)).elim
    | query => exact (path_ne_nil tidied special (List.isEmpty_iff.mp hp)).elim
    | @path u p alone last =>
      obtain rfl : p = [] := List.isEmpty_iff.mp hp
      refine iff_of_true ?_ ⟨special, rfl, alone, last⟩
      have same : tidy { u with path := [] } = tidy { u with path := [] ++ ['/'] } := by
        simp [tidy, tidyPath, show isSpecial u.scheme = true from special]
      rw [same, tidied]
  · rw [h.tidy_eq_self tidied hb]
    refine iff_of_false h.text_ne ?_
    rintro ⟨special, hp, hq, hf⟩
    cases h with
    | fragment => cases hf
    | query => cases hq
    | @path u p =>
      have bare : p = [] := by simpa using hp
      exact hb (by simp [bare, show isSpecial u.scheme = true from special])

end IsCut

private theorem exists_of_last {s t : Text} {c : Char} (hc : c ≠ '/')
    (h : (s ++ c :: t).getLast? = some '/') :
    ∃ r, t = r ++ ['/'] := by
  rcases List.eq_nil_or_concat t with rfl | ⟨r, d, rfl⟩
  · simp [hc] at h
  · have hd : d = '/' := by simpa [List.getLast?_append, List.getLast?_cons] using h
    exact ⟨r, by rw [hd, List.concat_eq_append]⟩

private theorem last_ne_slash_of_bare {scheme : Text} {authority : Option Authority}
    (hn : Uri.IsNormal ⟨scheme, authority, [], none, none⟩) :
    (Uri.text ⟨scheme, authority, [], none, none⟩).getLast? ≠ some '/' := by
  intro hl
  cases authority with
  | none =>
    simp [Uri.text, Reference.authorityPart, Reference.queryPart, Reference.fragmentPart] at hl
  | some a =>
    obtain ⟨hna, hv, -⟩ := hn.authority a rfl
    rcases List.eq_nil_or_concat a.text with h | ⟨r, d, h⟩
    · exact text_ne_nil_of_not_isVoid hv h
    · have hd : d = '/' := by
        simpa [Uri.text, Reference.authorityPart, Reference.queryPart, Reference.fragmentPart, h,
          List.getLast?_append, List.getLast?_cons] using hl
      have inside := endsAuthority_of_mem_text hna (c := d) (by simp [h])
      rw [hd] at inside
      exact absurd inside (by decide)

theorem exists_cut (hn : uri.IsNormal) (hl : uri.text.getLast? = some '/') :
    ∃ cut, IsCut uri cut := by
  obtain ⟨scheme, authority, path, query, fragment⟩ := uri
  cases fragment with
  | some f =>
    obtain ⟨g, rfl⟩ : ∃ g, f = g ++ ['/'] := by
      refine exists_of_last (s := scheme ++ ':' ::
        (Reference.authorityPart (authority.map Authority.text) ++
        (path ++ Reference.queryPart query))) (c := '#') (by decide) ?_
      simpa [Uri.text, Reference.fragmentPart] using hl
    exact ⟨_, .fragment (u := ⟨scheme, authority, path, query, none⟩)⟩
  | none =>
    cases query with
    | some q =>
      obtain ⟨r, rfl⟩ : ∃ r, q = r ++ ['/'] := by
        refine exists_of_last (s := scheme ++ ':' ::
          (Reference.authorityPart (authority.map Authority.text) ++ path))
          (c := '?') (by decide) ?_
        simpa [Uri.text, Reference.queryPart, Reference.fragmentPart] using hl
      exact ⟨_, .query (u := ⟨scheme, authority, path, none, none⟩) rfl⟩
    | none =>
      rcases List.eq_nil_or_concat path with rfl | ⟨p, d, rfl⟩
      · exact absurd hl (last_ne_slash_of_bare hn)
      · have hd : d = '/' := by
          simpa [Uri.text, Reference.queryPart, Reference.fragmentPart, List.getLast?_append,
            List.getLast?_cons] using hl
        rw [hd, List.concat_eq_append]
        exact ⟨_, .path (u := ⟨scheme, authority, p, none, none⟩) rfl rfl⟩

theorem parse_dropLast_iff (hs : IsSource uri) (formed : (ofUri uri).WellFormed)
    (hl : (ofUri uri).text.getLast? = some '/') :
    (∃ w, parse (ofUri uri).text.dropLast = .ok w ∧ w.text = (ofUri uri).text) ↔
    (ofUri uri).IsBareRoot := by
  rw [text_ofUri] at hl ⊢
  obtain ⟨cut, hc⟩ := exists_cut hs.tidy.normal hl
  have dropped : (tidy uri).text.dropLast = cut.text := by
    rw [← hc.text_append, List.dropLast_concat]
  have read : parse cut.text = .ok (ofUri cut) :=
    parse_text_of_isSource (hc.isSource hs.tidy) (hc.fits ((fits_tidy_iff uri).mpr formed))
  rw [dropped, read, IsBareRoot]
  refine Iff.trans ?_ (hc.text_tidy_eq_iff (tidy_tidy uri))
  constructor
  · rintro ⟨w, ⟨⟩, same⟩
    rwa [← text_ofUri]
  · intro same
    exact ⟨ofUri cut, rfl, by rwa [text_ofUri]⟩

end GroupWire.Url
