import GroupWire.Proofs.Uri.Segments
import GroupWire.Proofs.Url.Host

/-! # URLs without a host

The path of such a URL stands right behind the colon. It has no more slashes than the path it comes
from, and if it begins with two of them, which removing dot segments may bring together, its text is
read as that of a URL with an authority. -/

namespace GroupWire.Url

open Uri

variable {raw : Text} {u : Url}

/-- Without a host the path is that of the reference, encoded and rid of its dot segments. -/
theorem path_of_hostless (parsed : parse raw = .ok u) (alone : u.host = none) :
    u.path = removeDots (upperTriplets (encode (rawPath raw))) := by
  obtain ⟨-, uri, huri, -, hosted, rfl⟩ := parse_eq_ok_iff.mp parsed
  obtain ⟨-, -, hpath, -, -⟩ := ofReference_eq_ok_iff.mp huri
  have ha : uri.normalize.authority = none := by simpa [ofUri] using alone
  have special : isSpecial uri.normalize.scheme = false := by simpa [lacksHost, ha] using hosted
  have kept : (ofUri uri.normalize).path = uri.normalize.path := by simp [ofUri, special]
  rw [kept, Uri.normalize, hpath, rawPath]

/-! ## Slashes -/

theorem count_slash_path_le (parsed : parse raw = .ok u) (alone : u.host = none) :
    u.path.count '/' ≤ (rawPath raw).count '/' := by
  rw [path_of_hostless parsed alone, ← count_slash_encoded (rawPath raw)]
  exact count_slash_removeDots_le _

private theorem count_slash_scheme {scheme : Text} (h : Reference.IsScheme scheme) :
    scheme.count '/' = 0 :=
  List.count_eq_zero.mpr (h.not_mem (by decide))

private theorem count_slash_part (o : Option Text) :
    ((o.map (upperTriplets ∘ encode)).getD []).count '/' = (o.getD []).count '/' := by
  cases o with
  | none => rfl
  | some t => exact count_slash_encoded t

private theorem count_slash_queryPart (o : Option Text) :
    (Reference.queryPart o).count '/' = (o.getD []).count '/' := by
  cases o <;> simp [Reference.queryPart]

private theorem count_slash_fragmentPart (o : Option Text) :
    (Reference.fragmentPart o).count '/' = (o.getD []).count '/' := by
  cases o <;> simp [Reference.fragmentPart]

private theorem text_of_hostless {uri : Uri} (alone : (ofUri uri).host = none) :
    (ofUri uri).text = uri.scheme ++ ':' :: ((ofUri uri).path ++
      (Reference.queryPart uri.query ++ Reference.fragmentPart uri.fragment)) := by
  have ha : uri.authority = none := by simpa [ofUri] using alone
  rw [text_ofUri, Uri.text]
  simp [tidy, tidyPath, ofUri, ha, Reference.authorityPart]

/-- Without an authority no slash is added. -/
theorem count_slash_text_le (parsed : parse raw = .ok u) (alone : u.host = none) :
    u.text.count '/' ≤ raw.count '/' := by
  have path := count_slash_path_le parsed alone
  obtain ⟨-, uri, huri, hsound, hosted, rfl⟩ := parse_eq_ok_iff.mp parsed
  have hn := isNormal_normalize huri hsound
  obtain ⟨-, -, -, hquery, hfragment⟩ := ofReference_eq_ok_iff.mp huri
  have query : (Reference.queryPart uri.normalize.query).count '/' =
      ((Reference.split raw.trim).query.getD []).count '/' := by
    rw [count_slash_queryPart, Uri.normalize, hquery, Option.map_map, count_slash_part]
  have fragment : (Reference.fragmentPart uri.normalize.fragment).count '/' =
      ((Reference.split raw.trim).fragment.getD []).count '/' := by
    rw [count_slash_fragmentPart, Uri.normalize, hfragment, Option.map_map, count_slash_part]
  have parts := (Reference.parts_sublist raw.trim).count_le '/'
  have trim := (Text.trimBy_sublist Text.isBlank raw).count_le '/'
  rw [List.count_append, List.count_append, ← rawPath] at parts
  rw [text_of_hostless alone, List.count_append, count_slash_scheme hn.scheme,
    List.count_cons_of_ne (by decide), List.count_append, List.count_append, query, fragment]
  exact Nat.le_trans (by omega) (Nat.le_trans parts trim)

/-! ## Two slashes in front of the path -/

theorem slashes_prefix_path_iff (parsed : parse raw = .ok u) (alone : u.host = none) :
    ['/', '/'] <+: u.path ↔ IsDoubled (rawPath raw) := by
  rw [path_of_hostless parsed alone, ← isDoubled_encoded_iff (rawPath raw), IsDoubled]

/-- What is read of the text has lost the two slashes, whatever stands behind them. -/
theorem path_ne_of_slashes {v : Url} (parsed : parse raw = .ok u) (alone : u.host = none)
    (doubled : ['/', '/'] <+: u.path) (again : parse u.text = .ok v)
    (alone' : v.host = none) : v.path ≠ u.path := by
  have fewer := count_slash_path_le again alone'
  obtain ⟨-, uri, huri, hsound, hosted, rfl⟩ := parse_eq_ok_iff.mp parsed
  have hs : IsSource uri.normalize := ⟨isNormal_normalize huri hsound, hosted⟩
  obtain ⟨r, hr⟩ := doubled
  have inside : ∀ c ∈ r, Reference.endsPath c = false := by
    intro c hc
    refine endsPath_of_mem_path hs.tidy.normal.path c ?_
    rw [show (tidy uri.normalize).path = (ofUri uri.normalize).path from rfl, ← hr]
    simp [hc]
  have found : (rawPath (ofUri uri.normalize).text).Sublist r := by
    rw [rawPath, text_ofUri, trim_text hs.tidy.normal, ← text_ofUri, text_of_hostless alone, ← hr]
    exact Reference.path_sublist_of_slashes hs.normal.scheme inside _ _
  have slashes := found.count_le '/'
  intro same
  rw [same, ← hr, List.count_append] at fewer
  simp only [List.count_cons_self, List.count_nil] at fewer
  omega

theorem wellFormed_iff_of_hostless (alone : u.host = none) :
    u.WellFormed ↔ ¬ ['/', '/'] <+: u.path := by
  rw [WellFormed, alone]
  exact Iff.rfl

/-- The text of a URL without a host is read as one without a host and with the same path exactly
if the path of its reference does not begin with two slashes once its dot segments are gone; then
it is read as the same URL. -/
theorem hostless_again_iff (parsed : parse raw = .ok u) (alone : u.host = none) :
    ((∃ v, parse u.text = .ok v ∧ v.host = none ∧ v.path = u.path) ↔ ¬ IsDoubled (rawPath raw)) ∧
      (['/', '/'] <+: u.path ↔ IsDoubled (rawPath raw)) ∧
      (¬ IsDoubled (rawPath raw) → parse u.text = .ok u) := by
  have doubled := slashes_prefix_path_iff parsed alone
  have again (straight : ¬ IsDoubled (rawPath raw)) : parse u.text = .ok u :=
    parse_text parsed ((wellFormed_iff_of_hostless alone).mpr (doubled.not.mpr straight))
  refine ⟨⟨?_, fun straight => ⟨u, again straight, alone, rfl⟩⟩, doubled, again⟩
  rintro ⟨v, read, alone', same⟩ hd
  exact path_ne_of_slashes parsed alone (doubled.mpr hd) read alone' same

theorem hostless_again_of_dots :
    let u : Url := ⟨"foo", none, none, none, "/%C3%A9//", some "/..//", some []⟩
    parse "foo://:/a/../\u00e9/.//?/..//#" = .ok u ∧ u.host = none ∧
      ¬ IsDoubled (rawPath "foo://:/a/../\u00e9/.//?/..//#") ∧ ¬ ['/', '/'] <+: u.path ∧
      parse u.text = .ok u := by
  intro u
  have parsed : parse "foo://:/a/../\u00e9/.//?/..//#" = .ok u := by rfl
  have straight : ¬ IsDoubled (rawPath "foo://:/a/../\u00e9/.//?/..//#") := by decide
  obtain ⟨-, doubled, again⟩ := hostless_again_iff parsed rfl
  exact ⟨parsed, rfl, straight, doubled.not.mpr straight, again straight⟩

/-- Two URLs with one text, one with a host and one without: the dot segment kept the two
slashes apart from the colon. -/
theorem host_of_doubled_path :
    let u : Url := ⟨"foo", none, none, none, "//evil.org/y", none, none⟩
    let v : Url := ⟨"foo", none, some "evil.org", none, "/y", none, none⟩
    parse "foo:/a/..//evil.org/y" = .ok u ∧ ['/', '/'] <+: u.path ∧ parse u.text = .ok v ∧
      v.host ≠ u.host ∧
      (u == v) = true := by
  have parsed : parse "foo:/a/..//evil.org/y" =
      .ok ⟨"foo", none, none, none, "//evil.org/y", none, none⟩ := by rfl
  have again : parse "foo://evil.org/y" =
      .ok ⟨"foo", none, some "evil.org", none, "/y", none, none⟩ := by rfl
  exact ⟨parsed, by decide, again, by decide, by decide⟩

end GroupWire.Url
