import GroupWire.Proofs.Url

/-! # The host that the text of a URL shows

Nothing sets a path apart from the authority before it. A reference may end its authority with a
backslash, which is encoded in the path, and removing dot segments may leave such a path without its
first character: then the text shows another host than the URL has. -/

namespace GroupWire.Url

open Uri

/-- What stands between the two slashes behind the scheme and the next delimiter. -/
def writtenAuthority (t : Text) : Option Text :=
  match (t.dropWhile (· ≠ ':')).drop 1 with
  | '/' :: '/' :: r => some (r.takeWhile fun c => !(c = '/' || c = '?' || c = '#'))
  | _ => none

/-- The path of a reference begins with a backslash, and with a segment that is not empty
once the dot segments are gone. -/
def Strays (path : Text) : Prop :=
  path.head? = some '\\' ∧ ∃ s ∈ (keptSegments (upperTriplets (encode path))).head?, s ≠ []

instance (path : Text) : Decidable (Strays path) := inferInstanceAs (Decidable (_ ∧ _))

def rawPath (raw : Text) : Text := (Reference.split raw.trim).path.getD []

private theorem takeWhile_append_eq_self_iff {f : Char → Bool} {s t : Text}
    (run : ∀ c ∈ s, f c = true) : (s ++ t).takeWhile f = s ↔ ∀ c ∈ t.head?, f c = false := by
  rw [List.takeWhile_append_of_pos run]
  cases t with
  | nil => simp
  | cons c r => by_cases hc : f c = true <;> simp [hc]

private theorem delimits_iff (c : Char) :
    (!(decide (c = '/') || decide (c = '?') || decide (c = '#'))) = false ↔
      c = '/' ∨ Reference.endsPath c = true := by
  simp only [Reference.endsPath, Bool.not_eq_false', Bool.or_eq_true, decide_eq_true_eq, or_assoc]

private theorem head_rest_iff {path : Text} (hp : Uri.Encoded isCapitalHex isPathChar path)
    (query fragment : Option Text) :
    (∀ c ∈ (path ++ (Reference.queryPart query ++ Reference.fragmentPart fragment)).head?,
      (!(decide (c = '/') || decide (c = '?') || decide (c = '#'))) = false) ↔ IsRooted path := by
  simp only [delimits_iff]
  cases path with
  | nil =>
    refine iff_of_true (fun c hc => ?_) (Or.inl rfl)
    rcases Reference.head_queryPart query fragment c hc with rfl | rfl <;> decide
  | cons c r =>
    have inside := endsPath_of_mem_path hp c List.mem_cons_self
    simp [IsRooted, inside]

theorem writtenAuthority_text_iff {uri : Uri} (hn : uri.IsNormal) {a : Authority}
    (ha : uri.authority = some a) :
    writtenAuthority uri.text = some a.text ↔ IsRooted uri.path := by
  have run : ∀ c ∈ a.text,
      (!(decide (c = '/') || decide (c = '?') || decide (c = '#'))) = true := by
    intro c hc
    have inside := endsAuthority_of_mem_text (hn.authority a ha).1 hc
    simp only [Reference.endsAuthority, Bool.or_eq_false_iff, decide_eq_false_iff_not] at inside
    simp [inside.1.1.1, inside.1.2, inside.2]
  have stop : ∀ (r : Text), ∀ c ∈ (':' :: r).head?, decide (c ≠ ':') = false := by simp
  rw [Uri.text, ha, writtenAuthority, Text.dropWhile_append_stop hn.scheme.ne_colon (stop _)]
  simp only [Option.map_some, Reference.authorityPart, List.cons_append, List.drop_succ_cons,
    List.drop_zero, Option.some.injEq]
  rw [takeWhile_append_eq_self_iff run, head_rest_iff hn.path]

/-- Only a path that begins with a backslash can lose its root. -/
theorem isRooted_normalize_iff {t : Text} {uri : Uri} (h : ofReference (.split t) = .ok uri)
    (ha : uri.authority ≠ none) :
    IsRooted uri.normalize.path ↔ ¬ Strays ((Reference.split t).path.getD []) := by
  obtain ⟨-, hauthority, hpath, -, -⟩ := ofReference_eq_ok_iff.mp h
  obtain ⟨a, ha⟩ := Option.ne_none_iff_exists'.mp ha
  obtain ⟨written, hw⟩ := Option.ne_none_iff_exists'.mp (readAuthority_eq_ok hauthority a ha).1
  have front := Reference.head_path_of_authority hw
  rw [Uri.normalize, isRooted_removeDots_iff, hpath, head_upperTriplets, head_encode_eq_slash_iff]
  generalize (Reference.split t).path.getD [] = path at front ⊢
  rw [Strays]
  cases path with
  | nil =>
    have bare : keptSegments (upperTriplets (encode [])) = [[]] := by rfl
    simp [bare]
  | cons c r =>
    rcases front c rfl with rfl | rfl <;> simp

theorem not_strays_of_no_backslash {t : Text} (h : '\\' ∉ t) : ¬ Strays (rawPath t) := by
  rintro ⟨hp, -⟩
  have inside : '\\' ∈ rawPath t := List.mem_of_mem_head? hp
  have part := (Reference.parts_sublist t.trim).subset (List.mem_append_left _ inside)
  exact h ((Text.trimBy_sublist _ t).subset part)

private theorem isRooted_tidyPath_iff (special : Bool) (path : Text) :
    IsRooted (tidyPath special path) ↔ IsRooted path := by
  by_cases h : (special && path.isEmpty) = true
  · have bare : path = [] := by simpa using (Bool.and_eq_true_iff.mp h).2
    rw [tidyPath, if_pos h, bare]
    exact iff_of_true (Or.inr rfl) (Or.inl rfl)
  · rw [tidyPath, if_neg h]

theorem isRooted_path_iff {raw : Text} {u : Url} (parsed : parse raw = .ok u)
    (hosted : u.host ≠ none) : IsRooted u.path ↔ ¬ Strays (rawPath raw) := by
  obtain ⟨-, uri, huri, -, -, rfl⟩ := parse_eq_ok_iff.mp parsed
  have read : uri.authority ≠ none := by
    intro hn
    simp [ofUri, Uri.normalize, hn] at hosted
  exact (isRooted_tidyPath_iff _ _).trans (isRooted_normalize_iff huri read)

theorem wellFormed_iff_isRooted {u : Url} (hosted : u.host ≠ none) :
    u.WellFormed ↔ IsRooted u.path := by
  obtain ⟨h, hh⟩ := Option.ne_none_iff_exists'.mp hosted
  rw [WellFormed, hh]
  exact Iff.rfl

private theorem writtenAuthority_ofUri_iff {uri : Uri} (hs : IsSource uri)
    (hosted : (ofUri uri).host ≠ none) :
    writtenAuthority (ofUri uri).text = (ofUri uri).authorityText ↔ IsRooted (ofUri uri).path := by
  cases ha : uri.authority with
  | none => simp [ofUri, ha] at hosted
  | some a =>
    have written : (tidy uri).authority =
        some { a with port := tidyPort (defaultPort? uri.scheme) a.port } := by
      simp [tidy, ha]
    rw [text_ofUri, authorityText_ofUri, written, Option.map_some,
      writtenAuthority_text_iff hs.tidy.normal written]
    exact Iff.rfl

/-- The text of a URL shows its authority exactly if the path of its reference does not stray; then
whoever reads the text finds the same URL. -/
theorem writtenAuthority_eq_iff {raw : Text} {u : Url} (parsed : parse raw = .ok u)
    (hosted : u.host ≠ none) :
    (writtenAuthority u.text = u.authorityText ↔ ¬ Strays (rawPath raw)) ∧
      ((u.path = [] ∨ u.path.head? = some '/') ↔ ¬ Strays (rawPath raw)) ∧
      (¬ Strays (rawPath raw) → parse u.text = .ok u) := by
  have rooted := isRooted_path_iff parsed hosted
  obtain ⟨uri, hs, rfl⟩ := exists_source parsed
  refine ⟨(writtenAuthority_ofUri_iff hs hosted).trans rooted, rooted, fun h => ?_⟩
  exact parse_text_ofUri hs ((wellFormed_iff_isRooted hosted).mpr (rooted.mpr h))

theorem writtenAuthority_eq_of_rooted_path :
    let u : Url := ⟨"wss", some "me", some "h", some 8, "/y", none, none⟩
    parse "wss://me@h:08\\/..//y" = .ok u ∧ ¬ Strays (rawPath "wss://me@h:08\\/..//y") ∧
      writtenAuthority u.text = u.authorityText ∧ parse u.text = .ok u := by
  intro u
  have parsed : parse "wss://me@h:08\\/..//y" = .ok u := by rfl
  have straight : ¬ Strays (rawPath "wss://me@h:08\\/..//y") := by decide
  obtain ⟨written, -, again⟩ := writtenAuthority_eq_iff parsed (by decide)
  exact ⟨parsed, straight, written.mpr straight, again straight⟩

/-- The path behind the backslash is glued to the host, and the text is read as a URL of another
host. -/
theorem host_of_stray_path :
    let u : Url := ⟨"wss", none, some "h", none, ".evil.org/y", none, none⟩
    let v : Url := ⟨"wss", none, some "h.evil.org", none, "/y", none, none⟩
    parse "wss://h\\a/../.evil.org/y" = .ok u ∧ writtenAuthority u.text ≠ u.authorityText ∧
      parse u.text = .ok v ∧
      v.host ≠ u.host := by
  have parsed : parse "wss://h\\a/../.evil.org/y" =
      .ok ⟨"wss", none, some "h", none, ".evil.org/y", none, none⟩ := by rfl
  have again : parse "wss://h.evil.org/y" =
      .ok ⟨"wss", none, some "h.evil.org", none, "/y", none, none⟩ := by rfl
  exact ⟨parsed, by decide, again, by decide⟩

end GroupWire.Url
