import GroupWire.Proofs.Uri.Encoded
import GroupWire.Uri.Reference

/-! # References cut and glued

A reference glued from parts is cut into the same parts when no part holds a delimiter of a later
one and the path does not run into what stands before it. -/

namespace GroupWire.Uri.Reference

def authorityPart (authority : Option Text) : Text :=
  match authority with
  | some a => '/' :: '/' :: a
  | none => []

def queryPart (query : Option Text) : Text :=
  match query with
  | some q => '?' :: q
  | none => []

def fragmentPart (fragment : Option Text) : Text :=
  match fragment with
  | some f => '#' :: f
  | none => []

/-- A path behind an authority is empty or starts with a slash, and one without does not start with
two. -/
def PathFits (authority : Option Text) (path : Text) : Prop :=
  match authority with
  | some _ => path = [] ∨ path.head? = some '/'
  | none => ¬ ['/', '/'] <+: path

def IsScheme (scheme : Text) : Prop :=
  (∀ c ∈ scheme, isSchemeChar c = true) ∧ scheme.head?.any Char.isAlpha = true

theorem IsScheme.not_mem {scheme : Text} (h : IsScheme scheme) {c : Char}
    (hc : isSchemeChar c = false) : c ∉ scheme := by
  intro hm
  rw [h.1 c hm] at hc
  cases hc

theorem IsScheme.ne_colon {scheme : Text} (h : IsScheme scheme) :
    ∀ c ∈ scheme, decide (c ≠ ':') = true :=
  Text.ne_of_not_mem (h.not_mem (by decide))

/-- Parts that can be glued and cut again. -/
structure IsDelimited (s : Text) (a : Option Text) (p : Text) (q f : Option Text) : Prop where
  scheme : IsScheme s
  authority : ∀ t ∈ a, t ≠ [] ∧ ∀ c ∈ t, endsAuthority c = false
  fits : PathFits a p
  path : ∀ c ∈ p, endsPath c = false
  query : ∀ t ∈ q, '#' ∉ t
  fragment : ∀ t ∈ f, '\n' ∉ t

/-! ## Cutting what was glued -/

theorem cutScheme_glued {scheme : Text} (h : IsScheme scheme) (r : Text) :
    cutScheme (scheme ++ ':' :: r) = (some scheme, r) := by
  have stop : ∀ c ∈ (':' :: r).head?, isSchemeChar c = false := by simp; decide
  simp only [cutScheme, Text.takeWhile_append_stop h.1 stop,
    Text.dropWhile_append_stop h.1 stop, h.2, if_true]

theorem head_queryPart (query fragment : Option Text) :
    ∀ c ∈ (queryPart query ++ fragmentPart fragment).head?, c = '?' ∨ c = '#' := by
  cases query <;> cases fragment <;> simp [queryPart, fragmentPart]

private theorem head_rest {path : Text} (hp : path = [] ∨ path.head? = some '/')
    (query fragment : Option Text) :
    ∀ c ∈ (path ++ (queryPart query ++ fragmentPart fragment)).head?,
      c = '/' ∨ c = '?' ∨ c = '#' := by
  intro c hc
  cases path with
  | nil => exact Or.inr (head_queryPart query fragment c hc)
  | cons d path =>
    obtain rfl : d = '/' := by simpa using hp
    exact Or.inl (by simpa [eq_comm] using hc)

private theorem no_slashes {path : Text} (hp : ¬ ['/', '/'] <+: path) (query fragment : Option Text)
    (r : Text) : path ++ (queryPart query ++ fragmentPart fragment) ≠ '/' :: '/' :: r := by
  intro hr
  match path, hp with
  | [], _ =>
    have rest : queryPart query ++ fragmentPart fragment = '/' :: '/' :: r := hr
    simpa using head_queryPart query fragment '/' (by simp [rest])
  | [c], _ =>
    have rest : queryPart query ++ fragmentPart fragment = '/' :: r := (List.cons.inj hr).2
    simpa using head_queryPart query fragment '/' (by simp [rest])
  | c :: d :: path, hp =>
    obtain ⟨rfl, hd⟩ := List.cons.inj hr
    obtain ⟨rfl, -⟩ := List.cons.inj hd
    exact hp ⟨path, rfl⟩

theorem cutAuthority_glued {authority query fragment : Option Text} {path : Text}
    (ha : ∀ a ∈ authority, a ≠ [] ∧ ∀ c ∈ a, endsAuthority c = false)
    (fits : PathFits authority path) :
    cutAuthority (authorityPart authority ++ (path ++ (queryPart query ++ fragmentPart fragment))) =
      (authority, path ++ (queryPart query ++ fragmentPart fragment)) := by
  cases authority with
  | some a =>
    have run : ∀ c ∈ a, (!endsAuthority c) = true := fun c hc => by simp [(ha a rfl).2 c hc]
    have stop : ∀ c ∈ (path ++ (queryPart query ++ fragmentPart fragment)).head?,
        (!endsAuthority c) = false := by
      intro c hc
      rcases head_rest fits query fragment c hc with rfl | rfl | rfl <;> decide
    simp only [authorityPart, List.cons_append, cutAuthority, Text.takeWhile_append_stop run stop,
      Text.dropWhile_append_stop run stop]
  | none =>
    rw [authorityPart, List.nil_append, cutAuthority]
    exact fun r hr => absurd hr (no_slashes fits query fragment r)

theorem cutQuery_glued {query : Option Text} (hq : ∀ q ∈ query, '#' ∉ q) (fragment : Option Text) :
    cutQuery (queryPart query ++ fragmentPart fragment) = (query, fragmentPart fragment) := by
  have stop : ∀ c ∈ (fragmentPart fragment).head?, decide (c ≠ '#') = false := by
    cases fragment <;> simp [fragmentPart]
  cases query with
  | some q =>
    have run := Text.ne_of_not_mem (hq q rfl)
    simp only [queryPart, List.cons_append, cutQuery, Text.takeWhile_append_stop run stop,
      Text.dropWhile_append_stop run stop]
  | none => cases fragment <;> rfl

theorem cutFragment_glued {fragment : Option Text} (hf : ∀ f ∈ fragment, '\n' ∉ f) :
    cutFragment (fragmentPart fragment) = fragment := by
  cases fragment with
  | some f =>
    have run := Text.ne_of_not_mem (hf f rfl)
    have hw : f.takeWhile (· ≠ '\n') = f := by
      simpa using Text.takeWhile_append_stop (t := []) run (by simp)
    simp only [fragmentPart, cutFragment, hw]
  | none => rfl

/-- An empty path is read as an absent one. -/
theorem split_glued {scheme path : Text} {authority query fragment : Option Text}
    (h : IsDelimited scheme authority path query fragment) :
    split (scheme ++ ':' ::
      (authorityPart authority ++ (path ++ (queryPart query ++ fragmentPart fragment)))) =
      ⟨some scheme, authority, (some path).filter (!·.isEmpty), query, fragment⟩ := by
  have run : ∀ c ∈ path, (!endsPath c) = true := fun c hc => by simp [h.path c hc]
  have stop : ∀ c ∈ (queryPart query ++ fragmentPart fragment).head?, (!endsPath c) = false := by
    intro c hc
    rcases head_queryPart query fragment c hc with rfl | rfl <;> decide
  have solid : authority.filter (!·.isEmpty) = authority := by
    cases authority with
    | none => rfl
    | some a => simp [(h.authority a rfl).1]
  simp only [split, cutScheme_glued h.scheme, cutAuthority_glued h.authority h.fits,
    Text.takeWhile_append_stop run stop, Text.dropWhile_append_stop run stop,
    cutQuery_glued h.query, cutFragment_glued h.fragment, solid]

/-! ## Behind an authority -/

def pathOf (rest : Text) : Text := rest.takeWhile (!endsPath ·)

def queryOf (rest : Text) : Option Text := (cutQuery (rest.dropWhile (!endsPath ·))).1

def fragmentOf (rest : Text) : Option Text :=
  cutFragment (cutQuery (rest.dropWhile (!endsPath ·))).2

section Glued

variable {path : Text} {query : Option Text} (hpath : ∀ c ∈ path, endsPath c = false)
  (fragment : Option Text)

private theorem stop_queryPart (query fragment : Option Text) :
    ∀ c ∈ (queryPart query ++ fragmentPart fragment).head?, (!endsPath c) = false := by
  intro c hc
  rcases head_queryPart query fragment c hc with rfl | rfl <;> decide

include hpath

theorem pathOf_glued (query : Option Text) :
    pathOf (path ++ (queryPart query ++ fragmentPart fragment)) = path :=
  Text.takeWhile_append_stop (fun c hc => by simp [hpath c hc]) (stop_queryPart query fragment)

private theorem dropPath_glued (query : Option Text) :
    (path ++ (queryPart query ++ fragmentPart fragment)).dropWhile (!endsPath ·) =
      queryPart query ++ fragmentPart fragment :=
  Text.dropWhile_append_stop (fun c hc => by simp [hpath c hc]) (stop_queryPart query fragment)

theorem queryOf_glued (hquery : ∀ q ∈ query, '#' ∉ q) :
    queryOf (path ++ (queryPart query ++ fragmentPart fragment)) = query := by
  rw [queryOf, dropPath_glued hpath, cutQuery_glued hquery]

theorem fragmentOf_glued (hquery : ∀ q ∈ query, '#' ∉ q) :
    fragmentOf (path ++ (queryPart query ++ fragmentPart fragment)) =
      fragment.map (List.takeWhile (· ≠ '\n')) := by
  rw [fragmentOf, dropPath_glued hpath, cutQuery_glued hquery]
  cases fragment <;> rfl

end Glued

/-- A scheme, an authority and whatever comes behind it. -/
def hierarchical (scheme authority rest : Text) : Text :=
  scheme ++ ':' :: '/' :: '/' :: (authority ++ rest)

theorem split_hierarchical {scheme authority rest : Text} (hs : IsScheme scheme)
    (ha : ∀ c ∈ authority, endsAuthority c = false)
    (hr : ∀ c ∈ rest.head?, endsAuthority c = true) :
    split (hierarchical scheme authority rest) = ⟨some scheme, (some authority).filter (!·.isEmpty),
      (some (pathOf rest)).filter (!·.isEmpty), queryOf rest, fragmentOf rest⟩ := by
  have run : ∀ c ∈ authority, (!endsAuthority c) = true := fun c hc => by simp [ha c hc]
  have stop : ∀ c ∈ rest.head?, (!endsAuthority c) = false := fun c hc => by simp [hr c hc]
  simp only [hierarchical, split, cutScheme_glued hs, cutAuthority,
    Text.takeWhile_append_stop run stop, Text.dropWhile_append_stop run stop, pathOf,
    queryOf, fragmentOf]

/-! ## What the parts come from -/

theorem isScheme_of_split {t scheme : Text} (h : (split t).scheme = some scheme) :
    IsScheme scheme := by
  have hcut : (cutScheme t).1 = some scheme := h
  unfold cutScheme at hcut
  dsimp only at hcut
  split at hcut
  · split at hcut
    · rename_i hfirst
      obtain rfl := Option.some.inj hcut
      exact ⟨List.all_eq_true.mp List.all_takeWhile, hfirst⟩
    · cases hcut
  · cases hcut

private theorem isSchemeChar_toLower (c : Char) : isSchemeChar c.toLower = isSchemeChar c :=
  Text.toLower_invariant (by decide) c

theorem isScheme_toLower_iff {scheme : Text} : IsScheme scheme.toLower ↔ IsScheme scheme := by
  have first : (List.map Char.toLower scheme).head?.any Char.isAlpha =
      scheme.head?.any Char.isAlpha := by
    cases scheme with
    | nil => rfl
    | cons c scheme => exact Char.isAlpha_toLower_eq_isAlpha c
  simp only [IsScheme, Text.toLower, List.forall_mem_map, isSchemeChar_toLower, first]

theorem IsScheme.toLower {scheme : Text} (h : IsScheme scheme) : IsScheme scheme.toLower :=
  isScheme_toLower_iff.mpr h

private theorem cutScheme_suffix (t : Text) : (cutScheme t).2 <:+ t := by
  unfold cutScheme
  dsimp only
  split
  · rename_i r hr
    split
    · exact (List.suffix_cons ':' r).trans (hr ▸ List.dropWhile_suffix isSchemeChar)
    · exact List.suffix_refl t
  · exact List.suffix_refl t

private theorem cutAuthority_suffix (t : Text) : (cutAuthority t).2 <:+ t := by
  unfold cutAuthority
  split
  · rename_i r
    have hr : r <:+ '/' :: '/' :: r := (List.suffix_cons _ _).trans (List.suffix_cons _ _)
    exact (List.dropWhile_suffix _).trans hr
  · exact List.suffix_refl _

private theorem cutQuery_sublist (t : Text) :
    ((cutQuery t).1.getD [] ++ (cutQuery t).2).Sublist t := by
  unfold cutQuery
  split
  · simp only [Option.getD_some, List.takeWhile_append_dropWhile]
    exact List.sublist_cons_self _ _
  · simp

private theorem cutFragment_sublist (t : Text) : ((cutFragment t).getD []).Sublist t := by
  unfold cutFragment
  split
  · exact (List.takeWhile_sublist _).trans (List.sublist_cons_self _ _)
  · simp

theorem getD_filter_nonempty (t : Text) : ((some t).filter (!·.isEmpty)).getD [] = t := by
  cases t <;> rfl

private theorem behind_sublist (r : Text) :
    (r.takeWhile (!endsPath ·) ++ ((cutQuery (r.dropWhile (!endsPath ·))).1.getD [] ++
      (cutFragment (cutQuery (r.dropWhile (!endsPath ·))).2).getD [])).Sublist r := by
  have rest (s : Text) :
      ((cutQuery s).1.getD [] ++ (cutFragment (cutQuery s).2).getD []).Sublist s :=
    ((List.Sublist.refl _).append (cutFragment_sublist _)).trans (cutQuery_sublist s)
  have whole := (List.Sublist.refl (r.takeWhile (!endsPath ·))).append
    (rest (r.dropWhile (!endsPath ·)))
  rwa [List.takeWhile_append_dropWhile] at whole

/-- The parts behind the authority stand in the reference in their order. -/
theorem parts_sublist (t : Text) :
    ((split t).path.getD [] ++
      ((split t).query.getD [] ++ (split t).fragment.getD [])).Sublist t := by
  simp only [split, getD_filter_nonempty]
  exact (behind_sublist _).trans ((cutAuthority_suffix _).trans (cutScheme_suffix t)).sublist

/-- Two slashes are taken for the sign of an authority, so the path that is found lies behind
them. -/
theorem path_sublist_of_slashes {scheme r : Text} (hs : IsScheme scheme)
    (hr : ∀ c ∈ r, endsPath c = false) (query fragment : Option Text) :
    ((split (scheme ++ ':' :: '/' :: '/' ::
      (r ++ (queryPart query ++ fragmentPart fragment)))).path.getD []).Sublist r := by
  have rest := head_queryPart query fragment
  generalize queryPart query ++ fragmentPart fragment = tail at rest
  have stop : ∀ c ∈ tail.head?, (!endsPath c) = false ∧ (!endsAuthority c) = false := by
    intro c hc
    rcases rest c hc with rfl | rfl <;> decide
  simp only [split, cutScheme_glued hs, cutAuthority, getD_filter_nonempty]
  rw [List.dropWhile_append]
  split
  · have whole := Text.dropWhile_append_stop (f := (!endsAuthority ·)) (s := []) (by simp)
      fun c hc => (stop c hc).2
    have bare := Text.takeWhile_append_stop (f := (!endsPath ·)) (s := []) (by simp) fun c hc =>
      (stop c hc).1
    rw [List.nil_append] at whole bare
    rw [whole, bare]
    exact List.nil_sublist r
  · have inside := List.dropWhile_sublist (!endsAuthority ·) (l := r)
    have run : ∀ c ∈ r.dropWhile (!endsAuthority ·), (!endsPath c) = true :=
      fun c hc => by simp [hr c (inside.subset hc)]
    rw [Text.takeWhile_append_stop run fun c hc => (stop c hc).1]
    exact inside

/-- The authority ends at a slash, at a backslash, or before no path at all. -/
theorem head_path_of_authority {t a : Text} (h : (split t).authority = some a) :
    ∀ c ∈ ((split t).path.getD []).head?, c = '/' ∨ c = '\\' := by
  have hsome : (cutAuthority (cutScheme t).2).1 ≠ none := by
    intro hn
    simp [split, hn] at h
  simp only [split, getD_filter_nonempty]
  generalize (cutScheme t).2 = r at hsome
  unfold cutAuthority at hsome ⊢
  split at hsome
  · rename_i r
    intro c hc
    have ends := List.head?_dropWhile_not (!endsAuthority ·) r
    dsimp only at hc
    cases hd : r.dropWhile (!endsAuthority ·) with
    | nil => simp [hd] at hc
    | cons d rest =>
      simp only [hd, List.head?_cons] at ends
      rw [hd] at hc
      by_cases hp : endsPath d = true
      · simp [hp] at hc
      · obtain rfl : d = c := by simpa [hp] using hc
        simp only [endsPath, endsAuthority, Bool.or_eq_true, Bool.not_eq_false',
          decide_eq_true_eq] at hp ends
        rcases ends with ((hd | hd) | hd) | hd
        · exact Or.inl hd
        · exact Or.inr hd
        · exact absurd (Or.inl hd) hp
        · exact absurd (Or.inr hd) hp
  · exact absurd rfl hsome

end GroupWire.Uri.Reference
