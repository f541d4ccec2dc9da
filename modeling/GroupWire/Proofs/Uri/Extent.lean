import GroupWire.Proofs.Uri

/-! # How far the parts of a reference reach

An authority reaches from two slashes to the next delimiter, and a fragment from the number sign to
the end. Reading stops short of that at a line feed: one that ends the authority is passed over, and
a fragment ends with its line. But for that line feed an authority has no room for control
characters, nor for white space outside the userinfo. -/

namespace GroupWire.Uri

open Reference

def isControl (c : Char) : Bool := c.toNat < 32 || (127 ≤ c.toNat && c.toNat ≤ 159)

/-- White space of any script, and control characters. -/
def isLoose (c : Char) : Bool := Text.isBlank c || isControl c

/-- What stands between two slashes behind the first colon and the next delimiter. -/
def authoritySpan? (t : Text) : Option Text :=
  match (t.dropWhile (· ≠ ':')).drop 1 with
  | '/' :: '/' :: r => some (r.takeWhile (!endsAuthority ·))
  | _ => none

/-- What stands before the first at sign. -/
def userinfoSpan? (t : Text) : Option Text := if '@' ∈ t then some (t.takeWhile (· ≠ '@')) else none

/-- What stands behind the first number sign. -/
def fragmentSpan? (t : Text) : Option Text :=
  if '#' ∈ t then some ((t.dropWhile (· ≠ '#')).drop 1) else none

/-! ## Where the parts are cut -/

section Cut

theorem exists_behind_scheme {t scheme : Text} (h : (split t).scheme = some scheme) :
    ∃ r, t = scheme ++ ':' :: r := by
  have hcut : (cutScheme t).1 = some scheme := h
  unfold cutScheme at hcut
  dsimp only at hcut
  split at hcut
  · rename_i r hr
    split at hcut
    · obtain rfl := Option.some.inj hcut
      exact ⟨r, by rw [← hr, List.takeWhile_append_dropWhile]⟩
    · cases hcut
  · cases hcut

theorem authority_split {t scheme : Text} (h : (split t).scheme = some scheme) :
    (split t).authority = (authoritySpan? t).filter (!·.isEmpty) := by
  have hs := isScheme_of_split h
  obtain ⟨r, rfl⟩ := exists_behind_scheme h
  have behind : (scheme ++ ':' :: r).dropWhile (· ≠ ':') = ':' :: r :=
    Text.dropWhile_append_stop hs.ne_colon (by simp)
  simp only [split, cutScheme_glued hs, authoritySpan?, behind, List.drop_succ_cons, List.drop_zero]
  fun_cases cutAuthority r with
  | case1 r => rfl
  | case2 r other =>
    split
    · rename_i q
      exact absurd rfl (other q)
    · rfl

theorem fragmentSpan?_append {s : Text} (clean : '#' ∉ s) (r : Text) :
    fragmentSpan? (s ++ r) = fragmentSpan? r := by
  rw [fragmentSpan?, fragmentSpan?, List.dropWhile_append_of_pos (Text.ne_of_not_mem clean)]
  simp only [List.mem_append, clean, false_or]

theorem fragmentSpan?_fragmentPart (fragment : Option Text) :
    fragmentSpan? (fragmentPart fragment) = fragment := by
  cases fragment <;> simp [fragmentSpan?, fragmentPart]

private theorem fragmentSpan?_dropWhile {f : Char → Bool} (stop : f '#' = false) (t : Text) :
    fragmentSpan? (t.dropWhile f) = fragmentSpan? t := by
  have clean : '#' ∉ t.takeWhile f := by
    intro hm
    rw [List.mem_takeWhile_imp hm] at stop
    cases stop
  have glued : t.takeWhile f ++ t.dropWhile f = t := List.takeWhile_append_dropWhile
  rw [← fragmentSpan?_append clean, glued]

private theorem fragmentSpan?_cutAuthority (t : Text) :
    fragmentSpan? (cutAuthority t).2 = fragmentSpan? t := by
  unfold cutAuthority
  split
  · rename_i r
    have slashes : '#' ∉ ['/', '/'] := by decide
    exact (fragmentSpan?_dropWhile (by decide) r).trans (fragmentSpan?_append slashes r).symm
  · rfl

private theorem fragmentSpan?_cutQuery (t : Text) :
    fragmentSpan? (cutQuery t).2 = fragmentSpan? t := by
  unfold cutQuery
  split
  · rename_i r
    have mark : '#' ∉ ['?'] := by decide
    exact (fragmentSpan?_dropWhile (by decide) r).trans (fragmentSpan?_append mark r).symm
  · rfl

private theorem cutFragment_eq {t : Text} (front : ∀ c ∈ t.head?, c = '#') :
    cutFragment t = (fragmentSpan? t).map (List.takeWhile (· ≠ '\n')) := by
  cases t with
  | nil => rfl
  | cons c r =>
    obtain rfl := front c rfl
    simp [cutFragment, fragmentSpan?]

theorem fragmentOf_eq (rest : Text) :
    fragmentOf rest = (fragmentSpan? rest).map (List.takeWhile (· ≠ '\n')) := by
  have front : ∀ c ∈ (cutQuery (rest.dropWhile (!endsPath ·))).2.head?, c = '#' := by
    have stop := List.head?_dropWhile_not (!endsPath ·) rest
    generalize rest.dropWhile (!endsPath ·) = t at stop
    unfold cutQuery
    split
    · rename_i r
      intro c hc
      obtain ⟨s, hs⟩ := List.head?_eq_some_iff.mp hc
      exact Text.eq_of_dropWhile_ne hs
    · rename_i other
      intro c hc
      rw [show t.head? = some c from hc] at stop
      have ends : c = '?' ∨ c = '#' := by simpa [endsPath, Decidable.or_iff_not_imp_left] using stop
      refine ends.resolve_left ?_
      rintro rfl
      obtain ⟨r, rfl⟩ := List.head?_eq_some_iff.mp hc
      exact other r rfl
  rw [fragmentOf, cutFragment_eq front, fragmentSpan?_cutQuery, fragmentSpan?_dropWhile (by decide)]

theorem fragment_split {t scheme : Text} (h : (split t).scheme = some scheme) :
    (split t).fragment = (fragmentSpan? t).map (List.takeWhile (· ≠ '\n')) := by
  have hs := isScheme_of_split h
  obtain ⟨r, rfl⟩ := exists_behind_scheme h
  have clean : '#' ∉ scheme ++ [':'] := by simp [hs.not_mem (c := '#') (by decide)]
  have whole : fragmentSpan? (scheme ++ ':' :: r) = fragmentSpan? r := by
    rw [← fragmentSpan?_append clean r, List.append_assoc, List.singleton_append]
  have behind : (split (scheme ++ ':' :: r)).fragment = fragmentOf (cutAuthority r).2 := by
    simp only [split, cutScheme_glued hs, fragmentOf]
  rw [behind, fragmentOf_eq, fragmentSpan?_cutAuthority, whole]

theorem fragmentSpan?_text {u : Uri} (hn : u.IsNormal) : fragmentSpan? u.text = u.fragment := by
  have authority : '#' ∉ authorityPart (u.authority.map Authority.text) := by
    cases ha : u.authority with
    | none => simp [authorityPart]
    | some a =>
      have clean : '#' ∉ a.text :=
        fun hm => absurd (endsAuthority_of_mem_text (hn.authority a ha).1 hm) (by decide)
      simpa [authorityPart] using clean
  have path : '#' ∉ u.path := fun hm => absurd (endsPath_of_mem_path hn.path _ hm) (by decide)
  have query : '#' ∉ queryPart u.query := by
    cases hq : u.query with
    | none => simp [queryPart]
    | some q => simpa [queryPart] using fun hm => (mem_query (hn.query q hq) _ hm).1 rfl
  have clean : '#' ∉ u.scheme ++ ':' ::
      (authorityPart (u.authority.map Authority.text) ++ (u.path ++ queryPart u.query)) := by
    simp [hn.scheme.not_mem (c := '#') (by decide), authority, path, query]
  have glued : u.text = (u.scheme ++ ':' :: (authorityPart (u.authority.map Authority.text) ++
      (u.path ++ queryPart u.query))) ++ fragmentPart u.fragment := by simp [Uri.text]
  rw [glued, fragmentSpan?_append clean, fragmentSpan?_fragmentPart]

end Cut

/-! ## Characters with no room -/

theorem isLoose_of_isPlain {c : Char} (h : isPlain c = true) : isLoose c = false :=
  of_plain (P := fun c => isLoose c = false) (by decide) h

theorem isLoose_of_isUcs {c : Char} (h : isUcs c = true) : isLoose c = Text.isBlank c := by
  have other : isControl c = false := by
    simp only [isUcs, Bool.or_eq_true, Bool.and_eq_true, decide_eq_true_eq] at h
    simp only [isControl, Bool.or_eq_false_iff, Bool.and_eq_false_iff, decide_eq_false_iff_not]
    omega
  rw [isLoose, other, Bool.or_false]

/-- An encoded text has room for white space of other scripts only. -/
theorem isUcs_of_isLoose {ok : Char → Bool} {t : Text}
    (h : Encoded isHex (fun c => ok c || isUcs c) t)
    (plain : ∀ c, ok c = true → isPlain c = true) {c : Char} (hc : c ∈ t)
    (loose : isLoose c = true) : isUcs c = true := by
  have tight (hp : isPlain c = true) : isUcs c = true := by
    rw [isLoose_of_isPlain hp] at loose
    cases loose
  rcases h.mem hc with rfl | hx | ho
  · exact absurd loose (by decide)
  · exact tight (isPlain_of_isHex hx)
  · rcases Bool.or_eq_true _ _ ▸ ho with ho | ho
    · exact tight (plain c ho)
    · exact ho

theorem Host.text_of_readLiteral {t : Text} {h : Host} (hr : readLiteral t = some h) :
    h.text = '[' :: t ++ [']'] := by
  have glued : t.takeWhile (· ≠ '%') ++ t.dropWhile (· ≠ '%') = t := List.takeWhile_append_dropWhile
  unfold readLiteral at hr
  dsimp only at hr
  split at hr
  · obtain rfl := Option.some.inj hr
    rfl
  · split at hr
    · cases hr
    · split at hr
      · rename_i hd
        obtain rfl := Option.some.inj hr
        rw [hd, List.append_nil] at glued
        rw [text, glued]
      · rename_i c zone hd
        obtain ⟨-, hr⟩ := Option.ite_none_right_eq_some.mp hr
        obtain rfl := Option.some.inj hr
        obtain rfl := Text.eq_of_dropWhile_ne hd
        rw [hd] at glued
        rw [text, List.cons_append, glued]

private theorem tight_of_readLiteral {t : Text} {h : Host} (hr : Host.readLiteral t = some h) :
    ∀ c ∈ t, isLoose c = false := by
  intro c hc
  have inside : c ∈ h.text := by simp [Host.text_of_readLiteral hr, hc]
  have char := Host.isHostChar_of_mem_text (Host.isReadable_of_readLiteral _ hr) c inside
  simp only [Host.isHostChar, Bool.or_eq_true, decide_eq_true_eq] at char
  rcases char with ((hu | rfl) | rfl) | rfl
  · exact isLoose_of_isPlain (isPlain_of_isUserinfoChar hu)
  all_goals decide

namespace Authority

private theorem exists_of_mapM {f : Text → Option Text} {labels forms : List Text}
    (h : labels.mapM f = some forms) : ∀ l ∈ labels, ∃ a, f l = some a := by
  induction labels generalizing forms with
  | nil => simp
  | cons l labels ih =>
    simp only [List.mapM_cons, Option.bind_eq_bind, Option.bind_eq_some_iff, Option.pure_def,
      Option.some.injEq] at h
    obtain ⟨a, ha, rest, hrest, -⟩ := h
    intro m hm
    rcases List.mem_cons.mp hm with rfl | hm
    · exact ⟨a, ha⟩
    · exact ih hrest m hm

/-- What a label may hold beyond ASCII is never white space. -/
private theorem tight_of_name {t : Text} {h : Host} (readable : (Host.name t).IsReadable isUcs)
    (ascii : hostToAscii? (.name t) = some h) : ∀ c ∈ t, isLoose c = false := by
  simp only [hostToAscii?, Option.bind_eq_bind, Option.bind_eq_some_iff, Option.pure_def,
    Option.some.injEq] at ascii
  obtain ⟨forms, hforms, -⟩ := ascii
  refine Text.forall_of_split (P := fun c => isLoose c = false) '.' (by decide) ?_
  intro l hl c hc
  obtain ⟨a, ha⟩ := exists_of_mapM hforms l hl
  rw [Bool.eq_false_iff]
  intro loose
  have foreign :=
    isUcs_of_isLoose readable.1 (fun _ => isPlain_of_isNameChar) (Text.mem_of_mem_split hl hc) loose
  rw [isLoose_of_isUcs foreign, Idna.isBlank_of_toAscii? ha hc (isUcs_not_ascii foreign)] at loose
  cases loose

private theorem tight_of_readDigits {t : Text} {port : Option Text} (h : readDigits t = some port) :
    ∀ c ∈ t, isLoose c = false := by
  intro c hc
  rw [readDigits] at h
  split at h
  · rename_i empty
    rw [List.isEmpty_iff.mp empty] at hc
    cases hc
  · obtain ⟨hd, -⟩ := Option.ite_none_right_eq_some.mp h
    have digit := List.all_eq_true.mp (Bool.and_eq_true_iff.mp hd).1 c hc
    have hx : isHex c = true := by simp [isHex, digit]
    exact isLoose_of_isPlain (isPlain_of_isHex hx)

private theorem tight_of_readPort {t : Text} {port : Option Text} (h : readPort t = some port) :
    ∀ c ∈ t, isLoose c = false := by
  unfold readPort at h
  split at h
  · intro c hc
    rcases List.mem_cons.mp hc with rfl | hc
    · decide
    · exact tight_of_readDigits h c hc
  · exact tight_of_readDigits h

theorem tight_of_readHostPort {userinfo : Option Text} {t : Text} {a : Authority} {host : Host}
    (h : readHostPort isUcs userinfo t = some a) (ascii : hostToAscii? a.host = some host) :
    ∀ c ∈ t, isLoose c = false := by
  obtain ⟨-, back, hp, ⟨body, rfl, hh⟩ | ⟨name, rfl, hh⟩⟩ := readHostPort_cases h
  · intro c hc
    simp only [List.mem_cons, List.mem_append] at hc
    rcases hc with rfl | hc | rfl | hc
    · decide
    · exact tight_of_readLiteral hh c hc
    · decide
    · exact tight_of_readPort hp c hc
  · obtain ⟨same, readable⟩ := (Host.readName_eq_some (by decide)).mp hh
    rw [same] at readable ascii
    intro c hc
    rcases List.mem_append.mp hc with hc | hc
    · exact tight_of_name readable ascii c hc
    · exact tight_of_readPort hp c hc

theorem eq_dropLineFeed (t : Text) : t = dropLineFeed t ∨ t = dropLineFeed t ++ ['\n'] := by
  rw [dropLineFeed]
  split
  · rename_i ends
    obtain ⟨s, rfl⟩ := List.isSuffixOf_iff_suffix.mp ends
    exact Or.inr (by rw [List.dropLast_concat])
  · exact Or.inl rfl

private theorem userinfoSpan?_append {i : Text} (clean : '@' ∉ i) (r : Text) :
    userinfoSpan? (i ++ '@' :: r) = some i := by
  have inside : '@' ∈ i ++ '@' :: r := by simp
  rw [userinfoSpan?, if_pos inside, Text.takeWhile_append_stop (Text.ne_of_not_mem clean) (by simp)]

/-- The line feed that is passed over stands behind the userinfo, if there is one. -/
theorem userinfo_of_read {extra : Char → Bool} {t : Text} {a : Authority}
    (h : read extra t = some a) : a.userinfo = userinfoSpan? t := by
  rcases read_cases h with ⟨i, r, ht, clean, -, -, h⟩ | ⟨clean, h⟩
  · rw [(readHostPort_cases h).1]
    rcases eq_dropLineFeed t with same | feed
    · rw [same, ht, userinfoSpan?_append clean]
    · rw [feed, ht, List.append_assoc, List.cons_append, userinfoSpan?_append clean]
  · have none : '@' ∉ t := by
      rcases eq_dropLineFeed t with same | feed
      · rwa [same]
      · rw [feed]
        simpa using clean
    rw [(readHostPort_cases h).1, userinfoSpan?, if_neg none]

variable {t : Text} {a b : Authority} (read : read isUcs t = some a) (ascii : toAscii? a = some b)

include read ascii

private theorem isLoose_of_mem_dropLineFeed {c : Char} (hc : c ∈ dropLineFeed t)
    (loose : isLoose c = true) : isUcs c = true ∧ ∃ i ∈ userinfoSpan? t, c ∈ i := by
  obtain ⟨-, hhost, -⟩ := toAscii?_eq_some ascii
  have userinfo := userinfo_of_read read
  rcases read_cases read with ⟨i, r, ht, -, -, hw, h⟩ | ⟨-, h⟩
  · rw [ht] at hc
    rcases List.mem_append.mp hc with hc | hc
    · have encoded := (encoded_iff (by decide)).mpr hw
      refine ⟨isUcs_of_isLoose encoded (fun _ => isPlain_of_isUserinfoChar) hc loose, i, ?_, hc⟩
      rw [← userinfo, (readHostPort_cases h).1]
      rfl
    · rcases List.mem_cons.mp hc with rfl | hc
      · exact absurd loose (by decide)
      · rw [tight_of_readHostPort h hhost c hc] at loose
        cases loose
  · rw [tight_of_readHostPort h hhost c hc] at loose
    cases loose

/-- Wherever white space or a control character stands in an authority that was read: it is the line
feed at the end, or white space of another script in the userinfo. -/
theorem isLoose_of_read {s r : Text} {c : Char} (ht : t = s ++ c :: r) (loose : isLoose c = true) :
    (c = '\n' ∧ r = []) ∨ isUcs c = true ∧ ∃ i ∈ userinfoSpan? t, c ∈ i := by
  have inside := isLoose_of_mem_dropLineFeed read ascii (c := c)
  rcases eq_dropLineFeed t with same | feed
  · refine Or.inr (inside ?_ loose)
    rw [← same, ht]
    simp
  · have feed := ht.symm.trans feed
    rcases List.eq_nil_or_concat r with rfl | ⟨r, d, rfl⟩
    · obtain ⟨-, last⟩ := List.append_inj' feed rfl
      exact Or.inl ⟨(List.cons.inj last).1, rfl⟩
    · have glued : (s ++ c :: r) ++ [d] = dropLineFeed t ++ ['\n'] := by simpa using feed
      have front : s ++ c :: r = dropLineFeed t := (List.append_inj' glued rfl).1
      refine Or.inr (inside ?_ loose)
      rw [← front]
      simp

/-- No white space and no control character stands in an authority that was read, unless it ends in
a line feed or white space of another script stands in its userinfo. -/
theorem tight_iff : (∀ c ∈ t, isLoose c = false) ↔
    ¬ ['\n'] <:+ t ∧ ∀ i ∈ userinfoSpan? t, ∀ c ∈ i, Text.isBlank c = false := by
  constructor
  · intro tight
    refine ⟨?_, fun i hi c hc => ?_⟩
    · rintro ⟨s, rfl⟩
      exact absurd (tight '\n' (by simp)) (by decide)
    · obtain ⟨-, hi⟩ := Option.ite_none_right_eq_some.mp (Option.mem_def.mp hi)
      obtain rfl := Option.some.inj hi
      have outside := tight c ((List.takeWhile_sublist _).subset hc)
      exact (Bool.or_eq_false_iff.mp outside).1
  · rintro ⟨solid, clear⟩ c hc
    rw [Bool.eq_false_iff]
    intro loose
    obtain ⟨s, r, ht⟩ := List.append_of_mem hc
    rcases isLoose_of_read read ascii ht loose with ⟨rfl, rfl⟩ | ⟨foreign, i, hi, hc⟩
    · exact solid ⟨s, ht.symm⟩
    · rw [isLoose_of_isUcs foreign, clear i hi c hc] at loose
      cases loose

end Authority

/-! ## The line of a fragment -/

theorem length_upperTriplets (t : Text) : (upperTriplets t).length = t.length := by
  fun_induction upperTriplets t with
  | case1 a b r ih => simp [ih]
  | case2 c r _ ih => simp [ih]
  | case3 => rfl

private theorem length_encodeChar_pos (keep : Char → Bool) (c : Char) :
    0 < (encodeChar keep c).length := by
  rcases encodeChar_shape keep c with same | ⟨-, r, same⟩ <;> simp [same]

private theorem length_encodeChar_le {keep keep' : Char → Bool} {c : Char}
    (more : keep c = true → keep' c = true) :
    (encodeChar keep' c).length ≤ (encodeChar keep c).length := by
  cases hk : keep c with
  | true => simp [encodeChar, hk, more hk]
  | false =>
    rcases encodeChar_shape keep' c with same | ⟨hk', -⟩
    · rw [same]
      exact length_encodeChar_pos keep c
    · simp [encodeChar, hk, hk']

private theorem length_flatMap_le {f g : Char → Text} (h : ∀ c, (f c).length ≤ (g c).length)
    (t : Text) : (t.flatMap f).length ≤ (t.flatMap g).length := by
  induction t with
  | nil => exact Nat.le_refl 0
  | cons c r ih =>
    have first := h c
    simp only [List.flatMap_cons, List.length_append]
    omega

private def kept (t : Text) (c : Char) : Bool := isPlain c || (isEncoded t && c = '%')

private theorem encode_eq (t : Text) : encode t = t.flatMap (encodeChar (kept t)) := rfl

/-- A line is encoded if the whole text is, so it has no more percent signs to encode. -/
private theorem kept_of_line {s r : Text} {c : Char} (h : kept (s ++ '\n' :: r) c = true) :
    kept s c = true := by
  have whole : isEncoded (s ++ '\n' :: r) = true → isEncoded s = true := by
    intro h
    obtain ⟨line, -, -⟩ :=
      Encoded.cut (s := s) (t := r) (by decide) (by decide) ((encoded_iff (by decide)).mpr h)
    exact isEncoded_of_encoded line
  simp only [kept, Bool.or_eq_true, Bool.and_eq_true] at h ⊢
  exact h.imp_right (And.imp_left whole)

theorem length_encode_lt (s r : Text) : (encode s).length < (encode (s ++ '\n' :: r)).length := by
  have front : (s.flatMap (encodeChar (kept s))).length ≤
      (s.flatMap (encodeChar (kept (s ++ '\n' :: r)))).length :=
    length_flatMap_le (fun _ => length_encodeChar_le kept_of_line) s
  have feed := length_encodeChar_pos (kept (s ++ '\n' :: r)) '\n'
  rw [encode_eq, encode_eq, List.flatMap_append, List.flatMap_cons, List.length_append,
    List.length_append]
  omega

/-- The line of a fragment is all of it, once encoded, only if it has but one. -/
theorem line_encoded_eq_iff (f : Text) :
    upperTriplets (encode (f.takeWhile (· ≠ '\n'))) = upperTriplets (encode f) ↔ '\n' ∉ f := by
  constructor
  · intro same feed
    have glued : f.takeWhile (· ≠ '\n') ++ f.dropWhile (· ≠ '\n') = f :=
      List.takeWhile_append_dropWhile
    have longer : (encode (f.takeWhile (· ≠ '\n'))).length < (encode f).length := by
      cases hd : f.dropWhile (· ≠ '\n') with
      | nil =>
        rw [hd, List.append_nil] at glued
        have clean := Text.not_mem_takeWhile_ne '\n' f
        rw [glued] at clean
        exact absurd feed clean
      | cons c r =>
        obtain rfl := Text.eq_of_dropWhile_ne hd
        have lt := length_encode_lt (f.takeWhile (· ≠ '\n')) r
        rwa [← hd, glued] at lt
    have length := congrArg List.length same
    rw [length_upperTriplets, length_upperTriplets] at length
    omega
  · intro clean
    rw [List.takeWhile_eq_self_iff.mpr fun c hc => Text.ne_of_not_mem clean c hc]

end GroupWire.Uri
