import GroupWire.Proofs.Uri.Authority
import GroupWire.Proofs.Uri.DotSegments
import GroupWire.Proofs.Uri.Reference
import GroupWire.Uri

/-! # URIs in normal form

What is made of a reference is in normal form unless a part is at fault. A URI in
normal form is left alone by normalization, and its text is read as that URI again if
the path fits the authority. -/

namespace GroupWire.Uri

structure IsNormal (u : Uri) : Prop where
  scheme : Reference.IsScheme u.scheme
  lower : u.scheme.toLower = u.scheme
  authority : ∀ a ∈ u.authority, a.IsNormal ∧ a.isVoid = false ∧
    ∀ p ∈ a.port, Text.toNat 10 p ≤ maxPort
  path : Encoded isCapitalHex isPathChar u.path
  noDots : NoDots u.path
  query : ∀ q ∈ u.query, Encoded isCapitalHex isQueryChar q
  fragment : ∀ f ∈ u.fragment, Encoded isCapitalHex isQueryChar f

/-! ## Inversion -/

theorem faults_eq_nil_iff (u : Uri) : u.faults = [] ↔ ∀ p : Part, p.fits u = true := by
  constructor
  · intro h p
    have hp := List.filter_eq_nil_iff.mp h p (by cases p <;> simp)
    simpa using hp
  · intro h
    simp [faults, h]

theorem readAuthority_eq_ok {t : Option Text} {authority : Option Authority}
    (h : readAuthority t = .ok authority) :
    ∀ a ∈ authority, t ≠ none ∧ a.IsAscii ∧ a.isVoid = false := by
  intro a ha
  obtain rfl : authority = some a := ha
  unfold readAuthority at h
  split at h
  · cases h
  · split at h
    · cases h
    · rename_i b hb
      obtain ⟨r, hr, hb⟩ := Option.bind_eq_some_iff.mp hb
      split at h
      · cases h
      · rename_i hv
        obtain rfl : b = a := by simpa using h
        exact ⟨by simp, Authority.isAscii_of_toAscii (Authority.isReadable_of_read hr) hb,
          by simpa using hv⟩

theorem ofReference_eq_ok_iff {r : Reference} {u : Uri} :
    ofReference r = .ok u ↔ r.scheme = some u.scheme ∧ readAuthority r.authority = .ok u.authority ∧
      u.path = encode (r.path.getD []) ∧ u.query = r.query.map encode ∧
      u.fragment = r.fragment.map encode := by
  obtain ⟨scheme, authority, path, query, fragment⟩ := r
  obtain ⟨scheme', authority', path', query', fragment'⟩ := u
  cases scheme with
  | none => simp [ofReference]
  | some s =>
    cases ha : readAuthority authority with
    | error e => simp [ofReference, ha, bind, Except.bind]
    | ok a => simp [ofReference, ha, bind, Except.bind, pure, Except.pure, eq_comm]

theorem scheme_of_noScheme {r : Reference} (h : ofReference r = .error .noScheme) :
    r.scheme = none := by
  obtain ⟨scheme, authority, path, query, fragment⟩ := r
  cases scheme with
  | none => rfl
  | some s =>
    have other : readAuthority authority ≠ .error .noScheme := by
      fun_cases readAuthority authority <;> simp
    cases ha : readAuthority authority with
    | error e =>
      obtain rfl : e = .noScheme := by simpa [ofReference, ha, bind, Except.bind] using h
      exact absurd ha other
    | ok a => simp [ofReference, ha, bind, Except.bind, pure, Except.pure] at h

theorem ofReference_eq_badAuthority_iff {r : Reference} :
    ofReference r = .error .badAuthority ↔
      r.scheme ≠ none ∧ readAuthority r.authority = .error .badAuthority := by
  obtain ⟨scheme, authority, path, query, fragment⟩ := r
  cases scheme with
  | none => simp [ofReference]
  | some s =>
    cases ha : readAuthority authority with
    | error e => simp [ofReference, ha, bind, Except.bind]
    | ok a => simp [ofReference, ha, bind, Except.bind, pure, Except.pure]

/-! ## Normal form -/

private theorem encoded_of_fits {ok : Char → Bool} (refuses : ok '%' = false) {t : Text}
    (henc : Encoded isCapitalHex isPlain t) (fits : wellEncoded ok t = true) :
    Encoded isCapitalHex ok t :=
  henc.both ((encoded_iff refuses).mpr fits)

private theorem encoded_part {o : Option Text}
    (fits : (o.map (upperTriplets ∘ encode)).all (wellEncoded isQueryChar) = true) :
    ∀ t ∈ o.map (upperTriplets ∘ encode), Encoded isCapitalHex isQueryChar t := by
  intro t ht
  rw [ht, Option.all_some] at fits
  obtain ⟨raw, -, rfl⟩ := Option.map_eq_some_iff.mp ht
  exact encoded_of_fits (by decide) (encode_encoded raw).upperTriplets fits

theorem isNormal_normalize {t : Text} {u : Uri} (h : ofReference (.split t) = .ok u)
    (sound : u.normalize.faults = []) :
    u.normalize.IsNormal := by
  obtain ⟨hscheme, hauthority, hpath, hquery, hfragment⟩ := ofReference_eq_ok_iff.mp h
  have fits := (faults_eq_nil_iff _).mp sound
  have hp : Encoded isCapitalHex isPlain u.normalize.path := by
    rw [normalize, hpath]
    exact (encode_encoded _).upperTriplets.removeDots (by decide) (by decide)
  have hq := fits .query
  have hf := fits .fragment
  simp only [Part.fits, normalize, hquery, hfragment, Option.map_map] at hq hf
  constructor
  case scheme => exact (Reference.isScheme_of_split hscheme).toLower
  case lower => exact Text.toLower_toLower u.scheme
  case authority =>
    intro a ha
    obtain ⟨b, hb, rfl⟩ := Option.map_eq_some_iff.mp ha
    obtain ⟨-, ascii, hv⟩ := readAuthority_eq_ok hauthority b hb
    refine ⟨ascii.normalize, (Authority.isVoid_normalize b).trans hv, fun p hport => ?_⟩
    have hmax := fits .port
    rw [Part.fits, show u.normalize.authority = some b.normalize from ha, Option.bind_some,
      show b.normalize.port = some p from hport] at hmax
    simpa using hmax
  case path => exact encoded_of_fits (by decide) hp (fits .path)
  case noDots => exact noDots_removeDots _
  case query => simpa only [normalize, hquery, Option.map_map] using encoded_part hq
  case fragment => simpa only [normalize, hfragment, Option.map_map] using encoded_part hf

variable {u : Uri}

theorem normalize_eq_self (hn : u.IsNormal) : u.normalize = u := by
  have ha : u.authority.map Authority.normalize = u.authority := map_eq_self fun a ha =>
    Authority.normalize_eq_self (hn.authority a ha).1
  have hq : u.query.map upperTriplets = u.query :=
    map_eq_self fun q hq => upperTriplets_eq_self (hn.query q hq)
  have hf : u.fragment.map upperTriplets = u.fragment :=
    map_eq_self fun f hf => upperTriplets_eq_self (hn.fragment f hf)
  rw [normalize, hn.lower, ha, upperTriplets_eq_self hn.path, removeDots_eq_self hn.noDots, hq, hf]

private theorem wellEncoded_part {o : Option Text}
    (h : ∀ t ∈ o, Encoded isCapitalHex isQueryChar t) :
    o.all (wellEncoded isQueryChar) = true := by
  cases o with
  | none => rfl
  | some t => exact (encoded_iff (by decide)).mp (h t rfl).anyCase

theorem faults_eq_nil (hn : u.IsNormal) : u.faults = [] := by
  refine (faults_eq_nil_iff u).mpr fun p => ?_
  cases p with
  | fragment => exact wellEncoded_part hn.fragment
  | path => exact (encoded_iff (by decide)).mp hn.path.anyCase
  | port =>
    cases ha : u.authority with
    | none => simp [Part.fits, ha]
    | some a =>
      cases hp : a.port with
      | none => simp [Part.fits, ha, hp]
      | some p => simpa [Part.fits, ha, hp] using (hn.authority a ha).2.2 p hp
  | query => exact wellEncoded_part hn.query

/-! ## The text -/

def text (u : Uri) : Text :=
  u.scheme ++ ':' :: (Reference.authorityPart (u.authority.map Authority.text) ++
    (u.path ++ (Reference.queryPart u.query ++ Reference.fragmentPart u.fragment)))

def Fits (u : Uri) : Prop := Reference.PathFits (u.authority.map Authority.text) u.path

/-- The characters of a text in normal form. -/
def isTextChar (c : Char) : Bool := isPlain c || c = '%'

theorem endsAuthority_of_mem_text {a : Authority} (hn : a.IsNormal) {c : Char} (hc : c ∈ a.text) :
    Reference.endsAuthority c = false := by
  have h := Authority.isHostChar_of_mem_text hn.isAscii hc
  rw [Bool.eq_false_iff]
  intro he
  simp only [Reference.endsAuthority, Bool.or_eq_true, decide_eq_true_eq] at he
  rcases he with ((rfl | rfl) | rfl) | rfl
  all_goals exact absurd h (by decide)

private theorem encoded_part_text {lead : Char} (hl : lead ≠ '%' ∧ isPlain lead = true) {t : Text}
    (h : Encoded isCapitalHex isQueryChar t) : Encoded isHex isPlain (lead :: t) :=
  .char hl.1 hl.2 (h.anyCase.mono (fun _ h => h) fun _ => isPlain_of_isQueryChar)

/-- The text consists of plain characters and of triplets. -/
theorem encoded_text (hn : u.IsNormal) : Encoded isHex isPlain u.text := by
  have scheme : Encoded isHex isPlain u.scheme := Encoded.of_all fun c hc => by
    refine ⟨?_, isPlain_of_isSchemeChar (hn.scheme.1 c hc)⟩
    rintro rfl
    exact absurd (hn.scheme.1 '%' hc) (by decide)
  have authority :
      Encoded isHex isPlain (Reference.authorityPart (u.authority.map Authority.text)) := by
    cases hu : u.authority with
    | none => exact .nil
    | some a =>
      have inside := Authority.encoded_text (hn.authority a hu).1
      exact .char (by decide) (by decide) (.char (by decide) (by decide) inside)
  have path : Encoded isHex isPlain u.path :=
    hn.path.anyCase.mono (fun _ h => h) fun _ => isPlain_of_isPathChar
  have query : Encoded isHex isPlain (Reference.queryPart u.query) := by
    cases hu : u.query with
    | none => exact .nil
    | some q => exact encoded_part_text (by decide) (hn.query q hu)
  have fragment : Encoded isHex isPlain (Reference.fragmentPart u.fragment) := by
    cases hu : u.fragment with
    | none => exact .nil
    | some f => exact encoded_part_text (by decide) (hn.fragment f hu)
  exact scheme.append (.char (by decide) (by decide)
    (authority.append (path.append (query.append fragment))))

theorem isTextChar_of_mem_text (hn : u.IsNormal) : ∀ c ∈ u.text, isTextChar c = true :=
  (encoded_text hn).forall_mem (P := fun c => isTextChar c = true) (fun _ h => h) (by decide)

theorem mem_query {q : Text} (h : Encoded isCapitalHex isQueryChar q) :
    ∀ c ∈ q, c ≠ '#' ∧ c ≠ '\n' :=
  h.anyCase.forall_mem (P := fun c => c ≠ '#' ∧ c ≠ '\n')
    (fun _ => isPlain_of_isQueryChar) (by decide)

theorem endsPath_of_mem_path {p : Text} (h : Encoded isCapitalHex isPathChar p) :
    ∀ c ∈ p, Reference.endsPath c = false :=
  h.anyCase.forall_mem (P := fun c => Reference.endsPath c = false)
    (fun _ => isPlain_of_isPathChar) (by decide)

theorem text_ne_nil_of_not_isVoid {a : Authority} (hv : a.isVoid = false) : a.text ≠ [] := by
  intro ht
  rw [Authority.text_eq, List.append_eq_nil_iff, List.append_eq_nil_iff, Host.text_eq_nil_iff] at ht
  obtain ⟨hu, hh, hp⟩ := ht
  have void : a.isVoid = true := by
    refine (Authority.isVoid_iff a).mpr ⟨?_, hh, ?_⟩
    · cases hu' : a.userinfo with
      | none => rfl
      | some i => simp [hu', Authority.userinfoText] at hu
    · cases hp' : a.port with
      | none => rfl
      | some p => simp [hp', Authority.portText] at hp
  rw [void] at hv
  cases hv

theorem split_text (hn : u.IsNormal) (hf : u.Fits) :
    Reference.split u.text =
      ⟨some u.scheme, u.authority.map Authority.text, (some u.path).filter (!·.isEmpty), u.query,
        u.fragment⟩ := by
  refine Reference.split_glued ⟨hn.scheme, fun t ht => ?_, hf, endsPath_of_mem_path hn.path, ?_, ?_⟩
  · obtain ⟨a, ha, rfl⟩ := Option.map_eq_some_iff.mp ht
    obtain ⟨hna, hv, -⟩ := hn.authority a ha
    exact ⟨text_ne_nil_of_not_isVoid hv, fun c hc => endsAuthority_of_mem_text hna hc⟩
  · exact fun q hq hm => (mem_query (hn.query q hq) _ hm).1 rfl
  · exact fun f hf hm => (mem_query (hn.fragment f hf) _ hm).2 rfl

private theorem readAuthority_text (hn : u.IsNormal) :
    readAuthority (u.authority.map Authority.text) = .ok u.authority := by
  cases hu : u.authority with
  | none => rfl
  | some a =>
    obtain ⟨hna, hv, -⟩ := hn.authority a hu
    have refuses : isUcs '%' = false := by decide
    simp [readAuthority, Authority.read_text refuses hna.isAscii,
      Authority.toAscii?_eq_self hna, hv]

theorem ofReference_split_text (hn : u.IsNormal) (hf : u.Fits) :
    ofReference (.split u.text) = .ok u := by
  rw [split_text hn hf, ofReference_eq_ok_iff]
  have hpath : ((some u.path).filter (!·.isEmpty)).getD [] = u.path := by cases u.path <;> rfl
  refine ⟨rfl, readAuthority_text hn, ?_, ?_, ?_⟩
  · rw [hpath, encode_eq_self hn.path.anyCase fun _ => isPlain_of_isPathChar]
  · exact (map_eq_self fun q hq =>
      encode_eq_self (hn.query q hq).anyCase fun _ => isPlain_of_isQueryChar).symm
  · exact (map_eq_self fun f hf =>
      encode_eq_self (hn.fragment f hf).anyCase fun _ => isPlain_of_isQueryChar).symm

end GroupWire.Uri
