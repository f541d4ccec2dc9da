import GroupWire.Proofs.Uri
import GroupWire.Url

/-! # URLs written and read again

A URL that was read is made of a URI in normal form. It is written as that URI without its default
port and with a slash for an empty path where the scheme asks for one, and it is read again as
itself if its path fits its host. -/

namespace GroupWire.Url

open Uri

/-- What a URL is made of. -/
structure IsSource (uri : Uri) : Prop where
  normal : uri.IsNormal
  hosted : lacksHost uri = false

/-- The path neither runs into the authority nor becomes one. -/
def WellFormed (u : Url) : Prop := Reference.PathFits u.host u.path

theorem parse_eq_ok_iff {raw : Text} {u : Url} :
    parse raw = .ok u ↔ '\x00' ∉ raw ∧
      ∃ uri, ofReference (.split raw.trim) = .ok uri ∧ uri.normalize.faults = [] ∧
      lacksHost uri.normalize = false ∧ ofUri uri.normalize = u := by
  unfold parse
  constructor
  · intro h
    split at h
    · cases h
    · rename_i hnul
      refine ⟨by simpa using hnul, ?_⟩
      split at h
      · cases h
      · cases h
      · rename_i uri huri
        dsimp only at h
        split at h
        · cases h
        · rename_i hsound
          split at h
          · cases h
          · rename_i hhost
            exact ⟨uri, huri, by simpa using hsound, by simpa using hhost, by simpa using h⟩
  · rintro ⟨hnul, uri, huri, hsound, hhost, rfl⟩
    rw [if_neg (by simpa using hnul), huri]
    simp [hsound, hhost]

theorem exists_source {raw : Text} {u : Url} (h : parse raw = .ok u) :
    ∃ uri, IsSource uri ∧ ofUri uri = u := by
  obtain ⟨-, uri, huri, hsound, hhost, rfl⟩ := parse_eq_ok_iff.mp h
  exact ⟨uri.normalize, ⟨isNormal_normalize huri hsound, hhost⟩, rfl⟩

theorem isBlank_of_isTextChar {c : Char} (h : isTextChar c = true) : Text.isBlank c = false := by
  simp only [isTextChar, Bool.or_eq_true, decide_eq_true_eq] at h
  rcases h with h | rfl
  · exact of_plain (P := fun c => Text.isBlank c = false) (by decide) h
  · decide

theorem trim_text {uri : Uri} (hn : uri.IsNormal) : uri.text.trim = uri.text :=
  Text.trimBy_eq_self fun c hc => isBlank_of_isTextChar (isTextChar_of_mem_text hn c hc)

theorem parse_text_of_isSource {uri : Uri} (hs : IsSource uri) (hf : uri.Fits) :
    parse uri.text = .ok (ofUri uri) := by
  have chars := isTextChar_of_mem_text hs.normal
  have same := normalize_eq_self hs.normal
  refine parse_eq_ok_iff.mpr ⟨fun hm => absurd (chars _ hm) (by decide), uri, ?_, ?_, ?_, ?_⟩
  · rw [trim_text hs.normal, ofReference_split_text hs.normal hf]
  · rw [same, faults_eq_nil hs.normal]
  · rw [same, hs.hosted]
  · rw [same]

/-! ## Writing -/

def tidyPort (default : Option Nat) (port : Option Text) : Option Text :=
  ((port.map (Text.toNat 10)).filter (some · ≠ default)).map Text.ofNat

def tidyPath (special : Bool) (path : Text) : Text :=
  if special && path.isEmpty then ['/'] else path

/-- The URI that the text of a URL spells out. -/
def tidy (uri : Uri) : Uri :=
  { uri with
    authority := uri.authority.map fun a =>
      { a with port := tidyPort (defaultPort? uri.scheme) a.port }
    path := tidyPath (isSpecial uri.scheme) uri.path }

private theorem toNat_tidyPort (default : Option Nat) (port : Option Text) :
    (tidyPort default port).map (Text.toNat 10) =
    (port.map (Text.toNat 10)).filter (some · ≠ default) := by
  have inverse : Text.toNat 10 ∘ Text.ofNat = id := funext Text.toNat_ofNat
  rw [tidyPort, Option.map_map, inverse, Option.map_id, id]

theorem authorityText_ofUri (uri : Uri) :
    (ofUri uri).authorityText = (tidy uri).authority.map Authority.text := by
  cases h : uri.authority with
  | none => simp [authorityText, ofUri, tidy, h]
  | some a =>
    simp only [authorityText, ofUri, tidy, h, Option.map_some, Option.bind_some,
      Authority.text, tidyPort]
    cases (a.port.map (Text.toNat 10)).filter (some · ≠ defaultPort? uri.scheme) <;> rfl

theorem text_ofUri (uri : Uri) : (ofUri uri).text = (tidy uri).text := by
  rw [Url.text, authorityText_ofUri, Uri.text]
  cases (tidy uri).authority.map Authority.text <;> cases hq : uri.query <;>
    cases hf : uri.fragment <;>
    simp [ofUri, tidy, tidyPath, hq, hf, Reference.authorityPart, Reference.queryPart,
      Reference.fragmentPart]

private theorem tidyPort_tidyPort (default : Option Nat) (port : Option Text) :
    tidyPort default (tidyPort default port) = tidyPort default port := by
  have twice := toNat_tidyPort default port
  rw [tidyPort, twice, Option.filter_filter, tidyPort]
  simp

private theorem tidyPath_tidyPath (special : Bool) (path : Text) :
    tidyPath special (tidyPath special path) = tidyPath special path := by
  by_cases h : (special && path.isEmpty) = true
  · simp [tidyPath, h]
  · have same : tidyPath special path = path := if_neg h
    rw [same, same]

theorem tidy_tidy (uri : Uri) : tidy (tidy uri) = tidy uri := by
  simp only [tidy, Option.map_map, tidyPath_tidyPath, Function.comp_def, tidyPort_tidyPort]

theorem ofUri_tidy (uri : Uri) : ofUri (tidy uri) = ofUri uri := by
  have userinfo : (tidy uri).authority.bind (·.userinfo) = uri.authority.bind (·.userinfo) := by
    cases h : uri.authority <;> simp [tidy, h]
  have host : (tidy uri).authority.map (·.host.text) = uri.authority.map (·.host.text) := by
    cases h : uri.authority <;> simp [tidy, h]
  have port : ((tidy uri).authority.bind (·.port)).map (Text.toNat 10) =
      ((uri.authority.bind (·.port)).map (Text.toNat 10)).filter
      (some · ≠ defaultPort? uri.scheme) := by
    cases h : uri.authority with
    | none => simp [tidy, h]
    | some a => simpa [tidy, h] using toNat_tidyPort (defaultPort? uri.scheme) a.port
  have path : (ofUri (tidy uri)).path = (ofUri uri).path := tidyPath_tidyPath _ _
  have dropped : (ofUri (tidy uri)).port = (ofUri uri).port := by
    have scheme : (tidy uri).scheme = uri.scheme := rfl
    simp only [ofUri, port, scheme, Option.filter_filter, Bool.and_self]
  simp only [ofUri, Url.mk.injEq] at path dropped ⊢
  exact ⟨rfl, userinfo, host, dropped, path, rfl, rfl⟩

private theorem mem_tidyPort {default : Option Nat} {port : Option Text} {p : Text}
    (h : p ∈ tidyPort default port) : ∃ d ∈ port, p = Text.ofNat (Text.toNat 10 d) := by
  obtain ⟨n, hn, rfl⟩ := Option.map_eq_some_iff.mp h
  obtain ⟨hn, -⟩ := Option.filter_eq_some_iff.mp hn
  obtain ⟨d, hd, rfl⟩ := Option.map_eq_some_iff.mp hn
  exact ⟨d, hd, rfl⟩

private theorem isPortText_ofNat {n : Nat} (h : n ≤ maxPort) :
    Authority.IsPortText (Text.ofNat n) := by
  have short : n < 10 ^ 5 := Nat.lt_of_le_of_lt h (by decide)
  exact ⟨Text.ofNat_ne_nil n, Text.ofNat_isDigit n,
    (Nat.length_toDigits_le_iff (by decide) (by decide)).mpr short⟩

private theorem lacksHost_tidy (uri : Uri) : lacksHost (tidy uri) = lacksHost uri := by
  cases h : uri.authority <;> simp [lacksHost, tidy, h]

/-- A port is dropped only under a scheme that needs a host, so no authority is left void. -/
private theorem isVoid_tidy {uri : Uri} (hosted : lacksHost uri = false) {a : Authority}
    (ha : uri.authority = some a) (hv : a.isVoid = false) :
    Authority.isVoid { a with port := tidyPort (defaultPort? uri.scheme) a.port } = false := by
  rw [Bool.eq_false_iff] at hv ⊢
  intro void
  obtain ⟨hu, hh, hp⟩ := (Authority.isVoid_iff _).mp void
  refine hv ((Authority.isVoid_iff a).mpr ⟨hu, hh, ?_⟩)
  cases hport : a.port with
  | none => rfl
  | some p =>
    have default : some (Text.toNat 10 p) = defaultPort? uri.scheme := by
      simpa [tidyPort, hport, Option.filter_some] using hp
    have nameless : a.host.text = [] := (Host.text_eq_nil_iff _).mpr hh
    simp [lacksHost, isSpecial, ← default, ha, nameless] at hosted

private theorem encoded_tidyPath {special : Bool} {path : Text}
    (h : Uri.Encoded isCapitalHex isPathChar path) :
    Uri.Encoded isCapitalHex isPathChar (tidyPath special path) := by
  rw [tidyPath]
  split
  · exact .char (by decide) (by decide) .nil
  · exact h

private theorem noDots_tidyPath {special : Bool} {path : Text} (h : NoDots path) :
    NoDots (tidyPath special path) := by
  rw [tidyPath]
  split
  · simp [NoDots, IsDot, Text.split]
  · exact h

theorem IsSource.tidy {uri : Uri} (hs : IsSource uri) : IsSource (tidy uri) := by
  obtain ⟨hn, hosted⟩ := hs
  refine ⟨?_, by rwa [lacksHost_tidy]⟩
  constructor
  case scheme => exact hn.scheme
  case lower => exact hn.lower
  case authority =>
    intro b hb
    obtain ⟨a, ha, rfl⟩ := Option.map_eq_some_iff.mp hb
    obtain ⟨hna, hv, hmax⟩ := hn.authority a ha
    have bounded : ∀ p ∈ tidyPort (defaultPort? uri.scheme) a.port,
        Authority.IsPortText p ∧ Text.toNat 10 p ≤ maxPort := by
      intro p hp
      obtain ⟨d, hd, rfl⟩ := mem_tidyPort hp
      rw [Text.toNat_ofNat]
      exact ⟨isPortText_ofNat (hmax d hd), hmax d hd⟩
    exact ⟨⟨hna.userinfo, hna.host, fun p hp => (bounded p hp).1⟩, isVoid_tidy hosted ha hv,
      fun p hp => (bounded p hp).2⟩
  case path => exact encoded_tidyPath hn.path
  case noDots => exact noDots_tidyPath hn.noDots
  case query => exact hn.query
  case fragment => exact hn.fragment

theorem fits_tidy_iff (uri : Uri) : (tidy uri).Fits ↔ (ofUri uri).WellFormed := by
  cases h : uri.authority with
  | none => simp only [Fits, WellFormed, ofUri, Url.tidy, tidyPath, h, Option.map_none]
  | some a =>
    simp only [Fits, WellFormed, ofUri, Url.tidy, tidyPath, h, Option.map_some, Reference.PathFits]

/-! ## Reading what was written -/

theorem parse_text_ofUri {uri : Uri} (hs : IsSource uri) (formed : (ofUri uri).WellFormed) :
    parse (ofUri uri).text = .ok (ofUri uri) := by
  rw [text_ofUri, parse_text_of_isSource hs.tidy ((fits_tidy_iff uri).mpr formed), ofUri_tidy]

/-- Well-formed URLs are fixed points of reading: the text is read as the same URL, in all its
parts. -/
theorem parse_text {raw : Text} {u : Url} (parsed : parse raw = .ok u) (formed : u.WellFormed) :
    parse u.text = .ok u := by
  obtain ⟨uri, hs, rfl⟩ := exists_source parsed
  exact parse_text_ofUri hs formed

theorem parse_text_of_relay :
    let u : Url := ⟨"wss", some "me", some "[fe80::1%25en]", none, "/c%7E", some [], none⟩
    parse "WSS://me@[FE80::1%en]:443/a/../c%7e?" = .ok u ∧ u.WellFormed ∧ parse u.text = .ok u := by
  have parsed : parse "WSS://me@[FE80::1%en]:443/a/../c%7e?" =
      .ok ⟨"wss", some "me", some "[fe80::1%25en]", none, "/c%7E", some [], none⟩ := by rfl
  exact ⟨parsed, Or.inr rfl, parse_text parsed (Or.inr rfl)⟩

end GroupWire.Url
