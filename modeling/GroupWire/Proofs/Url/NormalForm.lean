import GroupWire.Proofs.Url

/-! # What holds of every URL that was read

The normal form is stated on the text and the fields alone: which characters there
are, what stands behind a percent sign, which letters are small, which segments, ports
and empty parts there are not. -/

namespace GroupWire.Url

open Uri

/-- Two digits stand behind every percent sign. -/
def HasTriplets (hex : Char → Bool) (t : Text) : Prop :=
  ∀ s r, t = s ++ '%' :: r → ∃ a b rest, r = a :: b :: rest ∧ hex a = true ∧ hex b = true

/-- No capitals, except in the zone of an address. -/
def IsLowerHost (h : Text) : Prop :=
  h.toLower = h ∨ ∃ a z : Text, h = '[' :: a ++ '%' :: z ++ [']'] ∧
    Host.isSix a = true ∧ a.toLower = a

structure IsNormalForm (u : Url) : Prop where
  characters : ∀ c ∈ u.text, isUnreserved c = true ∨ isSubDelim c = true ∨
    isGenDelim c = true ∨ c = '%'
  triplets : HasTriplets isHex u.text
  capitals : ∀ t, t = u.path ∨ t ∈ u.userinfo ∨ t ∈ u.query ∨ t ∈ u.fragment →
    HasTriplets isCapitalHex t
  scheme : u.scheme.toLower = u.scheme
  host : ∀ h ∈ u.host, IsLowerHost h
  dots : ∀ s ∈ u.path.split '/', s ≠ ['.'] ∧ s ≠ ['.', '.']
  port : ∀ p ∈ u.port, p ≤ 65535 ∧ defaultPort? u.scheme ≠ some p
  special : isSpecial u.scheme = true → (∃ h, u.host = some h ∧ h ≠ []) ∧ u.path ≠ []

/-! ## Triplets -/

theorem hasTriplets_of_encoded {hex ok : Char → Bool} {t : Text} (hx : hex '%' = false)
    (h : Uri.Encoded hex ok t) : HasTriplets hex t := by
  intro s r ht
  induction h generalizing s with
  | nil => simp at ht
  | @char c tail hc allowed _ ih =>
    cases s with
    | nil => exact absurd (List.cons.inj ht).1 hc
    | cons d s => exact ih s (List.cons.inj ht).2
  | @triplet a b tail high low _ ih =>
    -- The percent sign is the one of the triplet or stands behind it, as neither digit is one.
    match s with
    | [] => exact ⟨a, b, tail, (List.cons.inj ht).2.symm, high, low⟩
    | [x] =>
      obtain ⟨-, rfl, -⟩ : '%' = x ∧ a = '%' ∧ _ := by simpa using ht
      exact absurd high (by simp [hx])
    | [x, y] =>
      obtain ⟨-, -, rfl, -⟩ : '%' = x ∧ a = y ∧ b = '%' ∧ _ := by simpa using ht
      exact absurd low (by simp [hx])
    | x :: y :: z :: s =>
      obtain ⟨-, -, -, htail⟩ : '%' = x ∧ a = y ∧ b = z ∧ tail = s ++ '%' :: r := by simpa using ht
      exact ih s htail

/-! ## Hosts and ports -/

theorem isLowerHost_text {h : Host} (hn : h.IsNormal) : IsLowerHost h.text := by
  cases h with
  | name t => exact Or.inl hn.2.2
  | six a zone =>
    obtain ⟨hsix, lower, -⟩ := hn
    cases zone with
    | none =>
      have inside : List.map Char.toLower a = a := lower
      exact Or.inl (by simp [Host.text, Text.toLower, inside])
    | some z => exact Or.inr ⟨a, z, rfl, hsix, lower⟩
  | future t =>
    have inside : List.map Char.toLower t = t := hn.2
    exact Or.inl (by simp [Host.text, Text.toLower, inside])

variable {uri : Uri}

private theorem port_bounds (hn : uri.IsNormal) {p : Nat} (hp : p ∈ (ofUri uri).port) :
    p ≤ maxPort ∧ defaultPort? uri.scheme ≠ some p := by
  obtain ⟨hp, other⟩ := Option.filter_eq_some_iff.mp hp
  obtain ⟨d, hd, rfl⟩ := Option.map_eq_some_iff.mp hp
  obtain ⟨a, ha, hport⟩ := Option.bind_eq_some_iff.mp hd
  exact ⟨(hn.authority a ha).2.2 d hport, Ne.symm (of_decide_eq_true other)⟩

private theorem exists_host (hosted : lacksHost uri = false)
    (special : isSpecial uri.scheme = true) :
    ∃ h, (ofUri uri).host = some h ∧ h ≠ [] := by
  cases ha : uri.authority with
  | none => simp [lacksHost, special, ha] at hosted
  | some a =>
    exact ⟨a.host.text, by simp [ofUri, ha], by simpa [lacksHost, special, ha] using hosted⟩

private theorem path_ne_nil_of_special (special : isSpecial uri.scheme = true) :
    (ofUri uri).path ≠ [] := by
  cases hp : uri.path <;> simp [ofUri, special, hp]

/-! ## The normal form -/

private theorem hasTriplets_part (hs : IsSource uri) {t : Text}
    (ht : t = (ofUri uri).path ∨ t ∈ (ofUri uri).userinfo ∨
    t ∈ (ofUri uri).query ∨ t ∈ (ofUri uri).fragment) : HasTriplets isCapitalHex t := by
  have digits : isCapitalHex '%' = false := by decide
  rcases ht with rfl | hu | hq | hf
  · exact hasTriplets_of_encoded digits hs.tidy.normal.path
  · obtain ⟨a, ha, hi⟩ := Option.bind_eq_some_iff.mp hu
    exact hasTriplets_of_encoded digits ((hs.normal.authority a ha).1.userinfo t hi).2
  · exact hasTriplets_of_encoded digits (hs.normal.query t hq)
  · exact hasTriplets_of_encoded digits (hs.normal.fragment t hf)

theorem isNormalForm_of_parse {raw : Text} {u : Url} (parsed : parse raw = .ok u) :
    u.IsNormalForm := by
  obtain ⟨uri, hs, rfl⟩ := exists_source parsed
  constructor
  case characters =>
    intro c hc
    rw [text_ofUri] at hc
    have plain := isTextChar_of_mem_text hs.tidy.normal c hc
    simpa [isTextChar, isPlain, or_assoc] using plain
  case triplets =>
    rw [text_ofUri]
    exact hasTriplets_of_encoded (by decide) (encoded_text hs.tidy.normal)
  case capitals => exact fun t => hasTriplets_part hs
  case scheme => exact hs.normal.lower
  case host =>
    intro h hh
    obtain ⟨a, ha, rfl⟩ := Option.map_eq_some_iff.mp hh
    exact isLowerHost_text (hs.normal.authority a ha).1.host
  case dots => exact fun s hseg => not_or.mp (hs.tidy.normal.noDots s hseg)
  case port => exact fun p hp => port_bounds hs.normal hp
  case special => exact fun special =>
    ⟨exists_host hs.hosted special, path_ne_nil_of_special special⟩

theorem isNormalForm_of_mixed_case :
    let u : Url := ⟨"wss", some "m%C3%A9:%C3%BC", some "[fe80::a%25eN%3a]", none, "/a/b%2F",
      some "%E9", some "%C3%A9"⟩
    parse " WSS://m%c3%a9:\u00fc@[FE80::A%eN%3a]:00443/a/./%7e/../b%2f?%e9#\u00e9 " = .ok u ∧
      u.IsNormalForm := by
  intro u
  have parsed : parse " WSS://m%c3%a9:\u00fc@[FE80::A%eN%3a]:00443/a/./%7e/../b%2f?%e9#\u00e9 " =
      .ok u := by rfl
  exact ⟨parsed, isNormalForm_of_parse parsed⟩

end GroupWire.Url
