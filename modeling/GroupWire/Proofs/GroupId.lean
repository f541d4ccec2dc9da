import GroupWire.GroupId
import GroupWire.Proofs.Text
import GroupWire.Proofs.Url.Hostless
import GroupWire.Proofs.Url.LastSlash

/-! # Group identifiers written and read again

An identifier is written without the last slash of its relay, so it is read as itself only if
reading puts that slash back, and only if the relay shows no delimiter of its own. -/

namespace GroupWire.GroupId

open Uri

theorem check_eq_ok (n : Name) : check n.1 = .ok n := by
  obtain ⟨t, ne, all⟩ := n
  rw [check, dif_neg ne, dif_pos all]

theorem delimiter_not_mem_id (g : GroupId) : delimiter ∉ g.id := by
  intro hm
  have h := List.all_eq_true.mp g.valid.2 _ hm
  exact absurd h (by decide)

theorem mem_dropSlash_iff {c : Char} (hc : c ≠ '/') (t : Text) : c ∈ dropSlash t ↔ c ∈ t := by
  rw [dropSlash]
  split
  · rename_i hl
    rcases List.eq_nil_or_concat t with rfl | ⟨r, d, rfl⟩
    · simp
    · obtain rfl : d = '/' := by simpa [List.getLast?_append] using hl
      simp [hc]
  · rfl

/-- The relay and the name of an identifier are found again, and nothing else is. -/
theorem parse_canonical_eq_ok_iff (g h : GroupId) :
    parse g.canonical = .ok h ↔
      delimiter ∉ g.relay.text ∧
      ∃ w, Url.parse (dropSlash g.relay.text) = .ok w ∧ h = { g with relay := w } := by
  have pieces : g.canonical.split delimiter =
      (dropSlash g.relay.text).split delimiter ++ [g.id] := by
    rw [canonical, Text.split_append_cons, Text.split_of_not_mem (delimiter_not_mem_id g)]
  rw [← mem_dropSlash_iff (by decide) g.relay.text]
  by_cases marked : delimiter ∈ dropSlash g.relay.text
  · refine iff_of_false (fun hp => ?_) fun hc => hc.1 marked
    unfold parse at hp
    split at hp
    · rename_i relay id hsplit
      have length := congrArg List.length (pieces.symm.trans hsplit)
      have many := List.count_pos_iff.mpr marked
      simp only [List.length_append, Text.length_split, List.length_cons, List.length_nil] at length
      omega
    · cases hp
  · rw [Text.split_of_not_mem marked] at pieces
    have made (w : Url) : make w g.id = .ok { g with relay := w } := by
      rw [make, check_eq_ok ⟨g.id, g.valid⟩]
      rfl
    simp only [parse, pieces, List.cons_append, List.nil_append, marked,
      not_false_eq_true, true_and]
    cases Url.parse (dropSlash g.relay.text) with
    | error e => simp [Except.mapError, bind, Except.bind]
    | ok w => simp [Except.mapError, bind, Except.bind, made, eq_comm]

/-- Identifiers are compared by the texts of their relays. -/
theorem reads_back_iff (g : GroupId) :
    (∃ h, parse g.canonical = .ok h ∧ (h == g) = true) ↔
      delimiter ∉ g.relay.text ∧
      ∃ w, Url.parse (dropSlash g.relay.text) = .ok w ∧ w.text = g.relay.text := by
  have same (w : Url) : ({ g with relay := w } == g) = true ↔ w.text = g.relay.text := by
    change ((w.text == g.relay.text) && decide (g.id = g.id)) = true ↔ _
    simp
  constructor
  · rintro ⟨h, parsed, equal⟩
    obtain ⟨unmarked, w, read, rfl⟩ := (parse_canonical_eq_ok_iff g h).mp parsed
    exact ⟨unmarked, w, read, (same w).mp equal⟩
  · rintro ⟨unmarked, w, read, equal⟩
    exact ⟨_, (parse_canonical_eq_ok_iff g _).mpr ⟨unmarked, w, read, rfl⟩, (same w).mpr equal⟩

theorem dropSlash_of_slash {t : Text} (hl : t.getLast? = some '/') : dropSlash t = t.dropLast :=
  if_pos hl

theorem dropSlash_of_not_slash {t : Text} (hl : t.getLast? ≠ some '/') : dropSlash t = t :=
  if_neg hl

private theorem parse_dropSlash_iff {u : Url} (accepted : ∃ raw, Url.parse raw = .ok u)
    (formed : u.WellFormed) :
    (∃ w, Url.parse (dropSlash u.text) = .ok w ∧ w.text = u.text) ↔
      u.text.getLast? ≠ some '/' ∨ u.IsBareRoot := by
  obtain ⟨raw, parsed⟩ := accepted
  obtain ⟨uri, hs, rfl⟩ := Url.exists_source parsed
  by_cases hl : (Url.ofUri uri).text.getLast? = some '/'
  · rw [dropSlash_of_slash hl, Url.parse_dropLast_iff hs formed hl]
    simp [hl]
  · rw [dropSlash_of_not_slash hl]
    exact iff_of_true ⟨_, Url.parse_text_ofUri hs formed, rfl⟩ (Or.inl hl)

/-- Identifiers of well-formed relays are read back exactly if the relay shows no delimiter and no
last slash but that of a bare root. -/
theorem reads_back_iff_of_wellFormed {g : GroupId} (accepted : ∃ raw, Url.parse raw = .ok g.relay)
    (formed : g.relay.WellFormed) :
    (∃ h, parse g.canonical = .ok h ∧ (h == g) = true) ↔
      delimiter ∉ g.relay.text ∧ (g.relay.text.getLast? ≠ some '/' ∨ g.relay.IsBareRoot) := by
  rw [reads_back_iff, parse_dropSlash_iff accepted formed]

theorem bare_root_reads_back :
    let g : GroupId :=
      ⟨⟨"wss", none, some "relay.example", none, "/", none, none⟩, "rust-devs", by decide⟩
    (∃ raw, Url.parse raw = .ok g.relay) ∧ g.relay.WellFormed ∧
      ∃ h, parse g.canonical = .ok h ∧ (h == g) = true := by
  intro g
  have accepted : ∃ raw, Url.parse raw = .ok g.relay := ⟨"WSS://Relay.Example:443", by rfl⟩
  have formed : g.relay.WellFormed := Or.inr rfl
  exact ⟨accepted, formed,
    (reads_back_iff_of_wellFormed accepted formed).mpr ⟨by decide, Or.inr (by decide)⟩⟩

/-! ## Relays of any shape -/

private theorem no_backslash_of_accepted {u : Url} (accepted : ∃ raw, Url.parse raw = .ok u) :
    '\\' ∉ u.text := by
  obtain ⟨raw, parsed⟩ := accepted
  obtain ⟨uri, hs, rfl⟩ := Url.exists_source parsed
  rw [Url.text_ofUri]
  exact fun hm => absurd (isTextChar_of_mem_text hs.tidy.normal _ hm) (by decide)

private theorem wellFormed_of_no_backslash {t : Text} {w : Url} (parsed : Url.parse t = .ok w)
    (clean : '\\' ∉ t) (hosted : w.host ≠ none) : w.WellFormed :=
  (Url.wellFormed_iff_isRooted hosted).mpr
    ((Url.isRooted_path_iff parsed hosted).mpr (Url.not_strays_of_no_backslash clean))

/-- What was read has one slash more than the text it was read from, as no URL without a host
has. -/
private theorem host_of_dropLast {t : Text} {w : Url} (hl : t.getLast? = some '/')
    (parsed : Url.parse t.dropLast = .ok w) (same : w.text = t) : w.host ≠ none := by
  intro alone
  have h := Url.count_slash_text_le parsed alone
  rcases List.eq_nil_or_concat t with rfl | ⟨r, d, rfl⟩
  · simp at hl
  · obtain rfl : d = '/' := by simpa [List.getLast?_append] using hl
    rw [same, List.concat_eq_append, List.dropLast_concat, List.count_append,
      List.count_singleton_self] at h
    omega

private theorem host_of_isBareRoot {t : Text} {v : Url} (parsed : Url.parse t = .ok v)
    (bare : v.IsBareRoot) : v.host ≠ none := by
  obtain ⟨uri, hs, rfl⟩ := Url.exists_source parsed
  intro alone
  have ha : uri.authority = none := by simpa [Url.ofUri] using alone
  have hosted := hs.hosted
  simp [Url.lacksHost, ha, show Url.isSpecial uri.scheme = true from bare.1] at hosted

/-- A text that reading restores without its last slash is read as a bare root. -/
private theorem bare_root_of_dropLast {t : Text} {w : Url} (clean : '\\' ∉ t)
    (hl : t.getLast? = some '/') (parsed : Url.parse t.dropLast = .ok w)
    (same : w.text = t) : Url.parse t = .ok w ∧ w.IsBareRoot := by
  have formed : w.WellFormed :=
    wellFormed_of_no_backslash parsed (fun hm => clean (List.dropLast_subset t hm))
      (host_of_dropLast hl parsed same)
  have restored : ∃ v, Url.parse (dropSlash w.text) = .ok v ∧ v.text = w.text :=
    ⟨w, by rwa [same, dropSlash_of_slash hl], rfl⟩
  have kept := (parse_dropSlash_iff ⟨_, parsed⟩ formed).mp restored
  obtain ⟨uri, hs, rfl⟩ := Url.exists_source parsed
  have again := Url.parse_text_ofUri hs formed
  rw [same] at again kept
  exact ⟨again, kept.resolve_left fun h => h hl⟩

private theorem restored_of_bare_root {t : Text} {v : Url} (clean : '\\' ∉ t)
    (parsed : Url.parse t = .ok v) (same : v.text = t)
    (bare : v.IsBareRoot) : ∃ w, Url.parse (dropSlash t) = .ok w ∧ w.text = t := by
  have formed : v.WellFormed :=
    wellFormed_of_no_backslash parsed clean (host_of_isBareRoot parsed bare)
  have back := (parse_dropSlash_iff ⟨t, parsed⟩ formed).mpr (Or.inr bare)
  rwa [same] at back

/-- Identifiers of any relay are read back exactly if the relay shows no delimiter, its text is read
as itself, and it is read without a last slash but that of a bare root. -/
theorem reads_back_iff_of_accepted {g : GroupId} (accepted : ∃ raw, Url.parse raw = .ok g.relay) :
    (∃ h, parse g.canonical = .ok h ∧ (h == g) = true) ↔
      delimiter ∉ g.relay.text ∧ ∃ v, Url.parse g.relay.text = .ok v ∧ v.text = g.relay.text ∧
        (g.relay.text.getLast? ≠ some '/' ∨ v.IsBareRoot) := by
  have clean := no_backslash_of_accepted accepted
  rw [reads_back_iff]
  refine and_congr_right fun _ => ?_
  by_cases hl : g.relay.text.getLast? = some '/'
  · constructor
    · rintro ⟨w, read, same⟩
      rw [dropSlash_of_slash hl] at read
      obtain ⟨again, bare⟩ := bare_root_of_dropLast clean hl read same
      exact ⟨w, again, same, Or.inr bare⟩
    · rintro ⟨v, read, same, kept⟩
      exact restored_of_bare_root clean read same (kept.resolve_left fun h => h hl)
  · rw [dropSlash_of_not_slash hl]
    constructor
    · rintro ⟨w, read, same⟩
      exact ⟨w, read, same, Or.inl hl⟩
    · rintro ⟨v, read, same, -⟩
      exact ⟨v, read, same⟩

theorem hostless_reads_back :
    let g : GroupId := ⟨⟨"foo", none, none, none, "/a", some "b/c", none⟩, "_", by decide⟩
    (∃ raw, Url.parse raw = .ok g.relay) ∧ ∃ h, parse g.canonical = .ok h ∧ (h == g) = true := by
  intro g
  have accepted : ∃ raw, Url.parse raw = .ok g.relay := ⟨"Foo:/./a?b/c", by rfl⟩
  have text : g.relay.text = "foo:/a?b/c" := by rfl
  have again : Url.parse g.relay.text = .ok g.relay := by
    rw [text]
    rfl
  exact ⟨accepted,
    (reads_back_iff_of_accepted accepted).mpr ⟨by decide, g.relay, again, rfl, Or.inl (by decide)⟩⟩

/-- A relay that shows an apostrophe is refused, and one that ends in a slash comes back without
it. -/
theorem canonical_loses_relay :
    let marked : GroupId := ⟨⟨"wss", none, some "h", none, "/it's", none, none⟩, "x", by decide⟩
    let nested : GroupId := ⟨⟨"wss", none, some "h", none, "/nostr/", none, none⟩, "x", by decide⟩
    (Url.parse "wss://h/it's" = .ok marked.relay ∧ ¬ ∃ h, parse marked.canonical = .ok h) ∧
      Url.parse "wss://h/nostr/" = .ok nested.relay ∧
        ∃ h, parse nested.canonical = .ok h ∧ h.relay.text = "wss://h/nostr" ∧
        nested.relay.text = "wss://h/nostr/" := by
  intro marked nested
  refine ⟨⟨by rfl, ?_⟩, by rfl, ?_⟩
  · rintro ⟨h, parsed⟩
    exact absurd ((parse_canonical_eq_ok_iff marked h).mp parsed).1 (by decide)
  · have text : dropSlash nested.relay.text = "wss://h/nostr" := by rfl
    have read : Url.parse (dropSlash nested.relay.text) =
        .ok ⟨"wss", none, some "h", none, "/nostr", none, none⟩ := by
      rw [text]
      rfl
    exact ⟨_, (parse_canonical_eq_ok_iff nested _).mpr ⟨by decide, _, read, rfl⟩, by rfl, by rfl⟩

end GroupWire.GroupId
