import GroupWire.Proofs.Uri.Extent
import GroupWire.Proofs.Url

/-! # What is left out of a URL

What a URL is read from may have a line feed at the end of its authority, and more than one line
behind its number sign: neither that line feed nor the further lines are found in the URL. The
userinfo and the first of the lines are there, encoded. -/

namespace GroupWire.Url

open Uri

variable {raw : Text} {u : Url}

private theorem exists_read {t : Text} {authority : Option Authority}
    (h : readAuthority (some t) = .ok authority) :
    ∃ a b, Authority.read isUcs t = some a ∧ a.toAscii? = some b ∧
      authority = if b.isVoid then none else some b := by
  rw [readAuthority] at h
  split at h
  · cases h
  · rename_i b hb
    obtain ⟨a, ha, hb⟩ := Option.bind_eq_some_iff.mp hb
    exact ⟨a, b, ha, hb, (Except.ok.inj h).symm⟩

private theorem userinfo_of_readAuthority {span : Option Text} {authority : Option Authority}
    (h : readAuthority (span.filter (!·.isEmpty)) = .ok authority) :
    authority.bind (·.userinfo) = (span.bind userinfoSpan?).map encode := by
  match span, h with
  | none, h =>
    obtain rfl := Except.ok.inj h
    rfl
  | some [], h =>
    obtain rfl := Except.ok.inj h
    rfl
  | some (c :: r), h =>
    obtain ⟨a, b, read, ascii, rfl⟩ := exists_read h
    have same : b.userinfo = (userinfoSpan? (c :: r)).map encode := by
      rw [(Authority.toAscii?_eq_some ascii).1, Authority.userinfo_of_read read]
    rw [Option.bind_some, ← same]
    split
    · rename_i void
      exact ((Authority.isVoid_iff b).mp void).1.symm
    · rfl

/-- The authority of an accepted text is empty, or it is one that was read. -/
theorem readAuthority_span {uri : Uri} (huri : ofReference (.split raw.trim) = .ok uri) :
    readAuthority ((authoritySpan? raw.trim).filter (!·.isEmpty)) = .ok uri.authority := by
  obtain ⟨hscheme, hauthority, -⟩ := ofReference_eq_ok_iff.mp huri
  rwa [authority_split hscheme] at hauthority

theorem tight_authority_iff (parsed : parse raw = .ok u) {a : Text}
    (ha : authoritySpan? raw.trim = some a) :
    (∀ c ∈ a, isLoose c = false) ↔
      ¬ ['\n'] <:+ a ∧ ∀ i ∈ userinfoSpan? a, ∀ c ∈ i, Text.isBlank c = false := by
  obtain ⟨-, uri, huri, -⟩ := parse_eq_ok_iff.mp parsed
  have read := readAuthority_span huri
  rw [ha] at read
  cases a with
  | nil => simp [userinfoSpan?]
  | cons c r =>
    obtain ⟨x, y, hx, hy, -⟩ := exists_read read
    exact Authority.tight_iff hx hy

theorem userinfo_of_parse (parsed : parse raw = .ok u) :
    u.userinfo = ((authoritySpan? raw.trim).bind userinfoSpan?).map (upperTriplets ∘ encode) := by
  obtain ⟨-, uri, huri, -, -, rfl⟩ := parse_eq_ok_iff.mp parsed
  have normal : (ofUri uri.normalize).userinfo =
      (uri.authority.bind (·.userinfo)).map upperTriplets := by
    cases ha : uri.authority <;> simp [ofUri, Uri.normalize, Authority.normalize, ha]
  rw [normal, userinfo_of_readAuthority (readAuthority_span huri), Option.map_map]

theorem fragment_of_parse (parsed : parse raw = .ok u) :
    fragmentSpan? u.text =
      (fragmentSpan? raw.trim).map (upperTriplets ∘ encode ∘ List.takeWhile (· ≠ '\n')) := by
  have hs := parse_eq_ok_iff.mp parsed
  obtain ⟨-, uri, huri, sound, hosted, rfl⟩ := hs
  have source : IsSource uri.normalize := ⟨isNormal_normalize huri sound, hosted⟩
  obtain ⟨hscheme, -, -, -, hfragment⟩ := ofReference_eq_ok_iff.mp huri
  rw [text_ofUri, fragmentSpan?_text source.tidy.normal]
  rw [fragment_split hscheme] at hfragment
  have kept : (tidy uri.normalize).fragment = uri.fragment.map upperTriplets := rfl
  rw [kept, hfragment, Option.map_map, Option.map_map]
  rfl

/-- The authority of an accepted text has neither white space nor control characters exactly if
it does not end in a line feed and its userinfo, which is kept in any case, has none of the white
space of other scripts. The fragment of the URL is that of the text exactly if no line feed
stands behind the number sign. -/
theorem whole_iff (parsed : parse raw = .ok u) :
    ((∀ a ∈ authoritySpan? raw.trim, ∀ c ∈ a, isLoose c = false) ↔ ∀ a ∈ authoritySpan? raw.trim,
      ¬ ['\n'] <:+ a ∧ ∀ i ∈ userinfoSpan? a, ∀ c ∈ i, Text.isBlank c = false) ∧
      u.userinfo = ((authoritySpan? raw.trim).bind userinfoSpan?).map (upperTriplets ∘ encode) ∧
      (fragmentSpan? u.text = (fragmentSpan? raw.trim).map (upperTriplets ∘ encode) ↔
        ∀ f ∈ fragmentSpan? raw.trim, '\n' ∉ f) := by
  refine ⟨forall₂_congr fun a ha => tight_authority_iff parsed ha, userinfo_of_parse parsed, ?_⟩
  rw [fragment_of_parse parsed]
  cases fragmentSpan? raw.trim with
  | none => simp
  | some f => simpa using line_encoded_eq_iff f

theorem whole_of_one_line :
    let raw : Text := " foo://me\u00a0@H/\n?\n#\u00e9%c3 "
    let u : Url := ⟨"foo", some "me%C2%A0", some "h", none, "/%0A", some "%0A", some "%C3%A9%C3"⟩
    parse raw = .ok u ∧ ¬ (∀ a ∈ authoritySpan? raw.trim, ∀ c ∈ a, isLoose c = false) ∧
      u.userinfo = ((authoritySpan? raw.trim).bind userinfoSpan?).map (upperTriplets ∘ encode) ∧
      fragmentSpan? u.text = (fragmentSpan? raw.trim).map (upperTriplets ∘ encode) := by
  have parsed : parse " foo://me\u00a0@H/\n?\n#\u00e9%c3 " =
      .ok ⟨"foo", some "me%C2%A0", some "h", none, "/%0A", some "%0A", some "%C3%A9%C3"⟩ := by rfl
  have authority :
      authoritySpan? (Text.trim " foo://me\u00a0@H/\n?\n#\u00e9%c3 ") = some "me\u00a0@H" := by rfl
  have fragment :
      fragmentSpan? (Text.trim " foo://me\u00a0@H/\n?\n#\u00e9%c3 ") = some "\u00e9%c3" := by rfl
  obtain ⟨tight, userinfo, line⟩ := whole_iff parsed
  refine ⟨parsed, fun all => ?_, userinfo, line.mpr ?_⟩
  · have clear := (tight.mp all _ authority).2 "me\u00a0" (by rfl) '\u00a0' (by decide)
    exact absurd clear (by decide)
  · rw [fragment]
    rintro f ⟨⟩
    decide

/-- The host loses a line feed, and the fragment all but its first line. -/
theorem cut_at_lineFeed :
    let u : Url := ⟨"wss", none, some "h", none, "/x", none, none⟩
    let v : Url := ⟨"foo", none, none, none, "a", none, some "b"⟩
    (parse "wss://h\n/x" = .ok u ∧
      ∃ a ∈ authoritySpan? (Text.trim "wss://h\n/x"), ∃ c ∈ a, isLoose c = true) ∧
      parse "foo:a#b\nc" = .ok v ∧ fragmentSpan? v.text = some "b" ∧
      (fragmentSpan? (Text.trim "foo:a#b\nc")).map (upperTriplets ∘ encode) = some "b%0Ac" := by
  have parsed : parse "wss://h\n/x" = .ok ⟨"wss", none, some "h", none, "/x", none, none⟩ := by rfl
  have parsed' : parse "foo:a#b\nc" = .ok ⟨"foo", none, none, none, "a", none, some "b"⟩ := by rfl
  have span : authoritySpan? (Text.trim "wss://h\n/x") = some "h\n" := by rfl
  exact ⟨⟨parsed, "h\n", span, '\n', by decide, by decide⟩, parsed', by rfl, by rfl⟩

end GroupWire.Url
