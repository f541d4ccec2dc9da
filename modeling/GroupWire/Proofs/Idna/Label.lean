import GroupWire.Proofs.Text.Lowercase
import GroupWire.Proofs.Uri.Encoded
import GroupWire.Idna.Label

/-! # What the ASCII form of a label looks like

A label of an encoded name becomes a label of an encoded ASCII name. It holds no dot, and it is no
row of digits unless it stands as it was: so no conversion makes a dotted address. -/

namespace GroupWire.Idna
open Unicode Uri

/-! ## Punycode -/

/-- The characters that every registrable label may hold. -/
def isLabelChar (c : Char) : Bool := c.isDigit || ('a' ≤ c && c ≤ 'z') || c = '-'

private theorem digit_isLabelChar : ∀ d < 36, isLabelChar (Punycode.digit d) = true := by decide

private theorem numeral_isLabelChar (bias k q : Nat) :
    ∀ c ∈ Punycode.numeral bias k q, isLabelChar c = true := by
  fun_induction Punycode.numeral bias k q with
  | case1 k q t hq =>
    have ht := Punycode.threshold_le k bias
    intro c hc
    obtain rfl : c = Punycode.digit q := by simpa using hc
    exact digit_isLabelChar q (by omega)
  | case2 k q t hq ih =>
    have ht := Punycode.threshold_le k bias
    have hm : (q - t) % (36 - t) < 36 - t := Nat.mod_lt _ (by omega)
    intro c hc
    rcases List.mem_cons.mp hc with rfl | hc
    · exact digit_isLabelChar _ (by omega)
    · exact ih c hc

private theorem pass_isLabelChar (basic point : Nat) (s : Punycode.Progress) (c : Char)
    (h : ∀ d ∈ s.out, isLabelChar d = true) :
    ∀ d ∈ (s.pass basic point c).out, isLabelChar d = true := by
  rw [Punycode.Progress.pass]
  split
  · exact h
  · split
    · intro d hd
      rcases List.mem_append.mp hd with hd | hd
      · exact h d hd
      · exact numeral_isLabelChar _ _ _ d hd
    · exact h

private theorem foldl_pass_isLabelChar (basic point : Nat) (t : Text) (s : Punycode.Progress)
    (h : ∀ d ∈ s.out, isLabelChar d = true) :
    ∀ d ∈ (t.foldl (Punycode.Progress.pass basic point) s).out, isLabelChar d = true := by
  induction t generalizing s with
  | nil => exact h
  | cons c r ih => exact ih _ (pass_isLabelChar basic point s c h)

private theorem insert_isLabelChar (t : Text) (basic : Nat) (points : List Nat) (least : Nat)
    (s : Punycode.Progress) (h : ∀ d ∈ s.out, isLabelChar d = true) :
    ∀ d ∈ (Punycode.Progress.insert t basic points least s).out, isLabelChar d = true := by
  induction points generalizing least s with
  | nil => exact h
  | cons point points ih => exact ih _ _ (foldl_pass_isLabelChar basic point t _ h)

theorem isLabelChar_encode {t : Text} (basic : ∀ c ∈ t, c.toNat < 128 → isLabelChar c = true) :
    ∀ c ∈ Punycode.encode t, isLabelChar c = true := by
  intro c hc
  rcases List.mem_append.mp hc with hc | hc
  · split at hc
    · simp at hc
    · rcases List.mem_append.mp hc with hc | hc
      · obtain ⟨hm, ha⟩ := List.mem_filter.mp hc
        exact basic c hm (by simpa using ha)
      · obtain rfl : c = '-' := by simpa using hc
        decide
  · exact insert_isLabelChar _ _ _ _ _ (by simp) c hc

/-! ## Registrable labels -/

private theorem letters_of_ascii :
    ∀ p ∈ letters, 128 ≤ p.1 ∨ p = (0x2d, 0x2d) ∨ p = (0x30, 0x39) ∨ p = (0x61, 0x7a) := by
  decide +kernel

private theorem isLabelChar_of_letter {c : Char} (hc : c.toNat < 128) (h : letters.has c = true) :
    isLabelChar c = true := by
  obtain ⟨p, hp, hin⟩ := List.any_eq_true.mp h
  simp only [Bool.and_eq_true, decide_eq_true_eq] at hin
  have range : c.toNat = 0x2d ∨ 0x30 ≤ c.toNat ∧ c.toNat ≤ 0x39 ∨
      0x61 ≤ c.toNat ∧ c.toNat ≤ 0x7a := by
    rcases letters_of_ascii p hp with h | rfl | rfl | rfl
    · omega
    all_goals
      dsimp only at hin
      omega
  exact Text.of_ascii (P := fun c => c.toNat = 0x2d ∨ 0x30 ≤ c.toNat ∧ c.toNat ≤ 0x39 ∨
    0x61 ≤ c.toNat ∧ c.toNat ≤ 0x7a →
    isLabelChar c = true) (by decide) hc range

/-- The characters whose place in a label depends on their neighbours. -/
private def signs : Text := ['\u200c', '\u200d', '·', '\u0375', '\u05f3', '\u05f4', '\u30fb']

private theorem allowedAt_cases {label before after : Text} {c : Char}
    (h : allowedAt label before c after = true) :
    c ∈ signs ∨ isArabicIndic c = true ∨ isExtendedArabicIndic c = true ∨ letters.has c = true := by
  by_contra other
  simp only [signs, List.mem_cons, List.not_mem_nil, or_false, not_or, Bool.not_eq_true] at other
  obtain ⟨⟨n1, n2, n3, n4, n5, n6, n7⟩, h1, h2, hl⟩ := other
  simp [allowedAt, n1, n2, n3, n4, n5, n6, n7, h1, h2, hl] at h

private theorem allowedAt_of_isLabel {label : Text} (h : isLabel label = true) :
    ∀ c ∈ label, ∃ before after, allowedAt label before c after = true := by
  have each (before t : Text) (h : allowedFrom label before t = true) :
      ∀ c ∈ t, ∃ before after, allowedAt label before c after = true := by
    induction t generalizing before with
    | nil => simp
    | cons d r ih =>
      simp only [allowedFrom, Bool.and_eq_true] at h
      intro c hc
      rcases List.mem_cons.mp hc with rfl | hc
      · exact ⟨before, r, h.1⟩
      · exact ih _ h.2 c hc
  simp only [isLabel, Bool.and_eq_true] at h
  exact each [] label h.1.2

theorem isLabelChar_of_isLabel {label : Text} (h : isLabel label = true) :
    ∀ c ∈ label, c.toNat < 128 → isLabelChar c = true := by
  intro c hm hc
  obtain ⟨before, after, allowed⟩ := allowedAt_of_isLabel h c hm
  rcases allowedAt_cases allowed with hs | ha | he | hl
  · have foreign : ∀ d ∈ signs, 128 ≤ d.toNat := by simp [signs]
    have := foreign c hs
    omega
  · simp only [isArabicIndic, Bool.and_eq_true, decide_eq_true_eq] at ha
    omega
  · simp only [isExtendedArabicIndic, Bool.and_eq_true, decide_eq_true_eq] at he
    omega
  · exact isLabelChar_of_letter hc hl

/-! ## The ASCII form -/

/-- What is known of the ASCII form `a` of a label. -/
structure IsAsciiForm (label a : Text) : Prop where
  encoded : Encoded isHex isNameChar a
  dotless : '.' ∉ a
  digits : a = label ∨ ∃ c ∈ a, c.isDigit = false

private theorem isLabelChar_ascii {c : Char} (h : isLabelChar c = true) : c.toNat < 128 := by
  simp only [isLabelChar, Char.isDigit, Bool.or_eq_true, Bool.and_eq_true,
    decide_eq_true_eq, Char.le_def, UInt32.le_iff_toNat_le, ge_iff_le] at h
  rcases h with h | rfl
  · change (48 ≤ c.toNat ∧ c.toNat ≤ 57) ∨ (97 ≤ c.toNat ∧ c.toNat ≤ 122) at h
    omega
  · decide

private theorem isAsciiForm_of_isLabelChar {label a : Text} (h : ∀ c ∈ a, isLabelChar c = true)
    (hx : 'x' ∈ a) : IsAsciiForm label a where
  encoded := Encoded.of_all fun c hc =>
    Text.of_ascii (P := fun c => isLabelChar c = true → c ≠ '%' ∧ isNameChar c = true) (by decide)
      (isLabelChar_ascii (h c hc)) (h c hc)
  dotless hd := absurd (h '.' hd) (by decide)
  digits := Or.inr ⟨'x', hx, by decide⟩

/-- Neither percent signs nor dots come or go when capitals become small. -/
private theorem smallLetter_eq_iff {sep : Char} (hs : sep.toNat < 97)
    (fixed : ∀ n < 128, (Char.ofNat n).toLower = sep ↔ Char.ofNat n = sep) (c : Char) :
    Text.smallLetter c = sep ↔ c = sep := by
  by_cases hc : c.toNat < 128
  · rw [Text.smallLetter_of_ascii hc, Text.toLower_eq_iff fixed]
  · constructor
    · rintro rfl
      have := Text.smallLetter_range (Nat.le_of_not_lt hc) (by omega)
      omega
    · rintro rfl
      omega

private theorem isNameChar_smallLetter {c : Char} (h : (isNameChar c || isUcs c) = true)
    (ascii : (Text.smallLetter c).toNat < 128) : isNameChar (Text.smallLetter c) = true := by
  by_cases hc : c.toNat < 128
  · have hn : isNameChar c = true := by
      rcases Bool.or_eq_true _ _ ▸ h with h | h
      · exact h
      · have := isUcs_not_ascii h
        omega
    rw [Text.smallLetter_of_ascii hc]
    exact Text.of_ascii (P := fun c => isNameChar c = true → isNameChar c.toLower = true)
      (by decide) hc hn
  · exact Text.of_ascii (P := fun c => 97 ≤ c.toNat ∧ c.toNat ≤ 122 → isNameChar c = true)
      (by decide) ascii
      (Text.smallLetter_range (Nat.le_of_not_lt hc) ascii)

private theorem isHex_smallLetter {c : Char} (h : isHex c = true) :
    isHex (Text.smallLetter c) = true := by
  have hc := isPlain_ascii (isPlain_of_isHex h)
  rw [Text.smallLetter_of_ascii hc]
  exact Text.of_ascii (P := fun c => isHex c = true → isHex c.toLower = true) (by decide) hc h

variable {label a : Text}

private theorem isAsciiForm_map (hl : Encoded isHex (fun c => isNameChar c || isUcs c) label)
    (dotless : '.' ∉ label) (foreign : ∃ c ∈ label, 128 < c.toNat)
    (ascii : ∀ c ∈ label.map Text.smallLetter, c.toNat < 128) :
    IsAsciiForm label (label.map Text.smallLetter) where
  encoded := hl.map (smallLetter_eq_iff (by decide) (by decide)) (fun _ => isHex_smallLetter)
    fun c hc h => isNameChar_smallLetter h (ascii _ (List.mem_map_of_mem hc))
  dotless hd := by
    obtain ⟨c, hc, hdot⟩ := List.mem_map.mp hd
    rw [smallLetter_eq_iff (by decide) (by decide)] at hdot
    exact dotless (hdot ▸ hc)
  digits := by
    obtain ⟨c, hc, hforeign⟩ := foreign
    have hm : Text.smallLetter c ∈ label.map Text.smallLetter := List.mem_map_of_mem hc
    have hrange := Text.smallLetter_range (by omega) (ascii _ hm)
    exact Or.inr ⟨_, hm, Text.of_ascii (P := fun c => 97 ≤ c.toNat → c.isDigit = false) (by decide)
      (ascii _ hm) hrange.1⟩

theorem toAscii?_of_ascii (ascii : ∀ c ∈ label, c.toNat < 128) : toAscii? label = some label := by
  rw [toAscii?, if_neg]
  simp only [List.any_eq_true, decide_eq_true_eq, not_exists, not_and]
  intro c hc
  have := ascii c hc
  omega

private theorem isAsciiForm_of_ofLowercase? (h : ofLowercase? (Text.lowercase label) = some a)
    (hl : Encoded isHex (fun c => isNameChar c || isUcs c) label) (dotless : '.' ∉ label)
    (foreign : ∃ c ∈ label, 128 < c.toNat) : IsAsciiForm label a := by
  rw [ofLowercase?] at h
  split at h
  · rename_i hascii
    have ascii : ∀ c ∈ Text.lowercase label, c.toNat < 128 := by simpa using hascii
    rw [Text.lowercase] at h ascii
    rw [Text.lowercaseFrom_of_ascii [] label ascii] at h ascii
    obtain ⟨-, hmap⟩ := Option.ite_none_right_eq_some.mp h
    obtain rfl : label.map Text.smallLetter = a := by simpa using hmap
    exact isAsciiForm_map hl dotless foreign ascii
  · obtain ⟨hlabel, rfl⟩ : isLabel (Text.lowercase label) = true ∧
        aceMark ++ Punycode.encode (Text.lowercase label) = a := by
      simp only [Option.ite_none_right_eq_some, Bool.and_eq_true, Option.some.injEq] at h
      exact ⟨h.1.1, h.2⟩
    refine isAsciiForm_of_isLabelChar (fun c hc => ?_) (List.mem_append_left _ (by decide))
    rcases List.mem_append.mp hc with hc | hc
    · have mark : aceMark.all isLabelChar = true := by decide
      exact List.all_eq_true.mp mark c hc
    · exact isLabelChar_encode (isLabelChar_of_isLabel hlabel) c hc

private theorem isAsciiForm_self (hl : Encoded isHex (fun c => isNameChar c || isUcs c) label)
    (dotless : '.' ∉ label) (native : ∀ c ∈ label, ¬ 128 < c.toNat) : IsAsciiForm label label := by
  refine ⟨?_, dotless, Or.inl rfl⟩
  have same : label.map id = label := List.map_id label
  rw [← same]
  refine hl.map (by simp) (fun _ h => h) fun c hc h => ?_
  rcases Bool.or_eq_true _ _ ▸ h with h | h
  · exact h
  · exact absurd (isUcs_not_ascii h) (native c hc)

theorem isAsciiForm_of_toAscii? (h : toAscii? label = some a)
    (hl : Encoded isHex (fun c => isNameChar c || isUcs c) label) (dotless : '.' ∉ label) :
    IsAsciiForm label a := by
  rw [toAscii?] at h
  split at h
  · rename_i hforeign
    exact isAsciiForm_of_ofLowercase? h hl dotless (by simpa using hforeign)
  · rename_i hforeign
    obtain rfl : label = a := by simpa using h
    exact isAsciiForm_self hl dotless (by simpa using hforeign)

/-! ## Blanks -/

/-- No blank beyond ASCII lies between the two code points. -/
private def IsBlankless (first last : Nat) : Prop :=
  last ≤ 128 ∨ 0xa0 < first ∧ last < 0x1680 ∨ 0x1680 < first ∧ last < 0x2000 ∨
    0x205f < first ∧ last < 0x3000 ∨
    0x3000 < first

private instance (first last : Nat) : Decidable (IsBlankless first last) :=
  inferInstanceAs (Decidable (_ ∨ _))

private theorem IsBlankless.outside {first last : Nat} (h : IsBlankless first last) {c : Char}
    (foreign : 128 < c.toNat)
    (blank : Text.isBlank c = true) : ¬ (first ≤ c.toNat ∧ c.toNat ≤ last) := by
  simp only [Text.isBlank, Bool.or_eq_true, Bool.and_eq_true, decide_eq_true_eq,
    beq_iff_eq] at blank
  rw [IsBlankless] at h
  omega

private theorem letters_blankless : ∀ p ∈ letters, IsBlankless p.1 p.2 := by decide +kernel

private theorem capitals_blankless : ∀ r ∈ capitals, IsBlankless r.first r.last := by decide +kernel

section Blank

variable {c : Char} (foreign : 128 < c.toNat) (blank : Text.isBlank c = true)

include foreign blank

private theorem smallLetter_of_blank : Text.smallLetter c = c := by
  rcases Text.smallLetter_cases c with ⟨-, same⟩ | ⟨r, hr, inside, -⟩
  · exact same
  · exact absurd inside ((capitals_blankless r hr).outside foreign blank)

private theorem allowedAt_of_blank (label before after : Text) :
    allowedAt label before c after = false := by
  have sign : ∀ d ∈ signs, Text.isBlank d = false := by simp [signs]; decide
  have arabic : IsBlankless 0x660 0x669 ∧ IsBlankless 0x6f0 0x6f9 := by decide
  rw [Bool.eq_false_iff]
  intro allowed
  rcases allowedAt_cases allowed with hs | ha | he | hl
  · exact absurd blank (by simp [sign c hs])
  · simp only [isArabicIndic, Bool.and_eq_true, decide_eq_true_eq] at ha
    exact arabic.1.outside foreign blank ha
  · simp only [isExtendedArabicIndic, Bool.and_eq_true, decide_eq_true_eq] at he
    exact arabic.2.outside foreign blank he
  · obtain ⟨p, hp, hin⟩ := List.any_eq_true.mp hl
    simp only [Bool.and_eq_true, decide_eq_true_eq] at hin
    exact (letters_blankless p hp).outside foreign blank hin

private theorem mem_lowercaseFrom_of_blank (before : Text) {t : Text} (hc : c ∈ t) :
    c ∈ Text.lowercaseFrom before t := by
  induction t generalizing before with
  | nil => cases hc
  | cons d r ih =>
    rw [Text.lowercaseFrom]
    rcases List.mem_cons.mp hc with rfl | hc
    · have kept : Text.lowercaseAt before c r = [c] := by
        rw [Text.lowercaseAt, if_neg, if_neg, smallLetter_of_blank foreign blank]
        all_goals
          rintro rfl
          exact absurd blank (by decide)
      rw [kept]
      exact List.mem_append_left _ List.mem_cons_self
    · exact List.mem_append_right _ (ih _ hc)

end Blank

/-- A label that has an ASCII form holds no blank of another script. -/
theorem isBlank_of_toAscii? (h : toAscii? label = some a) {c : Char} (hc : c ∈ label)
    (foreign : 128 < c.toNat) : Text.isBlank c = false := by
  rw [Bool.eq_false_iff]
  intro blank
  have inside : c ∈ Text.lowercase label := mem_lowercaseFrom_of_blank foreign blank [] hc
  have any : label.any (128 < ·.toNat) = true :=
    List.any_eq_true.mpr ⟨c, hc, by simpa using foreign⟩
  have native : (Text.lowercase label).all (·.toNat < 128) ≠ true := by
    intro all
    have := List.all_eq_true.mp all c inside
    simp only [decide_eq_true_eq] at this
    omega
  rw [toAscii?, if_pos any, ofLowercase?, if_neg native] at h
  obtain ⟨registrable, -⟩ := Option.ite_none_right_eq_some.mp h
  obtain ⟨before, after, allowed⟩ :=
    allowedAt_of_isLabel (Bool.and_eq_true_iff.mp registrable).1 c inside
  rw [allowedAt_of_blank foreign blank] at allowed
  cases allowed

end GroupWire.Idna
