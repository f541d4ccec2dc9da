import Mathlib
import GroupWire.Proofs.Text
import GroupWire.Text.Lowercase

/-! # Small letters

Within ASCII the small letter of a character is the one that ASCII gives it. Beyond ASCII the sign
for kelvin is the only capital whose small letter is one of ASCII, so a text that becomes an ASCII
text without the letter k has been one before. -/

namespace GroupWire.Text
open Unicode

/-- A row of small letters begins beyond ASCII or lies within the ASCII ones; no
row touches the surrogates. -/
def IsTame (r : Run) : Prop :=
  (128 ≤ r.image ∨ 97 ≤ r.image ∧ r.image + (r.last - r.first) ≤ 122) ∧
    (r.image + (r.last - r.first) < 0xd800 ∨
      0xe000 ≤ r.image ∧ r.image + (r.last - r.first) < 0x110000)

instance : DecidablePred IsTame := fun r => by
  unfold IsTame
  infer_instance

private theorem capitals_tame : ∀ r ∈ capitals, IsTame r := by decide +kernel

private theorem capitals_of_ascii :
    ∀ r ∈ capitals, r.first < 128 → r.first = 0x41 ∧ r.last = 0x5a ∧ r.image = 0x61 := by
  decide +kernel

private theorem capitals_beyond_ascii :
    ∀ r ∈ capitals, r.first < 128 ∨ 128 ≤ r.image ∨
      r.first = 0x212a ∧ r.last = 0x212a ∧ r.image = 0x6b := by
  decide +kernel

private theorem toNat_ofNat_of_tame {n : Nat} (h : n < 0xd800 ∨ 0xe000 ≤ n ∧ n < 0x110000) :
    (Char.ofNat n).toNat = n := by
  have valid : n.isValidChar := h.imp id fun h => ⟨by omega, h.2⟩
  rw [Char.toNat_ofNat, if_pos valid]

/-- No row of capitals holds the character, or one does and tells its small letter. -/
theorem smallLetter_cases (c : Char) : (∀ r ∈ capitals, r.at? c.toNat = none) ∧ smallLetter c = c ∨
    ∃ r ∈ capitals, (r.first ≤ c.toNat ∧ c.toNat ≤ r.last) ∧
      smallLetter c = Char.ofNat (r.image + (c.toNat - r.first)) ∧
      (smallLetter c).toNat = r.image + (c.toNat - r.first) := by
  rw [smallLetter]
  cases found : capitals.findSome? (·.at? c.toNat) with
  | none => exact .inl ⟨List.findSome?_eq_none_iff.mp found, rfl⟩
  | some n =>
    obtain ⟨r, hr, hat⟩ := List.exists_of_findSome?_eq_some found
    obtain ⟨inside, same⟩ := Option.ite_none_right_eq_some.mp hat
    simp only [Bool.and_eq_true, decide_eq_true_eq] at inside
    obtain rfl : r.image + (c.toNat - r.first) = n := Option.some.inj same
    have valid := (capitals_tame r hr).2
    exact .inr ⟨r, hr, inside.1, rfl, toNat_ofNat_of_tame (by omega)⟩

/-- A small letter in ASCII is one of the 26, whatever it is the small letter of. -/
theorem smallLetter_range {c : Char} (hc : 128 ≤ c.toNat) (ascii : (smallLetter c).toNat < 128) :
    97 ≤ (smallLetter c).toNat ∧ (smallLetter c).toNat ≤ 122 := by
  rcases smallLetter_cases c with ⟨-, same⟩ | ⟨r, hr, inside, -, small⟩
  · rw [same] at ascii
    omega
  · have row := (capitals_tame r hr).1
    omega

/-- And it is the letter k. -/
theorem smallLetter_eq_k {c : Char} (hc : 128 ≤ c.toNat) (ascii : (smallLetter c).toNat < 128) :
    smallLetter c = 'k' := by
  rcases smallLetter_cases c with ⟨-, same⟩ | ⟨r, hr, inside, small, number⟩
  · rw [same] at ascii
    omega
  · rcases capitals_beyond_ascii r hr with latin | foreign | ⟨first, last, image⟩
    · have row := capitals_of_ascii r hr latin
      omega
    · omega
    · have kelvin : r.image + (c.toNat - r.first) = 0x6b := by omega
      rw [small, kelvin]

private def latinCapitals : Run := ⟨0x41, 0x5a, 1, 0x61⟩

theorem smallLetter_of_ascii {c : Char} (hc : c.toNat < 128) : smallLetter c = c.toLower := by
  rcases smallLetter_cases c with ⟨none, same⟩ | ⟨r, hr, inside, small, -⟩
  · have outside : ¬ (0x41 ≤ c.toNat ∧ c.toNat ≤ 0x5a) := by
      rintro ⟨first, last⟩
      have unlisted := none latinCapitals (List.mem_append_left _ List.mem_cons_self)
      simp [Run.at?, latinCapitals, Nat.mod_one, first, last] at unlisted
    rw [same]
    exact of_ascii (P := fun c => ¬ (0x41 ≤ c.toNat ∧ c.toNat ≤ 0x5a) → c = c.toLower)
      (by decide) hc outside
  · obtain ⟨first, last, image⟩ := capitals_of_ascii r hr (by omega)
    rw [small, image, first]
    exact of_ascii (P := fun c => 0x41 ≤ c.toNat ∧ c.toNat ≤ 0x5a →
        Char.ofNat (0x61 + (c.toNat - 0x41)) = c.toLower)
      (by decide) hc ⟨by omega, by omega⟩

/-! ## Texts -/

/-- A text whose small letters are all ASCII has neither of the two letters that are not mapped one
by one. -/
theorem lowercaseFrom_of_ascii (before t : Text)
    (ascii : ∀ c ∈ lowercaseFrom before t, c.toNat < 128) :
    lowercaseFrom before t = t.map smallLetter := by
  induction t generalizing before with
  | nil => rfl
  | cons c r ih =>
    rw [lowercaseFrom] at ascii ⊢
    rw [ih (c :: before) fun d hd => ascii d (List.mem_append_right _ hd)]
    have head : ∀ d ∈ lowercaseAt before c r, d.toNat < 128 :=
      fun d hd => ascii d (List.mem_append_left _ hd)
    rw [lowercaseAt] at head ⊢
    split
    · rename_i hs
      rw [if_pos hs] at head
      split at head
      · exact absurd (head 'ς' (by simp)) (by decide)
      · exact absurd (head 'σ' (by simp)) (by decide)
    · rename_i hs
      rw [if_neg hs] at head
      split
      · rename_i hi
        rw [if_pos hi] at head
        exact absurd (head '\u0307' (by simp)) (by decide)
      · simp

theorem lowercaseAt_of_ascii (before after : Text) {c : Char} (hc : c.toNat < 128) :
    lowercaseAt before c after = [c.toLower] := by
  have sigma : c ≠ 'Σ' := by
    rintro rfl
    exact absurd hc (by decide)
  have dotted : c ≠ 'İ' := by
    rintro rfl
    exact absurd hc (by decide)
  rw [lowercaseAt, if_neg sigma, if_neg dotted, smallLetter_of_ascii hc]

theorem lowercase_of_ascii {t : Text} (ascii : ∀ c ∈ t, c.toNat < 128) :
    t.lowercase = t.toLower := by
  have whole (before : Text) : lowercaseFrom before t = t.toLower := by
    induction t generalizing before with
    | nil => rfl
    | cons c r ih =>
      have rest := ih (fun d hd => ascii d (List.mem_cons_of_mem c hd)) (c :: before)
      rw [lowercaseFrom, lowercaseAt_of_ascii before r (ascii c List.mem_cons_self), rest]
      rfl
  exact whole []

end GroupWire.Text
