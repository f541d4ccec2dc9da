import GroupWire.Proofs.Idna.Label

/-! # Labels in either case

Whether a letter of a label is a capital of ASCII changes neither its small letter nor the form
of a sigma beside it: so two labels that differ in such letters only have ASCII forms that
differ in such letters only. -/

namespace GroupWire

open Unicode

namespace Text

private theorem toLower_eq_or (c : Char) : c.toLower = c ∨
    (0x41 ≤ c.toNat ∧ c.toNat ≤ 0x5a) ∧ 0x61 ≤ c.toLower.toNat ∧ c.toLower.toNat ≤ 0x7a := by
  by_cases hc : c.toNat < 128
  · exact of_ascii (P := fun c => c.toLower = c ∨
      (0x41 ≤ c.toNat ∧ c.toNat ≤ 0x5a) ∧ 0x61 ≤ c.toLower.toNat ∧ c.toLower.toNat ≤ 0x7a)
        (by decide) hc
  · exact Or.inl (toLower_of_not_ascii (Nat.le_of_not_lt hc))

private theorem toLower_ascii {c : Char} (hc : c.toNat < 128) : c.toLower.toNat < 128 :=
  of_ascii (P := fun c => c.toLower.toNat < 128) (by decide) hc

private theorem has_of_mem {r : Ranges} {p : Nat × Nat} (hp : p ∈ r) {c : Char}
    (hc : p.1 ≤ c.toNat ∧ c.toNat ≤ p.2) :
    r.has c = true :=
  List.any_eq_true.mpr ⟨p, hp, by simp [hc]⟩

theorem cased_toLower (c : Char) : cased.has c.toLower = cased.has c := by
  rcases toLower_eq_or c with same | ⟨capital, small⟩
  · rw [same]
  · have capitals : (0x41, 0x5a) ∈ cased := List.mem_append_left _ List.mem_cons_self
    have smalls : (0x61, 0x7a) ∈ cased :=
      List.mem_append_left _ (List.mem_cons_of_mem _ List.mem_cons_self)
    rw [has_of_mem capitals capital, has_of_mem smalls small]

private theorem caseIgnorable_without_letters :
    ∀ p ∈ caseIgnorable, p.2 < 0x41 ∨ 0x5a < p.1 ∧ p.2 < 0x61 ∨ 0x7a < p.1 := by decide +kernel

theorem caseIgnorable_toLower (c : Char) : caseIgnorable.has c.toLower = caseIgnorable.has c := by
  have passes {d : Char} (hd : 0x41 ≤ d.toNat ∧ d.toNat ≤ 0x5a ∨ 0x61 ≤ d.toNat ∧ d.toNat ≤ 0x7a) :
      caseIgnorable.has d = false := by
    refine List.any_eq_false.mpr fun p hp => ?_
    have apart := caseIgnorable_without_letters p hp
    simp only [Bool.and_eq_true, decide_eq_true_eq]
    omega
  rcases toLower_eq_or c with same | ⟨capital, small⟩
  · rw [same]
  · rw [passes (Or.inl capital), passes (Or.inr small)]

theorem smallLetter_toLower (c : Char) : smallLetter c.toLower = smallLetter c := by
  by_cases hc : c.toNat < 128
  · rw [smallLetter_of_ascii (toLower_ascii hc), smallLetter_of_ascii hc,
      Char.toLower_toLower_eq_toLower]
  · rw [toLower_of_not_ascii (Nat.le_of_not_lt hc)]

theorem casedNext_toLower (t : Text) : casedNext t.toLower = casedNext t := by
  induction t with
  | nil => rfl
  | cons c r ih =>
    by_cases hc : caseIgnorable.has c = true
    · have hl : caseIgnorable.has c.toLower = true := by rw [caseIgnorable_toLower, hc]
      have skip (d : Char) (s : Text) (hd : caseIgnorable.has d = true) :
          casedNext (d :: s) = casedNext s := by
        simp [casedNext, hd]
      exact (skip _ _ hl).trans (ih.trans (skip _ _ hc).symm)
    · have hl : ¬ caseIgnorable.has c.toLower = true := by rwa [caseIgnorable_toLower]
      have stay (d : Char) (s : Text) (hd : ¬ caseIgnorable.has d = true) :
          casedNext (d :: s) = cased.has d := by
        simp [casedNext, hd]
      exact (stay _ _ hl).trans ((cased_toLower c).trans (stay _ _ hc).symm)

private theorem lowercaseAt_toLower (before : Text) (c : Char) (after : Text) :
    lowercaseAt before.toLower c.toLower after.toLower = lowercaseAt before c after := by
  have foreign {d : Char} (hd : 128 ≤ d.toNat) : c.toLower = d ↔ c = d := by
    by_cases hc : c.toNat < 128
    · have hl := toLower_ascii hc
      refine iff_of_false ?_ ?_
      · rintro rfl
        omega
      · rintro rfl
        omega
    · rw [toLower_of_not_ascii (Nat.le_of_not_lt hc)]
  -- The two letters with a rule of their own are none of ASCII, so either both texts have one here
  -- or neither.
  have sigma := foreign (d := 'Σ') (by decide)
  have dotted := foreign (d := 'İ') (by decide)
  simp only [lowercaseAt, casedNext_toLower, smallLetter_toLower, sigma, dotted]

theorem lowercaseFrom_toLower (before t : Text) :
    lowercaseFrom before.toLower t.toLower = lowercaseFrom before t := by
  induction t generalizing before with
  | nil => rfl
  | cons c r ih =>
    have head := lowercaseAt_toLower before c r
    have tail := ih (c :: before)
    exact congrArg₂ (· ++ ·) head tail

theorem lowercase_toLower (t : Text) : lowercase t.toLower = lowercase t :=
  lowercaseFrom_toLower [] t

end Text

namespace Idna

theorem toAscii?_toLower (label : Text) :
    (toAscii? label.toLower).map Text.toLower = (toAscii? label).map Text.toLower := by
  have foreign : label.toLower.any (128 < ·.toNat) = label.any (128 < ·.toNat) := by
    rw [Text.toLower, List.any_map]
    exact congrArg label.any
      (funext (Text.toLower_invariant (p := fun c => 128 < c.toNat) (by decide)))
  rw [toAscii?, toAscii?, foreign, Text.lowercase_toLower]
  split
  · rfl
  · simp

/-- The labels of a name, taken one by one. -/
theorem mapM_toAscii?_toLower (labels : List Text) :
    ((labels.map Text.toLower).mapM toAscii?).map (List.map Text.toLower) =
      (labels.mapM toAscii?).map (List.map Text.toLower) := by
  induction labels with
  | nil => rfl
  | cons l labels ih =>
    have head := toAscii?_toLower l
    simp only [List.map_cons, List.mapM_cons, Option.bind_eq_bind, Option.pure_def]
    cases ha : toAscii? l with
    | none =>
      rw [ha, Option.map_none, Option.map_eq_none_iff] at head
      simp [head]
    | some a =>
      rw [ha, Option.map_some, Option.map_eq_some_iff] at head
      obtain ⟨b, hb, hab⟩ := head
      cases hs : labels.mapM toAscii? with
      | none =>
        rw [hs, Option.map_none, Option.map_eq_none_iff] at ih
        simp [hb, ih]
      | some s =>
        rw [hs, Option.map_some, Option.map_eq_some_iff] at ih
        obtain ⟨r, hr, hrs⟩ := ih
        simp [hb, hr, hab, hrs]

end Idna

end GroupWire
