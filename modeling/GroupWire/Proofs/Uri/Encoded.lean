import GroupWire.Proofs.Text
import GroupWire.Uri.Percent

/-! # Percent-encoded texts

`Encoded hex ok t` says that `t` consists of characters that `ok` allows and of triplets whose
digits are in `hex`. It is the relation behind the checker `wellEncoded`, with the digits as a
parameter: encoding gives digits of either case, normalization leaves capitals only, and both
operations fix the texts that are already of that form. -/

namespace GroupWire.Uri

def isCapitalHex (c : Char) : Bool := c.isDigit || ('A' ≤ c && c ≤ 'F')

inductive Encoded (hex ok : Char → Bool) : Text → Prop where
  | nil : Encoded hex ok []
  | char {c r} (hc : c ≠ '%') (allowed : ok c = true) (tail : Encoded hex ok r) :
      Encoded hex ok (c :: r)
  | triplet {a b r} (high : hex a = true) (low : hex b = true) (tail : Encoded hex ok r) :
      Encoded hex ok ('%' :: a :: b :: r)

/-! ## Classes of characters -/

section Classes

variable {c : Char}

private theorem isAlphanum_ascii (h : c.isAlphanum = true) : c.toNat < 128 := by
  simp only [Char.isAlphanum, Char.isAlpha, Char.isUpper, Char.isLower, Char.isDigit,
    Bool.or_eq_true, Bool.and_eq_true, decide_eq_true_eq, UInt32.le_iff_toNat_le, ge_iff_le] at h
  change ((65 ≤ c.toNat ∧ c.toNat ≤ 90) ∨ (97 ≤ c.toNat ∧ c.toNat ≤ 122)) ∨
    (48 ≤ c.toNat ∧ c.toNat ≤ 57) at h
  omega

private theorem isHex_ascii (h : isHex c = true) : c.toNat < 128 := by
  simp only [isHex, Char.isDigit, Bool.or_eq_true, Bool.and_eq_true, decide_eq_true_eq, Char.le_def,
    UInt32.le_iff_toNat_le, ge_iff_le] at h
  change ((48 ≤ c.toNat ∧ c.toNat ≤ 57) ∨ (97 ≤ c.toNat ∧ c.toNat ≤ 102)) ∨
    (65 ≤ c.toNat ∧ c.toNat ≤ 70) at h
  omega

private theorem listed_ascii {l : List Char} (ascii : l.all (·.toNat < 128) = true)
    (h : l.contains c = true) : c.toNat < 128 := by
  have hc := List.all_eq_true.mp ascii c (List.contains_iff_mem.mp h)
  simpa using hc

theorem isPlain_ascii (h : isPlain c = true) : c.toNat < 128 := by
  simp only [isPlain, isUnreserved, isSubDelim, isGenDelim, Bool.or_eq_true] at h
  rcases h with ((h | h) | h) | h
  · exact isAlphanum_ascii h
  all_goals exact listed_ascii (by decide) h

theorem isPlain_of_isHex (h : isHex c = true) : isPlain c = true :=
  Text.of_ascii (P := fun c => isHex c = true → isPlain c = true) (by decide) (isHex_ascii h) h

theorem isHex_of_isCapitalHex (h : isCapitalHex c = true) : isHex c = true := by
  simp only [isCapitalHex, isHex, Bool.or_eq_true] at h ⊢
  exact h.imp_left Or.inl

theorem isCapitalHex_ascii (h : isCapitalHex c = true) : c.toNat < 128 :=
  isHex_ascii (isHex_of_isCapitalHex h)

theorem isPlain_of_isNameChar (h : isNameChar c = true) : isPlain c = true := by
  simp only [isNameChar, isPlain, Bool.or_eq_true] at h ⊢
  exact Or.inl h

theorem isPlain_of_isQueryChar (h : isQueryChar c = true) : isPlain c = true := by
  simp only [isQueryChar, isPathChar, isUserinfoChar, Bool.or_eq_true, decide_eq_true_eq] at h
  rcases h with (((h | rfl) | rfl) | rfl) | rfl
  · exact isPlain_of_isNameChar h
  all_goals decide

theorem isQueryChar_of_isPathChar (h : isPathChar c = true) : isQueryChar c = true := by
  simp [isQueryChar, h]

theorem isPlain_of_isPathChar (h : isPathChar c = true) : isPlain c = true :=
  isPlain_of_isQueryChar (isQueryChar_of_isPathChar h)

theorem isPathChar_of_isUserinfoChar (h : isUserinfoChar c = true) : isPathChar c = true := by
  simp [isPathChar, h]

theorem isPlain_of_isUserinfoChar (h : isUserinfoChar c = true) : isPlain c = true :=
  isPlain_of_isPathChar (isPathChar_of_isUserinfoChar h)

theorem isPlain_of_isSchemeChar (h : isSchemeChar c = true) : isPlain c = true := by
  have hc : c.toNat < 128 := by
    simp only [isSchemeChar, Bool.or_eq_true] at h
    rcases h with h | h
    · exact isAlphanum_ascii h
    · exact listed_ascii (by decide) h
  exact Text.of_ascii (P := fun c => isSchemeChar c = true → isPlain c = true) (by decide) hc h

theorem isUcs_not_ascii (h : isUcs c = true) : 128 < c.toNat := by
  simp only [isUcs, Bool.or_eq_true, Bool.and_eq_true, decide_eq_true_eq] at h
  omega

/-- What is checked on the ASCII characters that percent-encoding leaves alone holds
of all that it leaves alone. -/
theorem of_plain {P : Char → Prop}
    (all : ∀ n < 128, isPlain (Char.ofNat n) = true → P (Char.ofNat n))
    (h : isPlain c = true) : P c :=
  Text.of_ascii (P := fun c => isPlain c = true → P c) all (isPlain_ascii h) h

end Classes

/-! ## The relation -/

section Encoded

variable {hex hex' ok ok' : Char → Bool} {s t : Text}

theorem encoded_iff (refuses : ok '%' = false) : Encoded isHex ok t ↔ wellEncoded ok t = true := by
  constructor
  · intro h
    induction h with
    | nil => rfl
    | char hc allowed tail ih => simp [wellEncoded, hc, allowed, ih]
    | triplet high low tail ih => simp [wellEncoded, high, low, ih]
  · intro h
    fun_induction wellEncoded ok t with
    | case1 a b r ih =>
      simp only [Bool.and_eq_true] at h
      exact .triplet h.1.1 h.1.2 (ih h.2)
    | case2 c r _ ih =>
      simp only [Bool.and_eq_true] at h
      refine .char ?_ h.1 (ih h.2)
      rintro rfl
      simp [refuses] at h
    | case3 => exact .nil

namespace Encoded

theorem mono (h : Encoded hex ok t) (hh : ∀ c, hex c = true → hex' c = true)
    (ho : ∀ c, ok c = true → ok' c = true) :
    Encoded hex' ok' t := by
  induction h with
  | nil => exact .nil
  | char hc allowed tail ih => exact .char hc (ho _ allowed) ih
  | triplet high low tail ih => exact .triplet (hh _ high) (hh _ low) ih

/-- Two readings of one text agree on where its triplets are. -/
theorem both (h : Encoded hex ok t) (h' : Encoded hex' ok' t) : Encoded hex ok' t := by
  induction h with
  | nil => exact .nil
  | char hc allowed tail ih =>
    cases h' with
    | char _ allowed' tail' => exact .char hc allowed' (ih tail')
    | triplet => exact absurd rfl hc
  | triplet high low tail ih =>
    cases h' with
    | char hc => exact absurd rfl hc
    | triplet _ _ tail' => exact .triplet high low (ih tail')

theorem of_all (h : ∀ c ∈ t, c ≠ '%' ∧ ok c = true) : Encoded hex ok t := by
  induction t with
  | nil => exact .nil
  | cons c r ih =>
    exact .char (h c (by simp)).1 (h c (by simp)).2 (ih fun d hd => h d (by simp [hd]))

theorem append (hs : Encoded hex ok s) (ht : Encoded hex ok t) : Encoded hex ok (s ++ t) := by
  induction hs with
  | nil => exact ht
  | char hc allowed tail ih => exact .char hc allowed ih
  | triplet high low tail ih => exact .triplet high low ih

/-- A character that is part of no triplet cuts the text into two encoded ones. -/
theorem cut {sep : Char} (hp : sep ≠ '%') (hx : hex sep = false)
    (h : Encoded hex ok (s ++ sep :: t)) :
    Encoded hex ok s ∧ ok sep = true ∧ Encoded hex ok t := by
  generalize hw : s ++ sep :: t = w at h
  induction h generalizing s with
  | nil => simp at hw
  | @char c r hc allowed tail ih =>
    cases s with
    | nil =>
      obtain ⟨rfl, rfl⟩ : sep = c ∧ t = r := by simpa using hw
      exact ⟨.nil, allowed, tail⟩
    | cons d s =>
      obtain ⟨rfl, hr⟩ : d = c ∧ s ++ sep :: t = r := by simpa using hw
      obtain ⟨hs, hsep, ht⟩ := ih hr
      exact ⟨.char hc allowed hs, hsep, ht⟩
  | @triplet a b r high low tail ih =>
    -- The separator is neither the percent sign nor one of the two digits, so it stands behind the
    -- triplet.
    match s with
    | [] => exact absurd (by simpa using hw : sep = '%' ∧ _).1 hp
    | [x] =>
      obtain ⟨-, rfl, -⟩ : x = '%' ∧ sep = a ∧ t = b :: r := by simpa using hw
      exact absurd high (by simp [hx])
    | [x, y] =>
      obtain ⟨-, -, rfl, -⟩ : x = '%' ∧ y = a ∧ sep = b ∧ t = r := by simpa using hw
      exact absurd low (by simp [hx])
    | x :: y :: z :: s =>
      obtain ⟨rfl, rfl, rfl, hr⟩ : x = '%' ∧ y = a ∧ z = b ∧ s ++ sep :: t = r := by simpa using hw
      obtain ⟨hs, hsep, ht⟩ := ih hr
      exact ⟨.triplet high low hs, hsep, ht⟩

theorem mem (h : Encoded hex ok t) {c : Char} (hc : c ∈ t) :
    c = '%' ∨ hex c = true ∨ ok c = true := by
  induction h with
  | nil => simp at hc
  | char _ allowed tail ih =>
    rcases List.mem_cons.mp hc with rfl | hc
    · exact Or.inr (Or.inr allowed)
    · exact ih hc
  | triplet high low tail ih =>
    rcases List.mem_cons.mp hc with rfl | hc
    · exact Or.inl rfl
    · rcases List.mem_cons.mp hc with rfl | hc
      · exact Or.inr (Or.inl high)
      · rcases List.mem_cons.mp hc with rfl | hc
        · exact Or.inr (Or.inl low)
        · exact ih hc

theorem anyCase (h : Encoded isCapitalHex ok t) : Encoded isHex ok t :=
  h.mono (fun _ => isHex_of_isCapitalHex) fun _ hc => hc

/-- What holds of the ASCII characters that can occur holds of all that do. -/
theorem forall_mem {P : Char → Prop} (h : Encoded isHex ok t)
    (plain : ∀ c, ok c = true → isPlain c = true)
    (all : ∀ n < 128, Char.ofNat n = '%' ∨ isHex (Char.ofNat n) = true ∨ ok (Char.ofNat n) = true →
      P (Char.ofNat n)) :
    ∀ c ∈ t, P c := by
  intro c hc
  have member := h.mem hc
  have ascii : c.toNat < 128 := by
    rcases member with rfl | hx | hk
    · decide
    · exact isHex_ascii hx
    · exact isPlain_ascii (plain c hk)
  exact Text.of_ascii (P := fun c => c = '%' ∨ isHex c = true ∨ ok c = true → P c) all ascii member

theorem map (h : Encoded hex ok t) {f : Char → Char} (hp : ∀ c, f c = '%' ↔ c = '%')
    (hh : ∀ c, hex c = true → hex' (f c) = true) (ho : ∀ c ∈ t, ok c = true → ok' (f c) = true) :
    Encoded hex' ok' (t.map f) := by
  induction h with
  | nil => exact .nil
  | @char c r hc allowed tail ih =>
    exact .char (by simpa [hp] using hc) (ho c (by simp) allowed)
      (ih fun d hd => ho d (by simp [hd]))
  | @triplet a b r high low tail ih =>
    rw [List.map_cons, (hp '%').mpr rfl]
    exact .triplet (hh a high) (hh b low) (ih fun d hd => ho d (by simp [hd]))

theorem of_mem_split {sep : Char} (hp : sep ≠ '%') (hx : hex sep = false) (h : Encoded hex ok t) :
    ∀ p ∈ t.split sep, Encoded hex ok p := by
  intro p hpart
  rw [← Text.join_split sep t] at h
  generalize t.split sep = parts at h hpart
  induction parts with
  | nil => simp at hpart
  | cons q parts ih =>
    match parts with
    | [] =>
      obtain rfl : p = q := by simpa using hpart
      simpa using h
    | q' :: parts =>
      rw [Text.join_cons_cons] at h
      obtain ⟨hq, -, htail⟩ := h.cut hp hx
      rcases List.mem_cons.mp hpart with rfl | hpart
      · exact hq
      · exact ih htail hpart

theorem join {sep : Char} (hp : sep ≠ '%') (hsep : ok sep = true) {parts : List Text}
    (each : ∀ p ∈ parts, Encoded hex ok p) : Encoded hex ok (Text.join [sep] parts) :=
  Text.join_induction .nil (fun _ _ hs ht => hs.append (.char hp hsep ht)) parts each

end Encoded

end Encoded

/-- A part may be absent. -/
theorem map_eq_self {α : Type} {f : α → α} {part : Option α} (h : ∀ t ∈ part, f t = t) :
    part.map f = part :=
  (Option.map_congr h).trans (congrFun Option.map_id part)

/-! ## Capital triplets -/

section Capitals

variable {hex ok : Char → Bool} {t : Text}

private theorem toUpper_of_isHex {c : Char} (h : isHex c = true) : isCapitalHex c.toUpper = true :=
  Text.of_ascii (P := fun c => isHex c = true → isCapitalHex c.toUpper = true) (by decide)
    (isHex_ascii h) h

private theorem toUpper_of_isCapitalHex {c : Char} (h : isCapitalHex c = true) : c.toUpper = c :=
  Text.of_ascii (P := fun c => isCapitalHex c = true → c.toUpper = c) (by decide)
    (isCapitalHex_ascii h) h

theorem upperTriplets_cons {c : Char} (hc : c ≠ '%') (r : Text) :
    upperTriplets (c :: r) = c :: upperTriplets r := by
  simp [upperTriplets, hc]

theorem Encoded.upperTriplets (h : Encoded isHex ok t) :
    Encoded isCapitalHex ok (upperTriplets t) := by
  induction h with
  | nil => exact .nil
  | char hc allowed tail ih =>
    rw [upperTriplets_cons hc]
    exact .char hc allowed ih
  | triplet high low tail ih => exact .triplet (toUpper_of_isHex high) (toUpper_of_isHex low) ih

theorem upperTriplets_eq_self (h : Encoded isCapitalHex ok t) : upperTriplets t = t := by
  induction h with
  | nil => rfl
  | char hc allowed tail ih => rw [upperTriplets_cons hc, ih]
  | triplet high low tail ih =>
    rw [Uri.upperTriplets, ih, toUpper_of_isCapitalHex high, toUpper_of_isCapitalHex low]

@[simp] theorem head_upperTriplets : (upperTriplets t).head? = t.head? := by
  fun_induction Uri.upperTriplets t <;> rfl

@[simp] theorem upperTriplets_eq_nil_iff : upperTriplets t = [] ↔ t = [] := by
  rw [← List.head?_eq_none_iff, head_upperTriplets, List.head?_eq_none_iff]

end Capitals

/-! ## Percent-encoding -/

section Encoding

variable {ok ok' keep : Char → Bool} {t : Text}

private theorem upperHex_isCapitalHex : ∀ n < 16, isCapitalHex (upperHex n) = true := by decide

private theorem encoded_triplets {r : Text} (hr : Encoded isHex ok r) (bs : List UInt8) :
    Encoded isHex ok (bs.flatMap triplet ++ r) := by
  induction bs with
  | nil => exact hr
  | cons b bs ih =>
    have hb := b.toNat_lt
    have high := isHex_of_isCapitalHex (upperHex_isCapitalHex (b.toNat / 16) (by omega))
    have low := isHex_of_isCapitalHex (upperHex_isCapitalHex (b.toNat % 16) (by omega))
    simpa [triplet] using Encoded.triplet high low ih

private theorem encoded_encodeChar {r : Text} (hr : Encoded isHex ok r) {c : Char}
    (kept : keep c = true → c ≠ '%' ∧ ok c = true) : Encoded isHex ok (encodeChar keep c ++ r) := by
  rw [encodeChar]
  split
  · rename_i hk
    exact .char (kept hk).1 (kept hk).2 hr
  · exact encoded_triplets hr _

theorem encode_of_isEncoded (h : isEncoded t = true) :
    encode t = t.flatMap (encodeChar fun c => isPlain c || c = '%') := by
  simp [encode, h]

private theorem encode_of_not_isEncoded (h : isEncoded t = false) :
    encode t = t.flatMap (encodeChar isPlain) := by
  simp [encode, h]

theorem isEncoded_of_encoded (h : Encoded isHex ok t) : isEncoded t = true := by
  refine (encoded_iff (by decide)).mp ?_
  induction h with
  | nil => exact .nil
  | char hc allowed tail ih => exact .char hc (by simpa using hc) ih
  | triplet high low tail ih => exact .triplet high low ih

/-- Triplets stay, and so do the characters that encoding leaves alone; the others become
triplets. -/
theorem Encoded.encode (h : Encoded isHex ok t)
    (plain : ∀ c, ok c = true → isPlain c = true → ok' c = true) :
    Encoded isHex ok' (encode t) := by
  rw [encode_of_isEncoded (isEncoded_of_encoded h)]
  induction h with
  | nil => exact .nil
  | @char c r hc allowed tail ih =>
    refine encoded_encodeChar ih fun hk => ⟨hc, ?_⟩
    simp only [hc, decide_false, Bool.or_false] at hk
    exact plain c allowed hk
  | @triplet a b r high low tail ih =>
    have ha := isPlain_of_isHex high
    have hb := isPlain_of_isHex low
    simpa [encodeChar, ha, hb] using Encoded.triplet high low ih

theorem encode_encoded (t : Text) : Encoded isHex isPlain (encode t) := by
  cases h : isEncoded t with
  | true => exact ((encoded_iff (by decide)).mpr h).encode fun _ _ hc => hc
  | false =>
    rw [encode_of_not_isEncoded h]
    clear h
    induction t with
    | nil => exact .nil
    | cons c r ih =>
      refine encoded_encodeChar ih fun hk => ⟨?_, hk⟩
      rintro rfl
      exact absurd hk (by decide)

/-- Encoding leaves encoded texts of plain characters alone. -/
theorem encode_eq_self (h : Encoded isHex ok t) (plain : ∀ c, ok c = true → isPlain c = true) :
    encode t = t := by
  rw [encode_of_isEncoded (isEncoded_of_encoded h)]
  induction h with
  | nil => rfl
  | char hc allowed tail ih =>
    rw [List.flatMap_cons, ih]
    simp [encodeChar, plain _ allowed]
  | triplet high low tail ih =>
    simp only [List.flatMap_cons, ih]
    simp [encodeChar, isPlain_of_isHex high, isPlain_of_isHex low]

/-- What encoding makes of a character is in capitals already. -/
theorem upperTriplets_encodeChar_append {c : Char} (hc : c = '%' → keep c = false) {r r' : Text}
    (same : upperTriplets r = upperTriplets r') :
    upperTriplets (encodeChar keep c ++ r) = upperTriplets (encodeChar keep c ++ r') := by
  have bytes (bs : List UInt8) :
      upperTriplets (bs.flatMap triplet ++ r) = upperTriplets (bs.flatMap triplet ++ r') := by
    induction bs with
    | nil => exact same
    | cons b bs ih => simp [triplet, upperTriplets, ih]
  rw [encodeChar]
  split
  · rename_i hk
    have ne : c ≠ '%' := by
      rintro rfl
      simp [hc rfl] at hk
    simp [upperTriplets_cons ne, same]
  · exact bytes _

theorem encodeChar_shape (keep : Char → Bool) (c : Char) :
    encodeChar keep c = [c] ∨ keep c = false ∧ ∃ r, encodeChar keep c = '%' :: r := by
  rw [encodeChar]
  split
  · exact Or.inl rfl
  · rename_i hk
    have hu : String.utf8EncodeChar c ≠ [] := by
      rw [← List.length_pos_iff, String.length_utf8EncodeChar]
      exact c.utf8Size_pos
    obtain ⟨b, bs, hb⟩ := List.exists_cons_of_ne_nil hu
    refine Or.inr ⟨by simpa using hk, ?_⟩
    simp [hb, triplet]

@[simp] theorem encode_eq_nil_iff : encode t = [] ↔ t = [] := by
  cases t with
  | nil => simp [encode]
  | cons c r =>
    rw [encode, List.flatMap_cons]
    rcases encodeChar_shape (fun d => isPlain d || (isEncoded (c :: r) && d = '%')) c with h
      | ⟨-, s, h⟩ <;> simp [h]

theorem head_encode_eq_slash_iff : (encode t).head? = some '/' ↔ t.head? = some '/' := by
  cases t with
  | nil => rfl
  | cons c r =>
    rw [encode, List.flatMap_cons]
    rcases encodeChar_shape (fun d => isPlain d || (isEncoded (c :: r) && d = '%')) c with h
      | ⟨hk, s, h⟩
    · rw [h]
      rfl
    · rw [h]
      have hc : c ≠ '/' := by
        rintro rfl
        exact absurd hk (by simp; decide)
      simp [hc]

theorem slash_not_mem_of_triplets (h : Encoded isHex (fun _ => false) t) : '/' ∉ t := by
  intro hm
  rcases h.mem hm with h | h | h
  all_goals exact absurd h (by decide)

theorem slash_not_mem_encodeChar {c : Char} (hc : c ≠ '/') : '/' ∉ encodeChar keep c := by
  rw [encodeChar]
  split
  · simpa using hc.symm
  · refine slash_not_mem_of_triplets ?_
    simpa using encoded_triplets .nil (String.utf8EncodeChar c)

end Encoding

end GroupWire.Uri
