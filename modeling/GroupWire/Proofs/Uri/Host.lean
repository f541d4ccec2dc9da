import GroupWire.Proofs.Uri.Encoded
import GroupWire.Uri.Host

/-! # Hosts in normal form

What the reader of a host accepts stays acceptable in small letters, so normalization leads to a
host in normal form; and a literal in normal form is read from its text as itself. -/

namespace GroupWire.Uri

/-! ## Classes of characters in small letters -/

section Lowercase

@[simp] theorem isDigit_toLower (c : Char) : c.toLower.isDigit = c.isDigit :=
  Text.toLower_invariant (by decide) c

@[simp] theorem isHex_toLower (c : Char) : isHex c.toLower = isHex c :=
  Text.toLower_invariant (by decide) c

@[simp] theorem isNameChar_toLower (c : Char) : isNameChar c.toLower = isNameChar c :=
  Text.toLower_invariant (by decide) c

@[simp] theorem isUserinfoChar_toLower (c : Char) : isUserinfoChar c.toLower = isUserinfoChar c :=
  Text.toLower_invariant (by decide) c

private theorem toLower_percent (c : Char) : c.toLower = '%' ↔ c = '%' :=
  Text.toLower_eq_iff (by decide) c

private theorem toLower_dot (c : Char) : c.toLower = '.' ↔ c = '.' :=
  Text.toLower_eq_iff (by decide) c

private theorem toLower_colon (c : Char) : c.toLower = ':' ↔ c = ':' :=
  Text.toLower_eq_iff (by decide) c

private theorem all_toLower {p : Char → Bool} (h : ∀ c, p c.toLower = p c) (t : Text) :
    t.toLower.all p = t.all p := by
  rw [Text.toLower, List.all_map]
  exact congrArg t.all (funext h)

theorem toNat_toLower (t : Text) : Text.toNat 10 t.toLower = Text.toNat 10 t := by
  have digit : ∀ c : Char, c.isDigit = true → c.toLower = c := fun c hc => by
    by_cases ha : c.toNat < 128
    · exact Text.of_ascii (P := fun c => c.isDigit = true → c.toLower = c) (by decide) ha hc
    · exact Text.toLower_of_not_ascii (Nat.le_of_not_lt ha)
  rw [Text.toNat, Text.toNat, Text.toLower, List.foldl_map]
  congr 1
  funext n c
  by_cases hc : c.isDigit = true <;> simp [hc, digit]

end Lowercase

namespace Host

/-! ## Small letters do not change what a host is -/

@[simp] theorem isQuad_toLower (t : Text) : isQuad t.toLower = isQuad t := by
  have each (p : Text) : (1 ≤ (p.map Char.toLower).length && (p.map Char.toLower).length ≤ 3 &&
      (p.map Char.toLower).all Char.isDigit) =
        (1 ≤ p.length && p.length ≤ 3 && p.all Char.isDigit) := by
    rw [List.length_map]
    exact congrArg _ (all_toLower isDigit_toLower p)
  simp only [isQuad, Text.toLower, Text.split_map toLower_dot, List.length_map, List.all_map]
  exact congrArg _ (congrArg _ (funext each))

@[simp] theorem quadInRange_toLower (t : Text) : quadInRange t.toLower = quadInRange t := by
  rw [quadInRange, quadInRange, isQuad_toLower, Text.toLower,
    Text.split_map toLower_dot, List.all_map]
  congr 2
  funext p
  exact congrArg (fun n => decide (n ≤ 255)) (toNat_toLower p)

@[simp] theorem isGroup_toLower (t : Text) : isGroup t.toLower = isGroup t := by
  rw [isGroup, isGroup, all_toLower isHex_toLower, Text.toLower, List.length_map]

private theorem groups_cons_cons (quadLast : Bool) (p q : Text) (parts : List Text) :
    groups? quadLast (p :: q :: parts) =
      if isGroup p then (groups? quadLast (q :: parts)).map (· + 1) else none := by
  rw [groups?]
  simp

private theorem groups_toLower (quadLast : Bool) (parts : List Text) :
    groups? quadLast (parts.map (List.map Char.toLower)) = groups? quadLast parts := by
  induction parts with
  | nil => rfl
  | cons p parts ih =>
    have hg : isGroup (p.map Char.toLower) = isGroup p := isGroup_toLower p
    have hq : isQuad (p.map Char.toLower) = isQuad p := isQuad_toLower p
    cases parts with
    | nil => simp [groups?, hg, hq]
    | cons q parts =>
      simp only [List.map_cons] at ih ⊢
      rw [groups_cons_cons, groups_cons_cons, ih, hg]

private theorem sideGroups_toLower (quadLast : Bool) (t : Text) :
    sideGroups? quadLast t.toLower = sideGroups? quadLast t := by
  rw [sideGroups?, sideGroups?, Text.toLower, Text.split_map toLower_colon, groups_toLower,
    List.isEmpty_map]

private theorem splitDouble_cons {c : Char} {r : Text} (h : ¬ (c = ':' ∧ r.head? = some ':')) :
    splitDouble (c :: r) = (splitDouble r).map fun p => (c :: p.1, p.2) := by
  rw [splitDouble]
  rintro s rfl rfl
  simp at h

private theorem splitDouble_toLower (t : Text) :
    splitDouble t.toLower = (splitDouble t).map fun p => (p.1.toLower, p.2.toLower) := by
  rw [Text.toLower]
  fun_induction splitDouble t with
  | case1 => rfl
  | case2 r => rfl
  | case3 c r hne ih =>
    rw [List.map_cons, splitDouble_cons, ih]
    · simp [Text.toLower, Function.comp_def]
    · rintro ⟨hc, hr⟩
      rw [toLower_colon] at hc
      cases r with
      | nil => simp at hr
      | cons d r =>
        obtain rfl : d = ':' := (toLower_colon d).mp (by simpa using hr)
        exact hne r hc rfl

@[simp] theorem isSix_toLower (t : Text) : isSix t.toLower = isSix t := by
  rw [isSix, isSix, splitDouble_toLower]
  cases splitDouble t with
  | none => simp [sideGroups_toLower]
  | some p => simp [sideGroups_toLower]

/-! ## Characters -/

/-- What stands in an address between brackets. -/
def isAddressChar (c : Char) : Bool := isHex c || c = ':' || c = '.'

private theorem of_isGroup {t : Text} (h : isGroup t = true) : ∀ c ∈ t, isAddressChar c = true := by
  simp only [isGroup, Bool.and_eq_true, List.all_eq_true] at h
  intro c hc
  simp [isAddressChar, h.2 c hc]

private theorem of_isQuad {t : Text} (h : isQuad t = true) : ∀ c ∈ t, isAddressChar c = true := by
  simp only [isQuad, Bool.and_eq_true, List.all_eq_true] at h
  refine Text.forall_of_split '.' (by decide) fun p hp c hc => ?_
  simp [isAddressChar, isHex, (h.2 p hp).2 c hc]

private theorem of_groups {quadLast : Bool} {parts : List Text} {n : Nat}
    (h : groups? quadLast parts = some n) :
    ∀ p ∈ parts, ∀ c ∈ p, isAddressChar c = true := by
  induction parts generalizing n with
  | nil => simp
  | cons p parts ih =>
    cases parts with
    | nil =>
      intro q hq
      obtain rfl : q = p := by simpa using hq
      simp only [groups?] at h
      split at h
      · exact of_isGroup ‹_›
      · split at h
        · rename_i hq
          exact of_isQuad (Bool.and_eq_true _ _ ▸ hq).2
        · simp at h
    | cons q parts =>
      rw [groups_cons_cons] at h
      split at h
      · rename_i hg
        obtain ⟨m, hm, -⟩ := Option.map_eq_some_iff.mp h
        intro s hs
        rcases List.mem_cons.mp hs with rfl | hs
        · exact of_isGroup hg
        · exact ih hm s hs
      · simp at h

private theorem of_sideGroups {quadLast : Bool} {t : Text} {n : Nat}
    (h : sideGroups? quadLast t = some n) :
    ∀ c ∈ t, isAddressChar c = true := by
  rw [sideGroups?] at h
  split at h
  · rename_i ht
    simp [List.isEmpty_iff.mp ht]
  · exact Text.forall_of_split ':' (by decide) (of_groups h)

private theorem splitDouble_eq {t l r : Text} (h : splitDouble t = some (l, r)) :
    t = l ++ ':' :: ':' :: r := by
  fun_induction splitDouble t generalizing l with
  | case1 => simp at h
  | case2 s =>
    obtain ⟨rfl, rfl⟩ : [] = l ∧ s = r := by simpa using h
    rfl
  | case3 c s _ ih =>
    obtain ⟨⟨l', r'⟩, hs, he⟩ := Option.map_eq_some_iff.mp h
    obtain ⟨rfl, rfl⟩ : c :: l' = l ∧ r' = r := by simpa using he
    rw [ih hs]
    rfl

theorem isAddressChar_of_isSix {t : Text} (h : isSix t = true) :
    ∀ c ∈ t, isAddressChar c = true := by
  rw [isSix] at h
  split at h
  · exact of_sideGroups (by simpa using h)
  · rename_i l r hs
    split at h
    · rename_i m n hl hr
      rw [splitDouble_eq hs]
      intro c hc
      simp only [List.mem_append, List.mem_cons] at hc
      rcases hc with hc | rfl | rfl | hc
      · exact of_sideGroups hl c hc
      · decide
      · decide
      · exact of_sideGroups hr c hc
    · simp at h

private theorem isUserinfoChar_of_isHex {c : Char} (h : isHex c = true) : isUserinfoChar c = true :=
  of_plain (P := fun c => isHex c = true → isUserinfoChar c = true) (by decide)
    (isPlain_of_isHex h) h

private theorem isUserinfoChar_of_isAddressChar {c : Char} (h : isAddressChar c = true) :
    isUserinfoChar c = true := by
  simp only [isAddressChar, Bool.or_eq_true, decide_eq_true_eq] at h
  rcases h with (h | rfl) | rfl
  · exact isUserinfoChar_of_isHex h
  all_goals decide

/-- A literal of a later version: its letter, its version, a dot and the rest. -/
theorem isFuture_iff {t : Text} : isFuture t = true ↔
    ∃ version s, t = 'v' :: version ++ '.' :: s ∧ version ≠ [] ∧ version.all isHex = true ∧ s ≠ [] ∧
      s.all isUserinfoChar = true := by
  constructor
  · intro h
    unfold isFuture at h
    split at h
    · rename_i r
      simp only [Bool.and_eq_true, Bool.not_eq_true', List.isEmpty_eq_false_iff] at h
      obtain ⟨hv, h⟩ := h
      split at h
      · rename_i s hs
        simp only [Bool.and_eq_true, Bool.not_eq_true', List.isEmpty_eq_false_iff] at h
        refine ⟨r.takeWhile isHex, s, ?_, hv, List.all_takeWhile, h.1, h.2⟩
        rw [List.cons_append, ← hs, List.takeWhile_append_dropWhile]
      · simp at h
    · simp at h
  · rintro ⟨version, s, rfl, hv, hall, hs, hsall⟩
    have run : ∀ c ∈ version, isHex c = true := List.all_eq_true.mp hall
    have stop : ∀ c ∈ ('.' :: s).head?, isHex c = false := by simp; decide
    simp [isFuture, Text.takeWhile_append_stop run stop, Text.dropWhile_append_stop run stop,
      hv, hs, hsall]

theorem isFuture_toLower {t : Text} (h : isFuture t = true) : isFuture t.toLower = true := by
  obtain ⟨version, s, rfl, hv, hall, hs, hsall⟩ := isFuture_iff.mp h
  refine isFuture_iff.mpr ⟨Text.toLower version, Text.toLower s, ?_, ?_, ?_, ?_, ?_⟩
  · simp [Text.toLower]
  · simpa [Text.toLower] using hv
  · rwa [all_toLower isHex_toLower]
  · simpa [Text.toLower] using hs
  · rwa [all_toLower isUserinfoChar_toLower]

theorem isUserinfoChar_of_isFuture {t : Text} (h : isFuture t = true) :
    ∀ c ∈ t, isUserinfoChar c = true := by
  obtain ⟨version, s, rfl, -, hall, -, hsall⟩ := isFuture_iff.mp h
  intro c hc
  simp only [List.cons_append, List.mem_cons, List.mem_append] at hc
  rcases hc with rfl | hc | rfl | hc
  · decide
  · exact isUserinfoChar_of_isHex (List.all_eq_true.mp hall c hc)
  · decide
  · exact List.all_eq_true.mp hsall c hc

/-! ## Normal form -/

/-- What the reader of a host accepts; `extra` are characters that names may
hold besides those of URIs. -/
def IsReadable (extra : Char → Bool) : Host → Prop
  | name t => Encoded isHex (fun c => isNameChar c || extra c) t ∧ quadInRange t = true
  | six a zone => isSix a = true ∧ ∀ z ∈ zone, isZone z = true
  | future t => isFuture t = true

/-- Readable, in ASCII and small letters, a zone being set off by an encoded percent sign. -/
def IsNormal : Host → Prop
  | name t => Encoded isHex isNameChar t ∧ quadInRange t = true ∧ t.toLower = t
  | six a zone => isSix a = true ∧ a.toLower = a ∧ ∀ z ∈ zone, isZone z = true ∧ normalZone z = z
  | future t => isFuture t = true ∧ t.toLower = t

theorem isZone_normalZone {z : Text} (h : isZone z = true) : isZone (normalZone z) = true := by
  unfold normalZone
  split
  · exact h
  · simp only [isZone, Bool.and_eq_true] at h ⊢
    exact ⟨rfl, h.2⟩

theorem normalZone_normalZone {z : Text} (h : isZone z = true) :
    normalZone (normalZone z) = normalZone z := by
  have ne : z ≠ [] := by
    rintro rfl
    exact absurd h (by decide)
  by_cases hz : ∃ c r, z = '2' :: '5' :: c :: r
  · obtain ⟨c, r, rfl⟩ := hz
    rfl
  · have plain : normalZone z = '2' :: '5' :: z := by
      rw [normalZone]
      rintro c r rfl
      exact hz ⟨c, r, rfl⟩
    obtain ⟨c, r, rfl⟩ := List.exists_cons_of_ne_nil ne
    rw [plain]
    rfl

theorem zone_shape {z : Text} (same : normalZone z = z) : ∃ c r, z = '2' :: '5' :: c :: r := by
  unfold normalZone at same
  split at same
  · exact ⟨_, _, rfl⟩
  · have length := congrArg List.length same
    simp only [List.length_cons] at length
    omega

/-- Names must be in ASCII already. -/
theorem isNormal_normalize {h : Host} (hr : h.IsReadable fun _ => false) :
    h.normalize.IsNormal := by
  cases h with
  | name t =>
    obtain ⟨henc, hquad⟩ := hr
    refine ⟨henc.map toLower_percent (fun c hc => by simpa using hc)
      fun c _ hc => by simpa using hc, ?_, by simp⟩
    rwa [← quadInRange_toLower] at hquad
  | six a zone =>
    obtain ⟨hsix, hzone⟩ := hr
    refine ⟨by simpa using hsix, by simp, fun z hz => ?_⟩
    obtain ⟨y, hy, rfl⟩ := Option.map_eq_some_iff.mp hz
    exact ⟨isZone_normalZone (hzone y hy), normalZone_normalZone (hzone y hy)⟩
  | future t => exact ⟨isFuture_toLower hr, by simp⟩

theorem normalize_eq_self {h : Host} (hn : h.IsNormal) : h.normalize = h := by
  cases h with
  | name t => exact congrArg name hn.2.2
  | six a zone =>
    obtain ⟨-, hlower, hzone⟩ := hn
    have same : zone.map normalZone = zone := by
      cases zone with
      | none => rfl
      | some z => exact congrArg some (hzone z rfl).2
    rw [normalize, hlower, same]
  | future t => exact congrArg future hn.2

theorem IsNormal.isReadable {h : Host} (hn : h.IsNormal) : h.IsReadable fun _ => false := by
  cases h with
  | name t =>
    obtain ⟨henc, hquad, -⟩ := hn
    exact ⟨henc.mono (fun _ hx => hx) fun c hc => by simp [hc], hquad⟩
  | six a zone => exact ⟨hn.1, fun z hz => (hn.2.2 z hz).1⟩
  | future t => exact hn.1

theorem encoded_of_isReadable {t : Text} (h : (name t).IsReadable fun _ => false) :
    Encoded isHex isNameChar t :=
  h.1.mono (fun _ hx => hx) fun c hc => by simpa using hc

/-! ## Reading -/

theorem isReadable_of_readLiteral {t : Text} {h : Host} (extra : Char → Bool)
    (hr : readLiteral t = some h) : h.IsReadable extra := by
  unfold readLiteral at hr
  dsimp only at hr
  by_cases hf : isFuture t = true
  · rw [if_pos hf] at hr
    obtain rfl : future t = h := by simpa using hr
    exact hf
  · rw [if_neg hf] at hr
    by_cases hs : isSix (t.takeWhile (· ≠ '%')) = true
    · rw [if_neg (by simpa using hs)] at hr
      split at hr
      · obtain rfl : six (t.takeWhile (· ≠ '%')) none = h := Option.some.inj hr
        exact ⟨hs, by simp⟩
      · rename_i zone _
        obtain ⟨hz, hr⟩ := Option.ite_none_right_eq_some.mp hr
        obtain rfl : six (t.takeWhile (· ≠ '%')) (some zone) = h := Option.some.inj hr
        exact ⟨hs, by simpa using hz⟩
    · rw [if_pos (by simpa using hs)] at hr
      simp at hr

theorem readName_eq_some {extra : Char → Bool} (refuses : extra '%' = false) {t : Text} {h : Host} :
    readName extra t = some h ↔ h = name t ∧ h.IsReadable extra := by
  rw [readName, Option.ite_none_right_eq_some, Bool.and_eq_true,
    ← encoded_iff (by simp [refuses]; decide)]
  constructor
  · rintro ⟨hr, he⟩
    obtain rfl : name t = h := by simpa using he
    exact ⟨rfl, hr⟩
  · rintro ⟨rfl, hr⟩
    exact ⟨hr, rfl⟩

private theorem not_mem_of_all {p : Char → Bool} {t : Text} (h : ∀ c ∈ t, p c = true) {d : Char}
    (hd : p d = false) : d ∉ t := by
  intro hm
  have := h d hm
  simp_all

private theorem encoded_of_isZone {z : Text} (h : isZone z = true) :
    Encoded isHex isNameChar z := by
  rw [isZone, Bool.and_eq_true] at h
  have henc : Encoded isHex isUnreserved z := (encoded_iff (by decide)).mpr h.2
  exact henc.mono (fun _ hx => hx) fun c hc => by simp [isNameChar, hc]

/-- What the text of a host may hold. -/
def isHostChar (c : Char) : Bool := isUserinfoChar c || c = '%' || c = '[' || c = ']'

private theorem isHostChar_of_encoded {t : Text} (h : Encoded isHex isNameChar t) :
    ∀ c ∈ t, isHostChar c = true :=
  h.forall_mem (P := fun c => isHostChar c = true) (fun _ => isPlain_of_isNameChar) (by decide)

private theorem bracket_not_mem_of_encoded {t : Text} (h : Encoded isHex isNameChar t) :
    ']' ∉ t := by
  intro hm
  exact h.forall_mem (P := fun c => c ≠ ']') (fun _ => isPlain_of_isNameChar) (by decide) _ hm rfl

theorem isHostChar_of_mem_text {h : Host} (hr : h.IsReadable fun _ => false) :
    ∀ c ∈ h.text, isHostChar c = true := by
  intro c hc
  cases h with
  | name t =>
    exact isHostChar_of_encoded (encoded_of_isReadable hr) c hc
  | six a zone =>
    have address : ∀ c ∈ a, isHostChar c = true := fun c hc => by
      simp [isHostChar, isUserinfoChar_of_isAddressChar (isAddressChar_of_isSix hr.1 c hc)]
    cases zone with
    | none =>
      simp only [text, List.cons_append, List.mem_cons, List.mem_append, List.not_mem_nil,
        or_false] at hc
      rcases hc with rfl | hc | rfl
      · decide
      · exact address c hc
      · decide
    | some z =>
      simp only [text, List.cons_append, List.append_assoc, List.mem_cons, List.mem_append,
        List.not_mem_nil, or_false] at hc
      rcases hc with rfl | hc | rfl | hc | rfl
      · decide
      · exact address c hc
      · decide
      · exact isHostChar_of_encoded (encoded_of_isZone (hr.2 z rfl)) c hc
      · decide
  | future t =>
    simp only [text, List.cons_append, List.mem_cons, List.mem_append, List.not_mem_nil,
      or_false] at hc
    rcases hc with rfl | hc | rfl
    · decide
    · simp [isHostChar, isUserinfoChar_of_isFuture hr c hc]
    · decide

private theorem encoded_of_isUserinfoChar {t : Text} (h : ∀ c ∈ t, isUserinfoChar c = true) :
    Encoded isHex isPlain t := by
  refine Encoded.of_all fun c hc => ⟨?_, isPlain_of_isUserinfoChar (h c hc)⟩
  rintro rfl
  exact absurd (h '%' hc) (by decide)

/-- A zone in normal form begins with the two digits that make a triplet of the percent sign before
it. -/
private theorem encoded_zone {z : Text} (hz : isZone z = true) (hn : normalZone z = z) :
    Encoded isHex isPlain ('%' :: z) := by
  have henc : Encoded isHex isPlain z :=
    (encoded_of_isZone hz).mono (fun _ h => h) fun _ => isPlain_of_isNameChar
  obtain ⟨c, r, rfl⟩ := zone_shape hn
  cases henc with
  | char _ _ tail =>
    cases tail with
    | char _ _ tail => exact .triplet (by decide) (by decide) tail

theorem encoded_text {h : Host} (hn : h.IsNormal) : Encoded isHex isPlain h.text := by
  have bracketed {t : Text} (ht : Encoded isHex isPlain t) :
      Encoded isHex isPlain ('[' :: t ++ [']']) :=
    .char (by decide) (by decide) (ht.append (.char (by decide) (by decide) .nil))
  cases h with
  | name t => exact hn.1.mono (fun _ h => h) fun _ => isPlain_of_isNameChar
  | six a zone =>
    have address := encoded_of_isUserinfoChar fun c hc =>
      isUserinfoChar_of_isAddressChar (isAddressChar_of_isSix hn.1 c hc)
    cases zone with
    | none => exact bracketed address
    | some z =>
      obtain ⟨hz, hnormal⟩ := hn.2.2 z rfl
      simpa [text] using bracketed (address.append (encoded_zone hz hnormal))
  | future t => exact bracketed (encoded_of_isUserinfoChar (isUserinfoChar_of_isFuture hn.1))

theorem text_eq_nil_iff (h : Host) : h.text = [] ↔ h = name [] := by
  cases h with
  | name t => simp [text]
  | six a zone => cases zone <;> simp [text]
  | future t => simp [text]

private theorem not_isFuture_of_address {a r : Text} (h : isSix a = true) :
    isFuture (a ++ r) = false := by
  rw [Bool.eq_false_iff]
  intro hf
  obtain ⟨version, s, ht, -⟩ := isFuture_iff.mp hf
  cases a with
  | nil => exact absurd h (by decide)
  | cons c a =>
    obtain ⟨rfl, -⟩ : c = 'v' ∧ _ := by simpa using ht
    exact absurd (isAddressChar_of_isSix h 'v' (by simp)) (by decide)

private theorem address_run {a : Text} (h : isSix a = true) : ∀ c ∈ a, decide (c ≠ '%') = true :=
  Text.ne_of_not_mem (not_mem_of_all (isAddressChar_of_isSix h) (by decide))

private theorem readLiteral_six {a : Text} (h : isSix a = true) :
    readLiteral a = some (six a none) := by
  have hf : isFuture a = false := by simpa using not_isFuture_of_address (r := []) h
  have hw : a.takeWhile (· ≠ '%') = a := by
    simpa using Text.takeWhile_append_stop (t := []) (address_run h) (by simp)
  have hd : a.dropWhile (· ≠ '%') = [] := by
    simpa using Text.dropWhile_append_stop (t := []) (address_run h) (by simp)
  unfold readLiteral
  simp only [hf, hw, hd, h, Bool.false_eq_true, if_false, Bool.not_true]

private theorem readLiteral_six_zone {a z : Text} (h : isSix a = true) (hz : isZone z = true) :
    readLiteral (a ++ '%' :: z) = some (six a (some z)) := by
  have hw := Text.takeWhile_append_stop (t := '%' :: z) (address_run h) (by simp)
  have hd := Text.dropWhile_append_stop (t := '%' :: z) (address_run h) (by simp)
  unfold readLiteral
  simp only [not_isFuture_of_address h, hw, hd, h, hz, Bool.false_eq_true, if_false, if_true,
    Bool.not_true]

/-- The text of a literal is that literal between brackets. -/
theorem readLiteral_of_isReadable {h : Host} (hr : h.IsReadable fun _ => false)
    (hl : ∀ t, h ≠ name t) :
    ∃ body, h.text = '[' :: body ++ [']'] ∧ ']' ∉ body ∧ readLiteral body = some h := by
  cases h with
  | name t => exact absurd rfl (hl t)
  | six a zone =>
    obtain ⟨hsix, hzone⟩ := hr
    have address : ']' ∉ a := not_mem_of_all (isAddressChar_of_isSix hsix) (by decide)
    cases zone with
    | none => exact ⟨a, rfl, address, readLiteral_six hsix⟩
    | some z =>
      refine ⟨a ++ '%' :: z, by simp [text], ?_, readLiteral_six_zone hsix (hzone z rfl)⟩
      intro hm
      simp only [List.mem_append, List.mem_cons] at hm
      rcases hm with hm | hm | hm
      · exact address hm
      · exact absurd hm (by decide)
      · exact bracket_not_mem_of_encoded (encoded_of_isZone (hzone z rfl)) hm
  | future t =>
    have closed : isFuture t = true := hr
    refine ⟨t, rfl, not_mem_of_all (isUserinfoChar_of_isFuture closed) (by decide), ?_⟩
    simp [readLiteral, closed]

end Host

end GroupWire.Uri
