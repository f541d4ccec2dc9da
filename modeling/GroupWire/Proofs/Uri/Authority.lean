import GroupWire.Proofs.Idna.Label
import GroupWire.Proofs.Uri.Host
import GroupWire.Uri.Authority

/-! # Authorities in normal form

An authority that was read and brought to ASCII is in normal form once it is normalized. In normal
form or not, an authority in ASCII is read from its text as itself. -/

namespace GroupWire.Uri
namespace Authority

def IsPortText (p : Text) : Prop := p ≠ [] ∧ p.all Char.isDigit = true ∧ p.length ≤ 5

/-- What the reader of references in any script accepts. -/
structure IsReadable (a : Authority) : Prop where
  userinfo : ∀ i ∈ a.userinfo, i ≠ [] ∧ Encoded isHex (fun c => isUserinfoChar c || isUcs c) i
  host : a.host.IsReadable isUcs
  port : ∀ p ∈ a.port, IsPortText p

/-- What the reader accepts without characters of other scripts. -/
structure IsAscii (a : Authority) : Prop where
  userinfo : ∀ i ∈ a.userinfo, i ≠ [] ∧ Encoded isHex isUserinfoChar i
  host : a.host.IsReadable fun _ => false
  port : ∀ p ∈ a.port, IsPortText p

structure IsNormal (a : Authority) : Prop where
  userinfo : ∀ i ∈ a.userinfo, i ≠ [] ∧ Encoded isCapitalHex isUserinfoChar i
  host : a.host.IsNormal
  port : ∀ p ∈ a.port, IsPortText p

theorem IsNormal.isAscii {a : Authority} (hn : a.IsNormal) : a.IsAscii :=
  ⟨fun i hi => ⟨(hn.userinfo i hi).1, (hn.userinfo i hi).2.anyCase⟩, hn.host.isReadable, hn.port⟩

/-! ## What is read -/

private theorem isPortText_of_readDigits {t : Text} {port : Option Text}
    (h : readDigits t = some port) : ∀ p ∈ port, IsPortText p := by
  rw [readDigits] at h
  split at h
  · obtain rfl : none = port := Option.some.inj h
    simp
  · rename_i hne
    obtain ⟨hd, h⟩ := Option.ite_none_right_eq_some.mp h
    obtain rfl : some t = port := Option.some.inj h
    rw [Bool.and_eq_true, decide_eq_true_eq] at hd
    intro p hp
    obtain rfl : t = p := Option.some.inj hp
    exact ⟨by simpa using hne, hd⟩

private theorem isPortText_of_readPort {t : Text} {port : Option Text}
    (h : readPort t = some port) : ∀ p ∈ port, IsPortText p := by
  unfold readPort at h
  split at h
  · exact isPortText_of_readDigits h
  · exact isPortText_of_readDigits h

/-- A literal or a name, and what is read as its port. -/
theorem readHostPort_cases {extra : Char → Bool} {userinfo : Option Text} {t : Text} {a : Authority}
    (h : readHostPort extra userinfo t = some a) :
    a.userinfo = userinfo ∧ ∃ back, readPort back = some a.port ∧
      ((∃ body, t = '[' :: (body ++ ']' :: back) ∧ Host.readLiteral body = some a.host) ∨
        ∃ name, t = name ++ back ∧ Host.readName extra name = some a.host) := by
  unfold readHostPort at h
  split at h
  · rename_i r
    split at h
    · rename_i after hd
      simp only [Option.bind_eq_bind, Option.bind_eq_some_iff, Option.pure_def,
        Option.some.injEq] at h
      obtain ⟨host, hh, port, hp, rfl⟩ := h
      refine ⟨rfl, after, hp, Or.inl ⟨_, ?_, hh⟩⟩
      rw [← hd, List.takeWhile_append_dropWhile]
    · cases h
  · simp only [Option.bind_eq_bind, Option.bind_eq_some_iff, Option.pure_def,
      Option.some.injEq] at h
    obtain ⟨host, hh, port, hp, rfl⟩ := h
    exact ⟨rfl, _, hp, Or.inr ⟨_, List.takeWhile_append_dropWhile.symm, hh⟩⟩

private theorem isReadable_of_readHostPort {userinfo : Option Text} {t : Text} {a : Authority}
    (hu : ∀ i ∈ userinfo, i ≠ [] ∧ Encoded isHex (fun c => isUserinfoChar c || isUcs c) i)
    (h : readHostPort isUcs userinfo t = some a) : a.IsReadable := by
  obtain ⟨rfl, back, hp, hh⟩ := readHostPort_cases h
  have host : a.host.IsReadable isUcs := by
    rcases hh with ⟨body, -, hh⟩ | ⟨name, -, hh⟩
    · exact Host.isReadable_of_readLiteral isUcs hh
    · exact ((Host.readName_eq_some (by decide)).mp hh).2
  exact ⟨hu, host, isPortText_of_readPort hp⟩

/-- An at sign ends the userinfo, if there is one. -/
theorem read_cases {extra : Char → Bool} {t : Text} {a : Authority} (h : read extra t = some a) :
    (∃ i r, dropLineFeed t = i ++ '@' :: r ∧ '@' ∉ i ∧ i ≠ [] ∧
      wellEncoded (fun c => isUserinfoChar c || extra c) i = true ∧
      readHostPort extra (some i) r = some a) ∨
      '@' ∉ dropLineFeed t ∧ readHostPort extra none (dropLineFeed t) = some a := by
  unfold read at h
  dsimp only at h
  generalize dropLineFeed t = t at h
  have glued : t.takeWhile (· ≠ '@') ++ t.dropWhile (· ≠ '@') = t := List.takeWhile_append_dropWhile
  have before := Text.not_mem_takeWhile_ne '@' t
  split at h
  · rename_i r hr
    obtain ⟨hu, h⟩ := Option.ite_none_right_eq_some.mp h
    rw [Bool.and_eq_true, Bool.not_eq_true', List.isEmpty_eq_false_iff] at hu
    exact Or.inl ⟨_, r, by rw [← hr, glued], before, hu.1, hu.2, h⟩
  · rename_i none
    refine Or.inr ⟨?_, h⟩
    cases hd : t.dropWhile (· ≠ '@') with
    | nil => rwa [← glued, hd, List.append_nil]
    | cons c r =>
      obtain rfl := Text.eq_of_dropWhile_ne hd
      exact absurd hd (none r)

theorem isReadable_of_read {t : Text} {a : Authority} (h : read isUcs t = some a) :
    a.IsReadable := by
  rcases read_cases h with ⟨i, r, -, -, hne, hw, h⟩ | ⟨-, h⟩
  · refine isReadable_of_readHostPort (fun j hj => ?_) h
    obtain rfl := Option.some.inj hj
    exact ⟨hne, (encoded_iff (by decide)).mpr hw⟩
  · exact isReadable_of_readHostPort (by simp) h

/-! ## The ASCII form -/

private theorem labels_toAscii {labels forms : List Text}
    (h : labels.mapM Idna.toAscii? = some forms)
    (hl : ∀ l ∈ labels, Encoded isHex (fun c => isNameChar c || isUcs c) l ∧ '.' ∉ l) :
    (∀ a ∈ forms, Encoded isHex isNameChar a ∧ '.' ∉ a) ∧
      (forms = labels ∨ ∃ a ∈ forms, ∃ c ∈ a, c.isDigit = false) ∧
      forms.length = labels.length := by
  induction labels generalizing forms with
  | nil =>
    obtain rfl : [] = forms := by simpa using h
    simp
  | cons l labels ih =>
    simp only [List.mapM_cons, Option.bind_eq_bind, Option.bind_eq_some_iff, Option.pure_def,
      Option.some.injEq] at h
    obtain ⟨a, ha, rest, hrest, rfl⟩ := h
    obtain ⟨heach, hsame, hlength⟩ := ih hrest fun m hm => hl m (by simp [hm])
    have hform := Idna.isAsciiForm_of_toAscii? ha (hl l (by simp)).1 (hl l (by simp)).2
    refine ⟨?_, ?_, by simp [hlength]⟩
    · intro b hb
      rcases List.mem_cons.mp hb with rfl | hb
      · exact ⟨hform.encoded, hform.dotless⟩
      · exact heach b hb
    · rcases hform.digits with rfl | hdigit
      · rcases hsame with rfl | ⟨b, hb, hdigit⟩
        · exact Or.inl rfl
        · exact Or.inr ⟨b, by simp [hb], hdigit⟩
      · exact Or.inr ⟨a, by simp, hdigit⟩

private theorem quadInRange_of_letter {forms : List Text} (hd : ∀ a ∈ forms, '.' ∉ a)
    (hl : ∃ a ∈ forms, ∃ c ∈ a, c.isDigit = false) :
    Host.quadInRange (Text.join ['.'] forms) = true := by
  obtain ⟨a, ha, c, hc, hdigit⟩ := hl
  have hq : Host.isQuad (Text.join ['.'] forms) = false := by
    rw [Bool.eq_false_iff]
    intro hq
    simp only [Host.isQuad, Bool.and_eq_true, List.all_eq_true] at hq
    rw [Text.split_join hd (List.ne_nil_of_mem ha)] at hq
    exact absurd ((hq.2 a ha).2 c hc) (by simp [hdigit])
  simp [Host.quadInRange, hq]

private theorem isReadable_of_hostToAscii {h h' : Host} (hr : h.IsReadable isUcs)
    (ha : hostToAscii? h = some h') : h'.IsReadable fun _ => false := by
  cases h with
  | name t =>
    simp only [hostToAscii?, Option.bind_eq_bind, Option.bind_eq_some_iff, Option.pure_def,
      Option.some.injEq] at ha
    obtain ⟨forms, hforms, rfl⟩ := ha
    obtain ⟨henc, hquad⟩ := hr
    obtain ⟨heach, hsame, hlength⟩ := labels_toAscii hforms fun l hl =>
      ⟨henc.of_mem_split (by decide) (by decide) l hl, Text.not_mem_of_mem_split hl⟩
    refine ⟨?_, ?_⟩
    · exact (Encoded.join (by decide) (by decide) fun a ha => (heach a ha).1).mono
        (fun _ h => h) (by simp)
    · rcases hsame with rfl | hletter
      · rwa [Text.join_split]
      · exact quadInRange_of_letter (fun a ha => (heach a ha).2) hletter
  | six a zone =>
    obtain rfl : Host.six a zone = h' := Option.some.inj ha
    exact hr
  | future t =>
    obtain rfl : Host.future t = h' := Option.some.inj ha
    exact hr

theorem toAscii?_eq_some {a b : Authority} (h : toAscii? a = some b) :
    b.userinfo = a.userinfo.map encode ∧ hostToAscii? a.host = some b.host ∧ b.port = a.port := by
  simp only [toAscii?, Option.bind_eq_bind, Option.bind_eq_some_iff, Option.pure_def,
    Option.some.injEq] at h
  obtain ⟨host, hhost, rfl⟩ := h
  exact ⟨rfl, hhost, rfl⟩

theorem isAscii_of_toAscii {a b : Authority} (hr : a.IsReadable) (ha : toAscii? a = some b) :
    b.IsAscii := by
  obtain ⟨hu, hhost, hport⟩ := toAscii?_eq_some ha
  refine ⟨fun i hi => ?_, isReadable_of_hostToAscii hr.host hhost, hport ▸ hr.port⟩
  rw [hu] at hi
  obtain ⟨j, hj, rfl⟩ := Option.map_eq_some_iff.mp hi
  obtain ⟨hne, henc⟩ := hr.userinfo j hj
  refine ⟨by simpa using hne, henc.encode fun c hc hp => ?_⟩
  rcases Bool.or_eq_true _ _ ▸ hc with h | h
  · exact h
  · have := isUcs_not_ascii h
    have := isPlain_ascii hp
    omega

theorem IsAscii.normalize {a : Authority} (ha : a.IsAscii) : a.normalize.IsNormal := by
  refine ⟨fun i hi => ?_, Host.isNormal_normalize ha.host, ha.port⟩
  obtain ⟨j, hj, rfl⟩ := Option.map_eq_some_iff.mp hi
  obtain ⟨hne, henc⟩ := ha.userinfo j hj
  exact ⟨by simpa using hne, henc.upperTriplets⟩

/-! ## Reading the text of an authority -/

def userinfoText (userinfo : Option Text) : Text :=
  match userinfo with
  | some i => i ++ ['@']
  | none => []

def portText (port : Option Text) : Text :=
  match port with
  | some p => ':' :: p
  | none => []

theorem readPort_portText {port : Option Text} (h : ∀ p ∈ port, IsPortText p) :
    readPort (portText port) = some port := by
  cases port with
  | none => rfl
  | some p =>
    obtain ⟨hne, hdigits, hlength⟩ := h p rfl
    simp [portText, readPort, readDigits, hne, hdigits, hlength]

private theorem head_portText (port : Option Text) : ∀ c ∈ (portText port).head?, c = ':' := by
  cases port <;> simp [portText]

private theorem name_chars {t : Text} (h : Encoded isHex isNameChar t) :
    ∀ c ∈ t, c ≠ ':' ∧ c ≠ '[' :=
  h.forall_mem (P := fun c => c ≠ ':' ∧ c ≠ '[') (fun _ => isPlain_of_isNameChar) (by decide)

variable {extra : Char → Bool} (refuses : extra '%' = false) {port : Option Text}
  (hport : ∀ p ∈ port, IsPortText p) (userinfo : Option Text)

include hport refuses

private theorem readHostPort_name {t : Text} (hr : (Host.name t).IsReadable fun _ => false) :
    readHostPort extra userinfo (t ++ portText port) = some ⟨userinfo, .name t, port⟩ := by
  have henc := Host.encoded_of_isReadable hr
  have run : ∀ c ∈ t, decide (c ≠ ':') = true := fun c hc => by simpa using (name_chars henc c hc).1
  have stop : ∀ c ∈ (portText port).head?, decide (c ≠ ':') = false := fun c hc => by
    simpa using head_portText port c hc
  have hname : Host.readName extra t = some (.name t) :=
    (Host.readName_eq_some refuses).mpr ⟨rfl, henc.mono (fun _ h => h) (by simp +contextual), hr.2⟩
  have hopen : ∀ r, t ++ portText port ≠ '[' :: r := by
    intro r hr
    cases t with
    | nil =>
      have := head_portText port '[' (by simpa using congrArg List.head? hr)
      exact absurd this (by decide)
    | cons c t => exact (name_chars henc c (by simp)).2 (by simpa using congrArg List.head? hr)
  unfold readHostPort
  split
  · rename_i r hr
    exact absurd hr (hopen r)
  · simp only [Text.takeWhile_append_stop run stop, Text.dropWhile_append_stop run stop, hname,
      readPort_portText hport]
    rfl

omit refuses in
private theorem readHostPort_literal {h : Host} {body : Text} (hclose : ']' ∉ body)
    (hread : Host.readLiteral body = some h) :
    readHostPort extra userinfo ('[' :: body ++ [']'] ++ portText port) =
      some ⟨userinfo, h, port⟩ := by
  have run := Text.ne_of_not_mem hclose
  have stop : ∀ c ∈ (']' :: portText port).head?, decide (c ≠ ']') = false := by simp
  have shape : '[' :: body ++ [']'] ++ portText port = '[' :: (body ++ ']' :: portText port) := by
    simp
  rw [shape]
  simp only [readHostPort, Text.takeWhile_append_stop run stop,
    Text.dropWhile_append_stop run stop, hread, readPort_portText hport]
  rfl

private theorem readHostPort_text {h : Host} (hr : h.IsReadable fun _ => false) :
    readHostPort extra userinfo (h.text ++ portText port) = some ⟨userinfo, h, port⟩ := by
  by_cases hl : ∃ t, h = .name t
  · obtain ⟨t, rfl⟩ := hl
    exact readHostPort_name refuses hport userinfo hr
  · obtain ⟨body, htext, hclose, hread⟩ := Host.readLiteral_of_isReadable hr fun t ht => hl ⟨t, ht⟩
    rw [htext]
    exact readHostPort_literal hport userinfo hclose hread

omit hport refuses

variable {a : Authority}

theorem text_eq (a : Authority) :
    a.text = userinfoText a.userinfo ++ (a.host.text ++ portText a.port) := by
  cases a with
  | mk userinfo host port => cases userinfo <;> cases port <;> simp [text, userinfoText, portText]

theorem encoded_text (hn : a.IsNormal) : Encoded isHex isPlain a.text := by
  have userinfo : Encoded isHex isPlain (userinfoText a.userinfo) := by
    cases hu : a.userinfo with
    | none => exact .nil
    | some i =>
      have inside :=
        (hn.userinfo i hu).2.anyCase.mono (fun _ h => h) fun _ => isPlain_of_isUserinfoChar
      exact inside.append (.char (by decide) (by decide) .nil)
  have port : Encoded isHex isPlain (portText a.port) := by
    cases hp : a.port with
    | none => exact .nil
    | some p =>
      refine .char (by decide) (by decide) (Encoded.of_all fun c hc => ?_)
      have digit := List.all_eq_true.mp (hn.port p hp).2.1 c hc
      have hx : isHex c = true := by simp [isHex, digit]
      refine ⟨?_, isPlain_of_isHex hx⟩
      rintro rfl
      exact absurd digit (by decide)
  rw [text_eq]
  exact userinfo.append ((Host.encoded_text hn.host).append port)

private theorem isHostChar_of_isPortText {p : Text} (h : IsPortText p) {c : Char}
    (hc : c ∈ ':' :: p) : Host.isHostChar c = true := by
  rcases List.mem_cons.mp hc with rfl | hc
  · decide
  · have hd := List.all_eq_true.mp h.2.1 c hc
    have hx : isHex c = true := by simp [isHex, hd]
    exact of_plain (P := fun c => c.isDigit = true → Host.isHostChar c = true) (by decide)
      (isPlain_of_isHex hx) hd

private theorem isHostChar_of_mem_hostPort (ha : a.IsAscii) {c : Char}
    (hc : c ∈ a.host.text ++ portText a.port) :
    Host.isHostChar c = true := by
  rcases List.mem_append.mp hc with hc | hc
  · exact Host.isHostChar_of_mem_text ha.host c hc
  · cases hp : a.port with
    | none => simp [hp, portText] at hc
    | some p => exact isHostChar_of_isPortText (ha.port p hp) (by simpa [hp, portText] using hc)

private theorem isHostChar_of_mem_userinfo (ha : a.IsAscii) {i : Text} (hi : a.userinfo = some i) :
    ∀ c ∈ i, Host.isHostChar c = true :=
  (ha.userinfo i hi).2.forall_mem (P := fun c => Host.isHostChar c = true)
    (fun _ => isPlain_of_isUserinfoChar) (by decide)

/-- The at sign occurs at most once, behind the userinfo. -/
theorem isHostChar_of_mem_text (ha : a.IsAscii) {c : Char} (hc : c ∈ a.text) :
    Host.isHostChar c = true ∨ c = '@' := by
  rw [text_eq] at hc
  rcases List.mem_append.mp hc with hc | hc
  · cases hu : a.userinfo with
    | none => simp [hu, userinfoText] at hc
    | some i =>
      rw [hu, userinfoText] at hc
      rcases List.mem_append.mp hc with hc | hc
      · exact Or.inl (isHostChar_of_mem_userinfo ha hu c hc)
      · exact Or.inr (by simpa using hc)
  · exact Or.inl (isHostChar_of_mem_hostPort ha hc)

private theorem isHostChar_ne_at {t : Text} (h : ∀ c ∈ t, Host.isHostChar c = true) :
    ∀ c ∈ t, decide (c ≠ '@') = true := by
  intro c hc
  rw [decide_eq_true_eq]
  rintro rfl
  exact absurd (h '@' hc) (by decide)

private theorem dropLineFeed_text (ha : a.IsAscii) : dropLineFeed a.text = a.text := by
  rw [dropLineFeed, if_neg]
  rw [List.isSuffixOf_iff_suffix]
  intro hs
  rcases isHostChar_of_mem_text ha (hs.subset (by simp : '\n' ∈ ['\n'])) with h | h
  · exact absurd h (by decide)
  · exact absurd h (by decide)

/-- Whatever further characters are let in, the text of an authority in ASCII is read as that
authority. -/
theorem read_text {extra : Char → Bool} (refuses : extra '%' = false) (ha : a.IsAscii) :
    read extra a.text = some a := by
  have rest := isHostChar_ne_at fun c => isHostChar_of_mem_hostPort ha (c := c)
  unfold read
  dsimp only
  rw [dropLineFeed_text ha, text_eq]
  cases a with
  | mk userinfo host port =>
    cases userinfo with
    | none =>
      have hd : (host.text ++ portText port).dropWhile (· ≠ '@') = [] := by
        simpa using Text.dropWhile_append_stop (t := []) rest (by simp)
      simp only [userinfoText, List.nil_append, hd]
      exact readHostPort_text refuses ha.port none ha.host
    | some i =>
      have run := isHostChar_ne_at (isHostChar_of_mem_userinfo ha (i := i) rfl)
      have stop : ∀ c ∈ ('@' :: (host.text ++ portText port)).head?, decide (c ≠ '@') = false := by
        simp
      obtain ⟨hne, henc⟩ := ha.userinfo i rfl
      have percent : (isUserinfoChar '%' || extra '%') = false := by
        rw [refuses]
        decide
      have hw : wellEncoded (fun c => isUserinfoChar c || extra c) i = true := by
        apply (encoded_iff _).mp
        · exact henc.mono (fun _ h => h) (by simp +contextual)
        · exact percent
      simp only [userinfoText, List.append_assoc, List.cons_append, List.nil_append,
        Text.takeWhile_append_stop run stop, Text.dropWhile_append_stop run stop, hw, Bool.and_true]
      rw [if_pos (by simpa using hne)]
      exact readHostPort_text refuses ha.port (some i) ha.host

private theorem mapM_eq_self {f : Text → Option Text} {labels : List Text}
    (h : ∀ l ∈ labels, f l = some l) : labels.mapM f = some labels := by
  induction labels with
  | nil => rfl
  | cons l labels ih => simp [List.mapM_cons, h l (by simp), ih fun m hm => h m (by simp [hm])]

private theorem hostToAscii_eq_self {h : Host} (hn : h.IsNormal) : hostToAscii? h = some h := by
  cases h with
  | name t =>
    have ascii : ∀ c ∈ t, c.toNat < 128 :=
      hn.1.forall_mem (P := fun c => c.toNat < 128) (fun _ => isPlain_of_isNameChar) (by decide)
    have each : ∀ l ∈ t.split '.', Idna.toAscii? l = some l := fun l hl =>
      Idna.toAscii?_of_ascii fun c hc => ascii c (Text.mem_of_mem_split hl hc)
    simp [hostToAscii?, mapM_eq_self each]
  | six => rfl
  | future => rfl

theorem toAscii?_eq_self (hn : a.IsNormal) : toAscii? a = some a := by
  have hu : a.userinfo.map encode = a.userinfo := map_eq_self fun i hi =>
    encode_eq_self (hn.userinfo i hi).2.anyCase fun _ => isPlain_of_isUserinfoChar
  simp [toAscii?, hu, hostToAscii_eq_self hn.host]

theorem normalize_eq_self (hn : a.IsNormal) : a.normalize = a := by
  have hu : a.userinfo.map upperTriplets = a.userinfo := map_eq_self fun i hi =>
    upperTriplets_eq_self (hn.userinfo i hi).2
  rw [normalize, hu, Host.normalize_eq_self hn.host]

theorem isVoid_iff (a : Authority) :
    a.isVoid = true ↔ a.userinfo = none ∧ a.host = .name [] ∧ a.port = none := by
  simp [isVoid, and_assoc]

theorem isVoid_normalize (a : Authority) : a.normalize.isVoid = a.isVoid := by
  have hhost : a.host.normalize = .name [] ↔ a.host = .name [] := by
    cases a.host <;> simp [Host.normalize, Text.toLower]
  rw [Bool.eq_iff_iff, isVoid_iff, isVoid_iff, normalize, hhost, Option.map_eq_none_iff]

end Authority
end GroupWire.Uri
