import GroupWire.Proofs.Idna.Case
import GroupWire.Proofs.Uri.Triplets
import GroupWire.Proofs.Url.Rest

/-! # Spellings of one URL

Blanks around a reference, the case of its scheme, of its host and of its triplets' digits, and a
port that the scheme has anyway are matters of spelling under the schemes that need a host: each
spelling is accepted as the same URL, or none is. What is read depends on the scheme and the host in
small letters and on the parts behind them with their triplets in capitals. -/

namespace GroupWire.Url

open Uri

/-! ## Names in either case -/

theorem wellEncoded_toLower {ok : Char → Bool} (blind : ∀ c, ok c.toLower = ok c) (t : Text) :
    wellEncoded ok t.toLower = wellEncoded ok t := by
  have percent (c : Char) : c.toLower = '%' ↔ c = '%' := Text.toLower_eq_iff (by decide) c
  rw [Text.toLower]
  fun_induction wellEncoded ok t with
  | case1 a b r ih => simp [wellEncoded, ih, (percent '%').mpr rfl]
  | case2 c r other ih =>
    rw [List.map_cons, wellEncoded, blind, ih]
    intro a b s hc hr
    -- A percent sign that begins no triplet begins none in small letters.
    obtain ⟨x, r, rfl, -, hs⟩ := List.map_eq_cons_iff.mp hr
    obtain ⟨y, z, rfl, -, -⟩ := List.map_eq_cons_iff.mp hs
    exact other x y z ((percent c).mp hc) rfl
  | case3 => rfl

private theorem isUcs_toLower (c : Char) : isUcs c.toLower = isUcs c :=
  Text.toLower_invariant (by decide) c

private theorem toLower_join (parts : List Text) :
    Text.toLower (Text.join ['.'] parts) = Text.join ['.'] (parts.map Text.toLower) := by
  have dot : '.'.toLower = '.' := by decide
  cases parts with
  | nil => rfl
  | cons p parts => simp [Text.join_cons, Text.toLower, List.map_flatMap, List.flatMap_map, dot]

/-- A name in any script in its ASCII form. -/
def asciiName? (t : Text) : Option Host := (Host.readName isUcs t).bind Authority.hostToAscii?

private theorem hostToAscii_name (t : Text) : Authority.hostToAscii? (.name t) =
    ((t.split '.').mapM Idna.toAscii?).map fun forms => .name (Text.join ['.'] forms) := by
  cases h : (t.split '.').mapM Idna.toAscii? <;> simp [Authority.hostToAscii?, h]

private theorem normalize_hostToAscii (t : Text) :
    (Authority.hostToAscii? (.name t)).map Host.normalize =
    (((t.split '.').mapM Idna.toAscii?).map (List.map Text.toLower)).map fun forms =>
      .name (Text.join ['.'] forms) := by
  rw [hostToAscii_name, Option.map_map, Option.map_map]
  refine Option.map_congr fun forms _ => ?_
  exact congrArg Host.name (toLower_join forms)

/-- The ASCII form of a name in small letters is that of the name. -/
theorem asciiName?_toLower (t : Text) :
    (asciiName? t.toLower).map Host.normalize = (asciiName? t).map Host.normalize := by
  have allowed : wellEncoded (fun c => isNameChar c || isUcs c) t.toLower =
      wellEncoded (fun c => isNameChar c || isUcs c) t :=
    wellEncoded_toLower (fun c => by rw [isNameChar_toLower, isUcs_toLower]) t
  have labels : t.toLower.split '.' = (t.split '.').map Text.toLower :=
    Text.split_map (fun c => Text.toLower_eq_iff (by decide) c) t
  have forms : (Authority.hostToAscii? (.name t.toLower)).map Host.normalize =
      (Authority.hostToAscii? (.name t)).map Host.normalize := by
    rw [normalize_hostToAscii, normalize_hostToAscii, labels, Idna.mapM_toAscii?_toLower]
  rw [asciiName?, asciiName?, Host.readName, Host.readName, allowed, Host.quadInRange_toLower]
  split
  · exact forms
  · rfl

theorem asciiName?_congr {s t : Text} (same : s.toLower = t.toLower) :
    (asciiName? s).map Host.normalize = (asciiName? t).map Host.normalize := by
  rw [← asciiName?_toLower, same, asciiName?_toLower]

/-! ## Hosts and ports -/

/-- Characters that cannot stand in the middle of a name, because they end it or set something else
apart. -/
def delimitsName (c : Char) : Bool :=
  ['@', ':', '[', '\\', '/', '?', '#'].contains c || Text.isBlank c

def IsName (t : Text) : Prop := t ≠ [] ∧ ∀ c ∈ t, delimitsName c = false

theorem IsName.congr {s t : Text} (h : IsName s) (same : t.toLower = s.toLower) : IsName t := by
  have blind (c : Char) : delimitsName c.toLower = delimitsName c :=
    Text.toLower_invariant (by decide) c
  have small (t : Text) : IsName t.toLower ↔ IsName t := by
    simp only [IsName, Text.toLower, List.forall_mem_map, blind, ne_eq, List.map_eq_nil_iff]
  rw [← small, same, small]
  exact h

/-- The port that the scheme has anyway: left out, announced by its colon alone, or
written in at most five digits. -/
inductive SpellsDefault (scheme : Text) : Text → Prop where
  | absent : SpellsDefault scheme []
  | colon : SpellsDefault scheme [':']
  | written {digits : Text} (all : digits.all Char.isDigit = true) (short : digits.length ≤ 5)
      (default : defaultPort? scheme = some (Text.toNat 10 digits)) :
      SpellsDefault scheme (':' :: digits)

variable {scheme host port rest : Text}

private theorem SpellsDefault.mem (h : SpellsDefault scheme port) {c : Char} (hc : c ∈ port) :
    c = ':' ∨ c.isDigit = true := by
  cases h with
  | absent => simp at hc
  | colon => exact Or.inl (by simpa using hc)
  | written all => exact (List.mem_cons.mp hc).imp id (List.all_eq_true.mp all c)

private theorem SpellsDefault.forall_mem {P : Char → Prop} (h : SpellsDefault scheme port)
    (colon : P ':')
    (digit : ∀ n < 128, (Char.ofNat n).isDigit = true → P (Char.ofNat n)) : ∀ c ∈ port, P c := by
  intro c hc
  rcases h.mem hc with rfl | hd
  · exact colon
  · have hx : isHex c = true := by simp [isHex, hd]
    exact Text.of_ascii (P := fun c => c.isDigit = true → P c) digit
      (isPlain_ascii (isPlain_of_isHex hx)) hd

theorem SpellsDefault.readPort (h : SpellsDefault scheme port) :
    ∃ p, Authority.readPort port = some p ∧
      ∀ d ∈ p, defaultPort? scheme = some (Text.toNat 10 d) := by
  cases h with
  | absent => exact ⟨none, rfl, by simp⟩
  | colon => exact ⟨none, rfl, by simp⟩
  | @written digits all short default =>
    cases digits with
    | nil => exact ⟨none, rfl, by simp⟩
    | cons c r =>
      refine ⟨some (c :: r), ?_, ?_⟩
      · simp only [Authority.readPort, Authority.readDigits, List.isEmpty_cons, Bool.false_eq_true,
          if_false, all, short, decide_true, Bool.and_self, if_true]
      · rintro d ⟨⟩
        exact default

theorem defaultPort?_le {n : Nat} (h : defaultPort? scheme = some n) : n ≤ maxPort := by
  unfold defaultPort? at h
  repeat' split at h
  all_goals simp [maxPort] at h ⊢
  all_goals omega

private theorem forall_mem_host_port {P : Char → Prop} (hh : IsName host)
    (hp : SpellsDefault scheme port) (inside : ∀ c, delimitsName c = false → P c) (colon : P ':')
    (digit : ∀ n < 128, (Char.ofNat n).isDigit = true → P (Char.ofNat n)) :
    ∀ c ∈ host ++ port, P c := by
  intro c hc
  rcases List.mem_append.mp hc with hc | hc
  · exact inside c (hh.2 c hc)
  · exact hp.forall_mem colon digit c hc

private theorem read_name {p : Option Text} (hh : IsName host) (hp : SpellsDefault scheme port)
    (read : Authority.readPort port = some p) :
    Authority.read isUcs (host ++ port) = (Host.readName isUcs host).map (⟨none, ·, p⟩) := by
  have name {d : Char} (hd : delimitsName d = true) : ∀ c ∈ host, c ≠ d := by
    rintro c hc rfl
    simp [hh.2 c hc] at hd
  have clean : ∀ c ∈ host ++ port, c ≠ '@' ∧ c ≠ '\n' := by
    refine forall_mem_host_port hh hp (fun c inside => ?_) (by decide) (by decide)
    constructor
    · rintro rfl
      exact absurd inside (by decide)
    · rintro rfl
      exact absurd inside (by decide)
  have whole : Authority.dropLineFeed (host ++ port) = host ++ port := by
    refine if_neg fun hs => ?_
    exact (clean '\n' ((List.isSuffixOf_iff_suffix.mp hs).subset (by simp))).2 rfl
  have unsigned : (host ++ port).dropWhile (· ≠ '@') = [] := by
    rw [List.dropWhile_eq_nil_iff]
    exact fun c hc => decide_eq_true (clean c hc).1
  have run : ∀ c ∈ host, decide (c ≠ ':') = true :=
    fun c hc => decide_eq_true (name (by decide) c hc)
  have stop : ∀ c ∈ port.head?, decide (c ≠ ':') = false := by
    cases hp <;> simp
  have unbracketed : ∀ r, host ++ port ≠ '[' :: r := by
    intro r hr
    obtain ⟨c, t, rfl⟩ := List.exists_cons_of_ne_nil hh.1
    exact name (by decide) c List.mem_cons_self (List.cons.inj hr).1
  simp only [Authority.read, whole, unsigned]
  unfold Authority.readHostPort
  split
  · rename_i r hr
    exact absurd hr (unbracketed r)
  · rw [Text.takeWhile_append_stop run stop, Text.dropWhile_append_stop run stop, read]
    cases Host.readName isUcs host <;> rfl

theorem readAuthority_name {p : Option Text} (hh : IsName host) (hp : SpellsDefault scheme port)
    (read : Authority.readPort port = some p) (authority : Option Authority) :
    readAuthority ((some (host ++ port)).filter (!·.isEmpty)) = .ok authority ↔
      ∃ n, asciiName? host = some n ∧
        authority = if (⟨none, n, p⟩ : Authority).isVoid then none else some ⟨none, n, p⟩ := by
  have solid : (some (host ++ port)).filter (!·.isEmpty) = some (host ++ port) := by
    simp [hh.1]
  have form : (Authority.read isUcs (host ++ port)).bind Authority.toAscii? =
      (asciiName? host).map (⟨none, ·, p⟩) := by
    rw [read_name hh hp read, asciiName?]
    cases Host.readName isUcs host with
    | none => rfl
    | some h => cases ha : Authority.hostToAscii? h <;> simp [Authority.toAscii?, ha]
  rw [solid, readAuthority, form]
  cases asciiName? host with
  | none => simp
  | some n =>
    simp only [Option.map_some, Except.ok.injEq, Option.some.injEq, exists_eq_left']
    exact eq_comm

/-! ## What a spelling is read as -/

/-- The URI that all spellings stand for, but for the path that is written for an empty one. -/
def plainUri (scheme : Text) (name : Host) (rest : Text) : Uri where
  scheme := scheme
  authority := some ⟨none, name, none⟩
  path := removeDots (upperTriplets (encode (Reference.pathOf rest)))
  query := (Reference.queryOf rest).map (upperTriplets ∘ encode)
  fragment := (Reference.fragmentOf rest).map (upperTriplets ∘ encode)

section Port

variable {name : Host} {p : Option Text}
  (default : ∀ d ∈ p, defaultPort? scheme = some (Text.toNat 10 d))

include default

private theorem faults_default_port :
    ({ plainUri scheme name rest with authority := some ⟨none, name, p⟩ } : Uri).faults =
      (plainUri scheme name rest).faults := by
  have port : Part.port.fits
      { plainUri scheme name rest with authority := some ⟨none, name, p⟩ } = true := by
    cases p with
    | none => rfl
    | some d => simpa [Part.fits] using defaultPort?_le (default d rfl)
  have absent : Part.port.fits (plainUri scheme name rest) = true := rfl
  rw [faults, faults]
  refine List.filter_congr fun part _ => ?_
  cases part with
  | port => rw [port, absent]
  | fragment => rfl
  | path => rfl
  | query => rfl

private theorem ofUri_default_port :
    ofUri { plainUri scheme name rest with authority := some ⟨none, name, p⟩ } =
      ofUri (plainUri scheme name rest) := by
  cases p with
  | none => rfl
  | some d => simp [ofUri, plainUri, default d rfl]

end Port

/-- The same URI before normalization, with the port that was written. -/
def spelledUri (scheme : Text) (name : Host) (p : Option Text) (rest : Text) : Uri where
  scheme := scheme
  authority := some ⟨none, name, p⟩
  path := encode (Reference.pathOf rest)
  query := (Reference.queryOf rest).map encode
  fragment := (Reference.fragmentOf rest).map encode

private theorem normalize_spelledUri (scheme : Text) (n : Host) (p : Option Text) (r : Text) :
    (spelledUri scheme n p r).normalize =
      { plainUri scheme.toLower n.normalize r with authority := some ⟨none, n.normalize, p⟩ } := by
  simp [Uri.normalize, Authority.normalize, plainUri, spelledUri]

private theorem lacksHost_eq_false_iff (special : isSpecial scheme = true) {n : Host}
    {p : Option Text} {r : Text} :
    lacksHost { plainUri scheme n r with authority := some ⟨none, n, p⟩ } = false ↔
      n.text ≠ [] := by
  simp [lacksHost, plainUri, special]

private theorem isScheme_of_isSpecial (special : isSpecial scheme = true) :
    Reference.IsScheme scheme := by
  have known : scheme = "ws" ∨ scheme = "http" ∨ scheme = "wss" ∨ scheme = "https" ∨
      scheme = "ftp" := by
    simp only [isSpecial, defaultPort?, Bool.or_eq_true, decide_eq_true_eq] at special
    split at special
    · tauto
    · split at special
      · tauto
      · split at special
        · tauto
        · cases special
  rcases known with rfl | rfl | rfl | rfl | rfl
  all_goals exact ⟨List.all_eq_true.mp (by decide), by decide⟩

/-- A special scheme, a name with or without the port of the scheme, and what stands
behind them, between blanks. -/
structure IsSpelled (lead scheme host port rest trail : Text) : Prop where
  lead : ∀ c ∈ lead, Text.isBlank c = true
  special : isSpecial scheme.toLower = true
  host : IsName host
  port : SpellsDefault scheme.toLower port
  rest : ∀ c ∈ rest.head?, c = '/' ∨ c = '?' ∨ c = '#'
  trail : ∀ c ∈ trail, Text.isBlank c = true

namespace IsSpelled

variable {lead trail : Text} (h : IsSpelled lead scheme host port rest trail)

include h

private theorem isScheme : Reference.IsScheme scheme :=
  Reference.isScheme_toLower_iff.mp (isScheme_of_isSpecial h.special)

private theorem trim_eq :
    Text.trim (lead ++ (Reference.hierarchical scheme (host ++ port) rest ++ trail)) =
      Reference.hierarchical scheme (host ++ port) (rest.rdropWhile Text.isBlank) := by
  have glue : Reference.hierarchical scheme (host ++ port) rest ++ trail =
      Reference.hierarchical scheme (host ++ port) ([] ++ (rest ++ trail)) := by
    simp [Reference.hierarchical]
  have solid : ∀ c ∈ host ++ port, Text.isBlank c = false :=
    forall_mem_host_port h.host h.port (fun _ inside => (Bool.or_eq_false_iff.mp inside).2)
      (by decide) (by decide)
  have last : ∀ c ∈ (host ++ port ++ []).getLast?, Text.isBlank c = false := by
    intro c hc
    rw [List.append_nil] at hc
    exact solid c (List.mem_of_getLast? hc)
  rw [Text.trim, Text.trimBy_append_front h.lead, ← Text.trim, glue,
    trim_hierarchical h.isScheme last, Text.rdropWhile_append_gone h.trail, List.nil_append]

private theorem split_eq :
    Reference.split (Text.trim
      (lead ++ (Reference.hierarchical scheme (host ++ port) rest ++ trail))) =
      ⟨some scheme, (some (host ++ port)).filter (!·.isEmpty),
        (some (Reference.pathOf (rest.rdropWhile Text.isBlank))).filter (!·.isEmpty),
        Reference.queryOf (rest.rdropWhile Text.isBlank),
        Reference.fragmentOf (rest.rdropWhile Text.isBlank)⟩ := by
  have authority : ∀ c ∈ host ++ port, Reference.endsAuthority c = false := by
    refine forall_mem_host_port h.host h.port (fun c inside => ?_) (by decide) (by decide)
    have apart := (Bool.or_eq_false_iff.mp inside).1
    simp only [List.contains_cons, List.contains_nil, Bool.or_eq_false_iff,
      beq_eq_false_iff_ne] at apart
    simp [Reference.endsAuthority, apart]
  have behind : ∀ c ∈ (rest.rdropWhile Text.isBlank).head?, Reference.endsAuthority c = true := by
    intro c hc
    have first : c ∈ rest.head? := by
      obtain ⟨r, hr⟩ := List.rdropWhile_prefix Text.isBlank rest
      rw [← hr, List.head?_append]
      simp [Option.mem_def.mp hc]
    rcases h.rest c first with rfl | rfl | rfl <;> decide
  rw [h.trim_eq, Reference.split_hierarchical h.isScheme authority behind]

private theorem null_mem_iff :
    '\x00' ∈ lead ++ (Reference.hierarchical scheme (host ++ port) rest ++ trail) ↔
      '\x00' ∈ host ∨ '\x00' ∈ rest := by
  have blank {t : Text} (ht : ∀ c ∈ t, Text.isBlank c = true) : '\x00' ∉ t :=
    fun hm => absurd (ht _ hm) (by decide)
  have scheme : '\x00' ∉ scheme := h.isScheme.not_mem (by decide)
  have port : '\x00' ∉ port := fun hm =>
    h.port.forall_mem (P := fun c => c ≠ '\x00') (by decide) (by decide) _ hm rfl
  simp [Reference.hierarchical, blank h.lead, blank h.trail, scheme, port]

theorem parse_eq_ok_iff (u : Url) :
    parse (lead ++ (Reference.hierarchical scheme (host ++ port) rest ++ trail)) = .ok u ↔
      ('\x00' ∉ host ∧ '\x00' ∉ rest) ∧
      ∃ n, (asciiName? host).map Host.normalize = some n ∧ n.text ≠ [] ∧
        (plainUri scheme.toLower n (rest.rdropWhile Text.isBlank)).faults = [] ∧
        ofUri (plainUri scheme.toLower n (rest.rdropWhile Text.isBlank)) = u := by
  obtain ⟨p, read, default⟩ := h.port.readPort
  rw [Url.parse_eq_ok_iff, h.null_mem_iff, not_or, h.split_eq]
  refine and_congr_right fun _ => ?_
  simp only [ofReference_eq_ok_iff, Reference.getD_filter_nonempty,
    readAuthority_name h.host h.port read]
  generalize rest.rdropWhile Text.isBlank = r
  constructor
  · rintro ⟨⟨s, a, path, query, fragment⟩, ⟨hs, ⟨n, hn, ha⟩, hpath, hquery, hfragment⟩,
      sound, hosted, rfl⟩
    obtain ⟨rfl, rfl, rfl, rfl⟩ : scheme = s ∧ path = encode (Reference.pathOf r) ∧
        query = (Reference.queryOf r).map encode ∧ fragment = (Reference.fragmentOf r).map encode :=
      ⟨Option.some.inj hs, hpath, hquery, hfragment⟩
    by_cases void : (⟨none, n, p⟩ : Authority).isVoid = true
    -- A void authority is read as none, which no special scheme allows.
    · rw [if_pos void] at ha
      simp [lacksHost, Uri.normalize, show a = none from ha, h.special] at hosted
    · rw [if_neg void] at ha
      obtain rfl : a = some ⟨none, n, p⟩ := ha
      rw [← spelledUri, normalize_spelledUri] at sound hosted ⊢
      rw [faults_default_port default] at sound
      rw [ofUri_default_port default]
      exact ⟨n.normalize, by rw [hn, Option.map_some],
        (lacksHost_eq_false_iff h.special).mp hosted, sound, rfl⟩
  · rintro ⟨m, hm, named, sound, rfl⟩
    obtain ⟨n, hn, rfl⟩ := Option.map_eq_some_iff.mp hm
    have solid : ¬ (⟨none, n, p⟩ : Authority).isVoid = true := by
      intro void
      obtain ⟨-, hname, -⟩ := (Authority.isVoid_iff _).mp void
      obtain rfl : n = .name [] := hname
      exact named rfl
    refine ⟨spelledUri scheme n p r, ⟨rfl, ⟨n, hn, (if_neg solid).symm⟩, rfl, rfl, rfl⟩, ?_⟩
    rw [normalize_spelledUri, faults_default_port default, ofUri_default_port default]
    exact ⟨sound, (lacksHost_eq_false_iff h.special).mpr named, rfl⟩

end IsSpelled

/-! ## Respelling -/

/-- The texts that spell the reference of a scheme, a host and a rest: between blanks, with letters
of the scheme and the host in either case, with the port that the scheme has anyway, and with the
digits of triplets in either case where all percent signs of a part begin triplets. -/
inductive Respelling (scheme host rest : Text) : Text → Prop where
  | intro {lead scheme' host' port rest' trail : Text} (hlead : ∀ c ∈ lead, Text.isBlank c = true)
      (hscheme : scheme'.toLower = scheme.toLower) (hhost : host'.toLower = host.toLower)
      (hport : SpellsDefault scheme.toLower port) (hrest : RespelledRest rest rest')
      (htrail : ∀ c ∈ trail, Text.isBlank c = true) :
      Respelling scheme host rest
        (lead ++ (Reference.hierarchical scheme' (host' ++ port) rest' ++ trail))

private theorem null_mem_congr {s t : Text} (same : s.toLower = t.toLower) :
    '\x00' ∈ s ↔ '\x00' ∈ t := by
  have fixed (c : Char) : c.toLower = '\x00' ↔ c = '\x00' := Text.toLower_eq_iff (by decide) c
  have small (t : Text) : '\x00' ∈ t.toLower ↔ '\x00' ∈ t := by simp [Text.toLower, fixed]
  rw [← small, same, small]

private theorem plainUri_congr {rest' : Text} (h : RespelledRest rest rest') (scheme : Text)
    (name : Host) :
    plainUri scheme name (rest.rdropWhile Text.isBlank) =
      plainUri scheme name (rest'.rdropWhile Text.isBlank) := by
  obtain ⟨path, query, fragment⟩ := h.trim.normal_parts_eq
  rw [plainUri, plainUri, path, query, fragment]

/-- A reference of a scheme that needs a host spells itself, and all its spellings are
accepted as one URL or refused. -/
theorem parse_respelling (special : isSpecial scheme.toLower = true) (name : IsName host)
    (front : ∀ c ∈ rest.head?, c = '/' ∨ c = '?' ∨ c = '#') :
    Respelling scheme host rest (Reference.hierarchical scheme host rest) ∧
      ∀ t, Respelling scheme host rest t →
        ∀ u, parse (Reference.hierarchical scheme host rest) = .ok u ↔ parse t = .ok u := by
  have bare : Reference.hierarchical scheme host rest =
      [] ++ (Reference.hierarchical scheme (host ++ []) rest ++ []) := by simp
  have blank : ∀ c ∈ ([] : Text), Text.isBlank c = true := by simp
  constructor
  · rw [bare]
    exact .intro blank rfl rfl .absent (RespelledRest.refl front) blank
  · rintro t ⟨hlead, hscheme, hhost, hport, hrest, htrail⟩ u
    have plain : IsSpelled [] scheme host [] rest [] :=
      ⟨blank, special, name, .absent, front, blank⟩
    have spelled : IsSpelled _ _ _ _ _ _ :=
      ⟨hlead, hscheme ▸ special, name.congr hhost, hscheme ▸ hport, hrest.head.2, htrail⟩
    rw [bare, plain.parse_eq_ok_iff, spelled.parse_eq_ok_iff, null_mem_congr hhost,
      hrest.null_mem_iff, asciiName?_congr hhost, hscheme]
    simp only [plainUri_congr hrest]

theorem parse_respelling_of_capitals :
    let base : Text := Reference.hierarchical "wss" "aΣ.B" "/%C3?%zz"
    let t : Text := " Wss://AΣ.b:00443/%c3?%zz\n"
    Respelling "wss" "aΣ.B" "/%C3?%zz" t ∧
      ∃ u, parse base = .ok u ∧ parse t = .ok u ∧ u.text = "wss://xn--a-ymb.b/%C3?%25zz" := by
  have accepted : (parse (Reference.hierarchical "wss" "aΣ.B" "/%C3?%zz")).toOption.map text =
      some ("wss://xn--a-ymb.b/%C3?%25zz" : Text) := by decide +kernel
  have clean {f : Char → Bool} {t : Text} (h : t.any f = false) : ∀ c ∈ t, f c = false := by
    simpa using h
  have special : isSpecial (Text.toLower "wss") = true := by decide
  have name : IsName "aΣ.B" := ⟨by decide, clean (by rfl)⟩
  have front : ∀ c ∈ List.head? ("/%C3?%zz" : Text), c = '/' ∨ c = '?' ∨ c = '#' := by simp
  have respelled : Respelling "wss" "aΣ.B" "/%C3?%zz" " Wss://AΣ.b:00443/%c3?%zz\n" := by
    have lead : ∀ c ∈ (" " : Text), Text.isBlank c = true := List.all_eq_true.mp (by rfl)
    have scheme : Text.toLower "Wss" = Text.toLower "wss" := by rfl
    have host : Text.toLower "AΣ.b" = Text.toLower "aΣ.B" := by rfl
    have port : SpellsDefault (Text.toLower "wss") ":00443" := .written rfl (by decide) rfl
    have path : SameTriplets "/%C3" "/%c3" :=
      .char (by decide) (.triplet (by decide) (by decide) rfl rfl .nil)
    have parts : AreParts "/%C3" (some "%zz") := ⟨Or.inr rfl, clean (by rfl), by simp⟩
    have rest : RespelledRest "/%C3?%zz" "/%c3?%zz" :=
      .parts parts (Or.inr path) (.some (Or.inl rfl)) .none
    have trail : ∀ c ∈ ("\n" : Text), Text.isBlank c = true := List.all_eq_true.mp (by rfl)
    exact .intro lead scheme host port rest trail
  obtain ⟨-, same⟩ := parse_respelling special name front
  intro base t
  cases parsed : parse base with
  | error e =>
    rw [parsed] at accepted
    cases accepted
  | ok u =>
    rw [parsed] at accepted
    exact ⟨respelled, u, rfl, (same t respelled u).mp parsed, Option.some.inj accepted⟩

end GroupWire.Url
