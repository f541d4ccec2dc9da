import GroupWire.Proofs.Uri
import GroupWire.Proofs.Uri.Triplets

/-! # Authorities read anew

A reference keeps its authority as a text. Whoever works on references has to read that text at
every step: to bring it to ASCII, to normalize it, to check its parts, to take the host and the port
from it. Once it has been read in ASCII none of these readings can fail, and each finds the parts
that the one before has found. -/

namespace GroupWire.Uri

/-- All that is checked of a URI in the end, in the order of the names. -/
inductive Component | fragment | host | path | port | query | scheme | userinfo
  deriving DecidableEq

namespace Component

def all : List Component := [fragment, host, path, port, query, scheme, userinfo]

def name : Component → Text
  | fragment => "fragment"
  | host => "host"
  | path => "path"
  | port => "port"
  | query => "query"
  | scheme => "scheme"
  | userinfo => "userinfo"

end Component

def Part.component : Part → Component
  | fragment => .fragment
  | path => .path
  | port => .port
  | query => .query

/-- A host of a URI; its zone has to be set off by an encoded percent sign. -/
def Host.fits : Host → Bool
  | name t => wellEncoded isNameChar t && quadInRange t
  | six a none => isSix a
  | six a (some z) => isSix a && ['2', '5'].isPrefixOf z && isZone (z.drop 2)
  | future t => isFuture t

namespace Reference

/-- The authority as the text stands now, `none` if the text is no authority. -/
def reread (extra : Char → Bool) (r : Reference) : Option (Option Authority) :=
  match r.authority with
  | none => some none
  | some t => (Authority.read extra t).map some

/-- The authority as it is read without characters of other scripts. -/
abbrev rereadAscii (r : Reference) : Option (Option Authority) := r.reread fun _ => false

/-- A part that is written down again, an empty one being absent. -/
def written (part : Option Text) : Option Text := part.filter (!·.isEmpty)

def authorityToAscii? (r : Reference) : Option (Option Authority) := do
  (← r.reread isUcs).mapM Authority.toAscii?

/-- Read in any script, written in ASCII, and read once more. -/
def toAscii? (r : Reference) : Option Reference := do
  let a ← r.authorityToAscii?
  let ascii := { r with
    authority := written (a.map Authority.text), path := written (r.path.map encode),
    query := r.query.map encode, fragment := r.fragment.map encode }
  return (← ascii.rereadAscii.map fun _ => ascii)

def normalize? (r : Reference) : Option Reference := do
  let a ← r.rereadAscii
  return {
    scheme := r.scheme.map Text.toLower
    authority := written ((a.map Authority.normalize).map Authority.text)
    path := written (some (removeDots (upperTriplets (r.path.getD []))))
    query := r.query.map upperTriplets
    fragment := r.fragment.map upperTriplets }

def toUri? (r : Reference) : Option Uri := do
  return ⟨← r.scheme, ← r.rereadAscii, r.path.getD [], r.query, r.fragment⟩

def fits (r : Reference) : Component → Bool
  | .fragment => r.fragment.all (wellEncoded isQueryChar)
  | .host => r.rereadAscii.any fun a => a.all (·.host.fits)
  | .path => r.path.all (wellEncoded isPathChar)
  | .port => r.rereadAscii.any fun a => (a.bind (·.port)).all fun p => Text.toNat 10 p ≤ maxPort
  | .query => r.query.all (wellEncoded isQueryChar)
  | .scheme => r.scheme.all fun s => s.all isSchemeChar && s.head?.any Char.isAlpha
  | .userinfo => r.rereadAscii.isSome

def misfits (r : Reference) : List Component := Component.all.filter fun c => !r.fits c

end Reference

/-! ## What normalization keeps of an authority -/

/-- The same host in small letters; a zone may get the encoded percent sign that sets it off. -/
inductive Host.Keeps : Host → Host → Prop where
  | name (t : Text) : Keeps (.name t) (.name t.toLower)
  | six (a : Text) : Keeps (.six a none) (.six a.toLower none)
  | zone (a z : Text) : Keeps (.six a (some z)) (.six a.toLower (some z))
  | bareZone (a z : Text) : Keeps (.six a (some z)) (.six a.toLower (some ('2' :: '5' :: z)))
  | future (t : Text) : Keeps (.future t) (.future t.toLower)

/-- The same port as it is written, the same userinfo but for the case of its
triplets' digits, and the same host. -/
structure Authority.Keeps (a b : Authority) : Prop where
  port : a.port = b.port
  userinfo : Option.Rel SameTriplets a.userinfo b.userinfo
  host : a.host.Keeps b.host

theorem Host.keeps_normalize (h : Host) : h.Keeps h.normalize := by
  cases h with
  | name t => exact .name t
  | future t => exact .future t
  | six a zone =>
    cases zone with
    | none => exact .six a
    | some z =>
      rw [Host.normalize, Option.map_some]
      unfold normalZone
      split
      · exact .zone a _
      · exact .bareZone a z

theorem Authority.IsAscii.keeps_normalize {a : Authority} (ascii : a.IsAscii) :
    a.Keeps a.normalize := by
  have userinfo : Option.Rel SameTriplets a.userinfo (a.userinfo.map upperTriplets) := by
    cases hu : a.userinfo with
    | none => exact .none
    | some i => exact .some (.of_encoded (ascii.userinfo i hu).2)
  exact ⟨rfl, userinfo, a.host.keeps_normalize⟩

/-! ## URIs in ASCII -/

structure IsAscii (u : Uri) : Prop where
  scheme : Reference.IsScheme u.scheme
  authority : ∀ a ∈ u.authority, a.IsAscii ∧ a.isVoid = false

theorem isAscii_of_ofReference {t : Text} {u : Uri} (h : ofReference (.split t) = .ok u) :
    u.IsAscii := by
  obtain ⟨hscheme, hauthority, -⟩ := ofReference_eq_ok_iff.mp h
  exact ⟨Reference.isScheme_of_split hscheme, fun a ha => (readAuthority_eq_ok hauthority a ha).2⟩

theorem IsAscii.normalize {u : Uri} (h : u.IsAscii) : u.normalize.IsAscii := by
  refine ⟨h.scheme.toLower, fun a ha => ?_⟩
  obtain ⟨b, hb, rfl⟩ := Option.map_eq_some_iff.mp ha
  obtain ⟨ascii, hv⟩ := h.authority b hb
  exact ⟨ascii.normalize.isAscii, (Authority.isVoid_normalize b).trans hv⟩

theorem IsAscii.isNormal_normalize {u : Uri} (h : u.IsAscii) :
    ∀ a ∈ u.normalize.authority, a.IsNormal := by
  intro a ha
  obtain ⟨b, hb, rfl⟩ := Option.map_eq_some_iff.mp ha
  exact (h.authority b hb).1.normalize

theorem IsAscii.keeps_normalize {u : Uri} (h : u.IsAscii) :
    Option.Rel Authority.Keeps u.authority u.normalize.authority := by
  rw [Uri.normalize]
  cases ha : u.authority with
  | none => exact .none
  | some a => exact .some (h.authority a ha).1.keeps_normalize

section Reread

variable {u : Uri} {r : Reference}

/-- Only a void authority leaves no text. -/
theorem written_text (authority : Option Authority) :
    Reference.written (authority.map Authority.text) =
      (authority.filter (!·.isVoid)).map Authority.text := by
  cases authority with
  | none => rfl
  | some a =>
    cases hv : a.isVoid with
    | false =>
      have ne := text_ne_nil_of_not_isVoid hv
      simp [Reference.written, Option.filter_some, hv, ne]
    | true =>
      obtain ⟨hu, hh, hp⟩ := (Authority.isVoid_iff a).mp hv
      have bare : a.text = [] := by simp [Authority.text, Host.text, hu, hh, hp]
      simp [Reference.written, Option.filter_some, hv, bare]

theorem written_text_of_solid {authority : Option Authority}
    (solid : ∀ a ∈ authority, a.isVoid = false) :
    Reference.written (authority.map Authority.text) = authority.map Authority.text := by
  rw [written_text]
  cases authority with
  | none => rfl
  | some a => simp [Option.filter_some, solid a rfl]

/-- The text of an authority in ASCII is read as that authority. -/
theorem rereadAscii_toReference (h : u.IsAscii) : u.toReference.rereadAscii = some u.authority := by
  cases hu : u.authority with
  | none => simp [Reference.rereadAscii, Reference.reread, toReference, hu]
  | some a =>
    have read : Authority.read (fun _ => false) a.text = some a :=
      Authority.read_text rfl (h.authority a hu).1
    simp [Reference.rereadAscii, Reference.reread, toReference, hu, read]

theorem readAuthority_eq (r : Reference) : readAuthority r.authority =
    match r.authorityToAscii? with
    | none => .error .badAuthority
    | some a => .ok (a.filter (!·.isVoid)) := by
  rw [Reference.authorityToAscii?, Reference.reread]
  cases r.authority with
  | none => rfl
  | some t =>
    cases hr : Authority.read isUcs t with
    | none => simp [readAuthority, hr]
    | some a =>
      cases ha : a.toAscii? with
      | none => simp [readAuthority, hr, ha]
      | some b => cases hv : b.isVoid <;> simp [readAuthority, hr, ha, hv, Option.filter_some]

theorem toAscii?_of_ok (h : ofReference r = .ok u) (ascii : u.IsAscii) :
    r.toAscii? = some u.toReference := by
  obtain ⟨hscheme, hauthority, hpath, hquery, hfragment⟩ := ofReference_eq_ok_iff.mp h
  rw [readAuthority_eq] at hauthority
  rw [Reference.toAscii?]
  cases ha : r.authorityToAscii? with
  | none => simp [ha] at hauthority
  | some a =>
    have solid : a.filter (!·.isVoid) = u.authority := by simpa [ha] using hauthority
    have path : Reference.written (r.path.map encode) = (some u.path).filter (!·.isEmpty) := by
      rw [hpath]
      cases r.path <;> rfl
    simp only [Option.bind_eq_bind, Option.bind_some, written_text, solid, path, ← hquery,
      ← hfragment, hscheme]
    rw [← toReference, rereadAscii_toReference ascii]
    rfl

theorem toAscii?_of_badAuthority (h : ofReference r = .error .badAuthority) :
    r.toAscii? = none := by
  obtain ⟨-, bad⟩ := ofReference_eq_badAuthority_iff.mp h
  rw [readAuthority_eq] at bad
  rw [Reference.toAscii?]
  cases ha : r.authorityToAscii? with
  | none => rfl
  | some a => simp [ha] at bad

theorem normalize?_toReference (ascii : u.IsAscii) :
    u.toReference.normalize? = some u.normalize.toReference := by
  have solid : ∀ a ∈ u.normalize.authority, a.isVoid = false :=
    fun a ha => (ascii.normalize.authority a ha).2
  have authority : Reference.written ((u.authority.map Authority.normalize).map Authority.text) =
      u.normalize.authority.map Authority.text := written_text_of_solid solid
  rw [Reference.normalize?, rereadAscii_toReference ascii]
  simp only [Option.bind_eq_bind, Option.bind_some, authority]
  simp only [toReference, Reference.getD_filter_nonempty]
  rfl

theorem toUri?_toReference (ascii : u.IsAscii) : u.toReference.toUri? = some u := by
  rw [Reference.toUri?, rereadAscii_toReference ascii]
  simp [toReference, Reference.getD_filter_nonempty]

/-! ## The parts that are checked -/

theorem Host.fits_of_isNormal {h : Host} (hn : h.IsNormal) : h.fits = true := by
  cases h with
  | name t =>
    obtain ⟨henc, hquad, -⟩ := hn
    have wide : wellEncoded isNameChar t = true := (encoded_iff (by decide)).mp henc
    rw [Host.fits, wide, hquad, Bool.and_self]
  | six a zone =>
    obtain ⟨hsix, -, hzone⟩ := hn
    cases zone with
    | none => exact hsix
    | some z =>
      obtain ⟨hz, same⟩ := hzone z rfl
      obtain ⟨c, r, rfl⟩ := zone_shape same
      have rest : isZone (c :: r) = true := by
        rw [isZone, Bool.and_eq_true] at hz ⊢
        exact ⟨rfl, hz.2⟩
      simp [Host.fits, show isSix a = true from hsix, rest]
  | future t => exact hn.1

theorem fits_component (ascii : u.IsAscii) (p : Part) :
    u.toReference.fits p.component = p.fits u := by
  cases p with
  | fragment => rfl
  | path =>
    cases hp : u.path <;> simp [Part.component, Reference.fits, Part.fits, toReference,
      hp, wellEncoded]
  | port => simp [Part.component, Reference.fits, Part.fits, rereadAscii_toReference ascii]
  | query => rfl

theorem fits_scheme (h : Reference.IsScheme u.scheme) : u.toReference.fits .scheme = true := by
  have chars : u.scheme.all isSchemeChar = true := List.all_eq_true.mpr h.1
  rw [Reference.fits, toReference, Option.all_some, chars, h.2, Bool.and_self]

theorem fits_host (ascii : u.IsAscii) (normal : ∀ a ∈ u.authority, a.IsNormal) :
    u.toReference.fits .host = true := by
  rw [Reference.fits, rereadAscii_toReference ascii, Option.any_some]
  cases ha : u.authority with
  | none => rfl
  | some a => exact Host.fits_of_isNormal (normal a ha).host

/-- Of all that is checked, only what the four parts say can be wrong. -/
theorem misfits_toReference (ascii : u.IsAscii) (normal : ∀ a ∈ u.authority, a.IsNormal) :
    u.toReference.misfits = u.faults.map Part.component := by
  have userinfo : u.toReference.fits .userinfo = true := by
    rw [Reference.fits, rereadAscii_toReference ascii]
    rfl
  have parts : u.toReference.misfits =
      ([Part.fragment, .path, .port, .query].map Part.component).filter fun c =>
        !u.toReference.fits c := by
    simp [Reference.misfits, Component.all, Part.component, List.filter_cons, userinfo,
      fits_scheme ascii.scheme, fits_host ascii normal]
  rw [parts, List.filter_map, faults]
  simp only [Function.comp_def, fits_component ascii]

end Reread

end GroupWire.Uri
