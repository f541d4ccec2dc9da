import Mathlib
import GroupWire.Config
import GroupWire.Proofs.Config.Texts
import GroupWire.Proofs.Group.Growth
import GroupWire.Proofs.GroupId

/-! # Definitions of groups and the records they stand for

The records that a definition hands out are those that its texts make without it, one for one. -/

namespace GroupWire
open Outcome

/-! ## Records made of texts -/

/-- The outcome is this record, however it shows. -/
def Makes (x : Except Error Value) (r : Record) : Prop := ∃ shown, x = .ok (.record r shown)

theorem makes_role (name : Text) (description : Option Text) :
    Makes (Value.ofRole (.text name) (.ofOption description)) (.role ⟨name, description⟩) := by
  cases description <;> exact ⟨_, rfl⟩

theorem makes_admin {v : Value} {names : List Text} (k : PublicKey)
    (is : Expected.IsItems v (names.map .text)) :
    Makes (Value.ofAdmin (.key k) v) (.admin ⟨k, names⟩) := by
  have taken : Expected.text.takeAll "roles" v = .ok names := by
    rw [Expected.takeAll_of_isItems is, Expected.takeEach_eq_ok_iff, List.map_map]
    rfl
  have made : Admin.ofValues (.key k) v = .ok ⟨k, names⟩ :=
    bind_eq_ok_iff.mpr ⟨k, rfl, bind_eq_ok_iff.mpr ⟨names, taken, rfl⟩⟩
  exact ⟨_, bind_eq_ok_iff.mpr ⟨_, made, rfl⟩⟩

theorem Metadata.ofValues_own (m : Metadata) :
    Metadata.ofValues (.ofOption m.name) (.ofOption m.about) (m.picture.elim .null .ofUrl)
      (.word (.privacy m.privacy)) (.word (.access m.access)) = .ok m := by
  obtain ⟨name, about, picture, _, _⟩ := m
  cases name <;> cases about <;> cases picture <;> rfl

theorem Makes.exists_read {γ : Type} {x : Except Error Value} {r : Record} {read : Value → Option γ}
    {z : γ} (h : Makes x r)
    (reads : ∀ shown, read (.record r shown) = some z) : ∃ v, x = .ok v ∧ read v = some z := by
  obtain ⟨shown, made⟩ := h
  exact ⟨_, made, reads shown⟩

/-- Items that are made one by one make the record of them all. -/
theorem Listing.make_of_mapM {α γ ρ : Type} (l : Listing γ ρ) {f : α → Except Error Value}
    {Means : α → γ → Prop} (step : ∀ x z, Means x z → ∃ v, f x = .ok v ∧ l.expected.read v = some z)
    {xs : List α} {zs : List γ} (h : List.Forall₂ Means xs zs) :
    ∃ vs, xs.mapM f = .ok vs ∧ ∀ {v}, Expected.IsItems v vs → l.make v = .ok (l.ofItems zs) := by
  have items : ∃ vs, xs.mapM f = .ok vs ∧ vs.map l.expected.read = zs.map some := by
    simp only [mapM_eq_ok_iff]
    induction h with
    | nil => exact ⟨[], .nil, rfl⟩
    | cons first _ ih =>
      obtain ⟨v, made, read⟩ := step _ _ first
      obtain ⟨vs, rest, reads⟩ := ih
      exact ⟨v :: vs, .cons made rest, congrArg₂ List.cons read reads⟩
  obtain ⟨vs, made, reads⟩ := items
  refine ⟨vs, made, fun is => (l.make_eq_ok_iff is).mpr ?_⟩
  rw [l.items_ofItems, reads]

/-! ## What a definition hands out -/

namespace GroupConfig

variable (c : GroupConfig)

theorem toGroup_eq : c.toGroup = .ok c.group := by
  have checked : GroupId.check c.group.id = .ok ⟨c.group.id, c.group.valid⟩ :=
    GroupId.check_eq_ok ⟨_, c.group.valid⟩
  change ((GroupId.check c.group.id).map (GroupId.ofName c.group.relay)).mapError Error.id = _
  rw [checked]
  rfl

theorem toMetadata_eq : c.toMetadata = .ok c.metadata := c.metadata.ofValues_own

theorem toRoles_eq : c.toRoles = .ok c.roles := by
  have step (r s : Role) (same : r = s) :
      ∃ v, Value.ofRole (.text r.name) (.ofOption r.description) = .ok v ∧ v.role? = some s :=
    (makes_role r.name r.description).exists_read fun _ => congrArg some same
  obtain ⟨vs, made, whole⟩ := Listing.roles.make_of_mapM step (List.forall₂_same.mpr fun _ _ => rfl)
  rw [toRoles, made]
  exact whole (.stream vs)

theorem toAdmins_eq : c.toAdmins = .ok c.admins := by
  have step (a b : Admin) (same : a = b) :
      ∃ v, Value.ofAdmin (.key a.key) (.list (a.roles.map .text)) = .ok v ∧ v.admin? = some b :=
    (makes_admin a.key (.list _)).exists_read fun _ => congrArg some same
  obtain ⟨vs, made, whole⟩ :=
    Listing.admins.make_of_mapM step (List.forall₂_same.mpr fun _ _ => rfl)
  rw [toAdmins, made]
  exact whole (.stream vs)

theorem toMembers_eq : c.toMembers = .ok c.members := by
  apply (Listing.members.make_eq_ok_iff (.list _)).mpr
  rw [List.map_map]
  rfl

end GroupConfig

namespace Config

/-! ## The same records without the definition

Each is made of the texts that are there; what is missing is left to the record's own default. -/

/-- The fields of metadata that are given, by their names. -/
def metadataFields (name about picture privacy access : Option Value) : List (Text × Value) :=
  let fields : List (Text × Option Value) :=
    [("name", name), ("about", about), ("picture", picture), ("privacy", privacy),
      ("closed", access)]
  fields.filterMap fun f => f.2.map fun v => (f.1, v)

def makePicture (o : Option Text) : Except Error Value :=
  o.elim (.ok .null) fun t => Value.makeUrl (.text t)

def makePrivacy (t : Text) : Except Error Value :=
  (Privacy.parseValue (.text t)).map fun p => .word (.privacy p)

def makeAccess (t : Text) : Except Error Value :=
  (Access.parseValue (.text t)).map fun a => .word (.access a)

def MetadataTexts.make (w : MetadataTexts) : Except Error Value := do
  let picture ← w.picture.mapM makePicture
  let privacy ← w.privacy.mapM makePrivacy
  let access ← w.access.mapM makeAccess
  Value.makeMetadata (metadataFields (w.name.map .ofOption) (w.about.map .ofOption) picture
    privacy access)

def RoleTexts.make (w : RoleTexts) : Except Error Value :=
  Value.makeRole (.text w.name :: (w.description.map Value.ofOption).toList)

def AdminTexts.make (w : AdminTexts) : Except Error Value := do
  let k ← Value.ofKeyText w.key
  Value.makeAdmin (k :: (w.roles.map fun names => Value.list (names.map .text)).toList)

namespace GroupTexts

def makeGroup (w : GroupTexts) : Except Error Value := do
  let relay ← Value.makeUrl (.text w.relay)
  Value.makeGroup relay (.text w.id)

def makeMetadata (w : GroupTexts) : Except Error Value :=
  w.metadata.elim (Value.makeMetadata []) MetadataTexts.make

def makeRoles (w : GroupTexts) : Except Error Value := do
  let items ← (w.roles.getD []).mapM RoleTexts.make
  Value.makeRoles (.list items)

def makeAdmins (w : GroupTexts) : Except Error Value := do
  let items ← (w.admins.getD []).mapM AdminTexts.make
  Value.makeAdmins (.list items)

def makeMembers (w : GroupTexts) : Except Error Value := do
  let items ← (w.members.getD []).mapM Value.ofKeyText
  Value.makeMembers (.list items)

end GroupTexts

theorem RoleTexts.Means.makes {w : RoleTexts} {r : Role} (h : w.Means r) :
    Makes w.make (.role r) := by
  have same : r = ⟨w.name, w.description.join⟩ := by rw [← h.name.1, ← h.description]
  rw [same]
  rcases w with ⟨name, _ | description⟩
  · exact makes_role name none
  · exact makes_role name description

theorem AdminTexts.Means.makes {w : AdminTexts} {a : Admin} (h : w.Means a) :
    Makes w.make (.admin a) := by
  have same : a = ⟨a.key, w.roles.getD []⟩ := by rw [← h.roles]
  have read : Value.ofKeyText w.key = .ok (.key a.key) := by rw [Value.ofKeyText, h.key]
  rw [same, make, read]
  rcases w with ⟨_, _ | names⟩
  · exact makes_admin a.key (.tuple ([].map .text))
  · exact makes_admin a.key (.list (names.map .text))

/-- Metadata take what is given and their own defaults for the rest. -/
theorem makeMetadata_fields (name about picture privacy access : Option Value) :
    ∃ shown, Value.makeMetadata (metadataFields name about picture privacy access) =
      Metadata.ofValues (name.getD .null) (about.getD .null) (picture.getD .null)
        (privacy.getD (.word (.privacy .anyone))) (access.getD (.word (.access .opened))) >>=
          fun m => .ok (.record (.metadata m) shown) := by
  cases name <;> cases about <;> cases picture <;> cases privacy <;> cases access <;> exact ⟨_, rfl⟩

theorem makeUrl_of_parse {t : Text} {u : Url} (parsed : Url.parse t = .ok u) :
    Value.makeUrl (.text t) = .ok (.ofUrl u) := by
  change ((Url.parse t).mapError Error.url).map Value.ofUrl = _
  rw [parsed]
  rfl

theorem makePicture_of_rel {o : Option Text} {u : Option Url}
    (h : Option.Rel (fun t u => Url.parse t = .ok u) o u) :
    makePicture o = .ok (u.elim .null .ofUrl) := by
  cases h with
  | none => rfl
  | some parsed => exact makeUrl_of_parse parsed

theorem makePrivacy_of_parse {t : Text} {p : Privacy} (parsed : Privacy.parse? t = some p) :
    makePrivacy t = .ok (.word (.privacy p)) := by
  change (((Privacy.parse? t).map Except.ok).getD (.error (Error.privacy t))).map
    (fun p => Value.word (.privacy p)) = _
  rw [parsed]
  rfl

theorem makeAccess_of_parse {t : Text} {a : Access} (parsed : Access.parse? t = some a) :
    makeAccess t = .ok (.word (.access a)) := by
  change (((Access.parse? t).map Except.ok).getD (.error (Error.access t))).map
    (fun a => Value.word (.access a)) = _
  rw [parsed]
  rfl

/-- An argument is made of what is written if it is, and is the default otherwise. -/
theorem exists_argument {α ω : Type} {Means : ω → α → Prop} (make : ω → Except Error Value)
    (value : α → Value) (made : ∀ w x, Means w x → make w = .ok (value x)) {d x : α} {o : Option ω}
    (h : MeansOr d Means o x) : ∃ v, o.mapM make = .ok v ∧ v.getD (value d) = value x := by
  cases o with
  | none => exact ⟨none, rfl, congrArg value h.symm⟩
  | some w =>
    refine ⟨some (value x), ?_, rfl⟩
    change (make w).map some = _
    rw [made w x h]
    rfl

theorem MetadataTexts.Means.makes {w : MetadataTexts} {m : Metadata} (h : w.Means m) :
    Makes w.make (.metadata m) := by
  have texts (o : Option (Option Text)) : (o.map Value.ofOption).getD .null = .ofOption o.join := by
    rcases o with _ | _ | t <;> rfl
  have picture :
      ∃ v, w.picture.mapM makePicture = .ok v ∧ v.getD .null = m.picture.elim .null .ofUrl :=
    exists_argument makePicture (fun u => u.elim .null .ofUrl)
      (fun _ _ => makePicture_of_rel) h.picture
  have privacy : ∃ v, w.privacy.mapM makePrivacy = .ok v ∧
      v.getD (.word (.privacy .anyone)) = .word (.privacy m.privacy) :=
    exists_argument makePrivacy (fun p => .word (.privacy p))
      (fun _ _ => makePrivacy_of_parse) h.privacy
  have access : ∃ v, w.access.mapM makeAccess = .ok v ∧
      v.getD (.word (.access .opened)) = .word (.access m.access) :=
    exists_argument makeAccess (fun a => .word (.access a))
      (fun _ _ => makeAccess_of_parse) h.access
  obtain ⟨u, madePicture, atPicture⟩ := picture
  obtain ⟨p, madePrivacy, atPrivacy⟩ := privacy
  obtain ⟨a, madeAccess, atAccess⟩ := access
  obtain ⟨shown, made⟩ := makeMetadata_fields (w.name.map .ofOption) (w.about.map .ofOption) u p a
  rw [texts, texts, ← h.name, ← h.about, atPicture, atPrivacy, atAccess, m.ofValues_own] at made
  rw [make, madePicture, madePrivacy, madeAccess]
  exact ⟨shown, made⟩

theorem GroupTexts.Means.makesGroup {w : GroupTexts} {c : GroupConfig} (h : w.Means c) :
    Makes w.makeGroup (.group c.group) := by
  have made : GroupId.ofValues (.ofUrl c.group.relay) (.text w.id) = .ok c.group := by
    change ((GroupId.check w.id).map (GroupId.ofName c.group.relay)).mapError Error.id = _
    rw [h.id]
    rfl
  exact ⟨_, bind_eq_ok_iff.mpr ⟨_, makeUrl_of_parse h.relay, bind_eq_ok_iff.mpr ⟨_, made, rfl⟩⟩⟩

theorem GroupTexts.Means.makesMetadata {w : GroupTexts} {c : GroupConfig} (h : w.Means c) :
    Makes w.makeMetadata (.metadata c.metadata) := by
  have hm := h.metadata
  rw [makeMetadata]
  cases hw : w.metadata with
  | none =>
    rw [hw] at hm
    rw [show c.metadata = .blank from hm]
    exact ⟨_, rfl⟩
  | some m =>
    rw [hw] at hm
    exact MetadataTexts.Means.makes hm

theorem GroupTexts.Means.makesRoles {w : GroupTexts} {c : GroupConfig} (h : w.Means c) :
    Makes w.makeRoles (.roles c.roles) := by
  have step (w : RoleTexts) (r : Role) (means : w.Means r) :
      ∃ v, w.make = .ok v ∧ v.role? = some r :=
    means.makes.exists_read fun _ => rfl
  obtain ⟨vs, items, whole⟩ := Listing.roles.make_of_mapM step h.roles
  exact ⟨_, bind_eq_ok_iff.mpr ⟨vs, items, bind_eq_ok_iff.mpr ⟨_, whole (.list vs), rfl⟩⟩⟩

theorem GroupTexts.Means.makesAdmins {w : GroupTexts} {c : GroupConfig} (h : w.Means c) :
    Makes w.makeAdmins (.admins c.admins) := by
  have step (w : AdminTexts) (a : Admin) (means : w.Means a) :
      ∃ v, w.make = .ok v ∧ v.admin? = some a :=
    means.makes.exists_read fun _ => rfl
  obtain ⟨vs, items, whole⟩ := Listing.admins.make_of_mapM step h.admins
  exact ⟨_, bind_eq_ok_iff.mpr ⟨vs, items, bind_eq_ok_iff.mpr ⟨_, whole (.list vs), rfl⟩⟩⟩

theorem GroupTexts.Means.makesMembers {w : GroupTexts} {c : GroupConfig} (h : w.Means c) :
    Makes w.makeMembers (.members c.members) := by
  have step (t : Text) (k : PublicKey) (parsed : PublicKey.parse? t = some k) :
      ∃ v, Value.ofKeyText t = .ok v ∧ v.key? = some k :=
    ⟨.key k, by rw [Value.ofKeyText, parsed], rfl⟩
  obtain ⟨vs, items, whole⟩ := Listing.members.make_of_mapM step h.members
  exact ⟨_, bind_eq_ok_iff.mpr ⟨vs, items, bind_eq_ok_iff.mpr ⟨_, whole (.list vs), rfl⟩⟩⟩

/-! ## Both ways agree -/

/-- What is handed out is what the texts make, in their order and with their repeats. -/
structure GroupTexts.Agrees (w : GroupTexts) (c : GroupConfig) : Prop where
  group : ∃ g, c.toGroup = .ok g ∧ Makes w.makeGroup (.group g)
  metadata : ∃ m, c.toMetadata = .ok m ∧ Makes w.makeMetadata (.metadata m)
  roles : ∃ rs, c.toRoles = .ok rs ∧ Makes w.makeRoles (.roles rs) ∧
    List.Forall₂ RoleTexts.Means (w.roles.getD []) rs.items
  admins : ∃ as, c.toAdmins = .ok as ∧ Makes w.makeAdmins (.admins as) ∧
    List.Forall₂ AdminTexts.Means (w.admins.getD []) as.items
  members : ∃ ms, c.toMembers = .ok ms ∧ Makes w.makeMembers (.members ms) ∧
    List.Forall₂ (fun t k => PublicKey.parse? t = some k) (w.members.getD []) ms.items

theorem GroupTexts.Means.agrees {w : GroupTexts} {c : GroupConfig} (h : w.Means c) :
    w.Agrees c where
  group := ⟨_, c.toGroup_eq, h.makesGroup⟩
  metadata := ⟨_, c.toMetadata_eq, h.makesMetadata⟩
  roles := ⟨_, c.toRoles_eq, h.makesRoles, h.roles⟩
  admins := ⟨_, c.toAdmins_eq, h.makesAdmins, h.admins⟩
  members := ⟨_, c.toMembers_eq, h.makesMembers, h.members⟩

/-- A definition is read exactly if its texts have no fault, and hands out what they make. -/
theorem readGroup_agrees {v : Value} {w : GroupTexts} (is : IsDict HasGroup v w) :
    ((∃ c, readGroup v = .ok c) ↔ w.IsSound) ∧ ∀ c, readGroup v = .ok c → w.Agrees c := by
  constructor
  · rw [← GroupTexts.exists_means_iff]
    exact exists_congr (reads_group is)
  · intro c read
    exact ((reads_group is c).mp read).agrees

/-- Keys in any order, one of them unknown, and a member named twice. -/
theorem readGroup_agrees_of_repeats :
    let key : Text := "a0a1a2a3a4a5a6a7a8a9aaabacadaeafb0b1b2b3b4b5b6b7b8b9babbbcbdbebf"
    let v : Value :=
      .dict [(.text "id", .text "rust-devs"), (.text "relay_url", .text "WSS://Relay.Example:443"),
      (.text "metadata", .dict [(.text "about", .null), (.text "closed", .text "Closed")]),
      (.text "roles", .list [.dict [(.text "rank", .int 1), (.text "name", .text "admin")]]),
      (.text "members", .list [.text key, .text key])]
    let w : GroupTexts :=
      ⟨"WSS://Relay.Example:443", "rust-devs", some ⟨none, some none, none, none, some "Closed"⟩,
      some [⟨"admin", none⟩], none, some [key, key]⟩
    IsDict HasGroup v w ∧ ∃ c, readGroup v = .ok c ∧ w.Agrees c := by
  intro key v w
  have metadata : HasMetadata [(.text "about", .null), (.text "closed", .text "Closed")]
      ⟨none, some none, none, none, some "Closed"⟩ := {
    name := .there (by decide) (.there (by decide) .nowhere)
    about := .here .null
    picture := .there (by decide) (.there (by decide) .nowhere)
    privacy := .there (by decide) (.there (by decide) .nowhere)
    access := .there (by decide) (.here (.text "Closed")) }
  have role : HasRole [(.text "rank", .int 1), (.text "name", .text "admin")] ⟨"admin", none⟩ := {
    name := .there (by decide) (.here (.text "admin"))
    description := .there (by decide) (.there (by decide) .nowhere) }
  have is : IsDict HasGroup v w := .dict {
    relay := .there (by decide) (.here (.text _))
    id := .here (.text _)
    metadata := .there (by decide) <| .there (by decide) <| .here (.dict metadata)
    roles := .there (by decide) <| .there (by decide) <| .there (by decide) <|
      .here (.list (.cons (.dict role) .nil))
    admins := .there (by decide) <| .there (by decide) <| .there (by decide) <|
      .there (by decide) <| .there (by decide) .nowhere
    members := .there (by decide) <| .there (by decide) <| .there (by decide) <|
      .there (by decide) <| .here (.list (.cons (.text key) (.cons (.text key) .nil))) }
  have parsed : ∃ k, PublicKey.parse? key = some k := ⟨_, by rfl⟩
  have sound : w.IsSound := {
    relay := ⟨_, by rfl⟩
    id := ⟨_, by rfl⟩
    metadata := by
      rintro m ⟨⟩
      exact ⟨by rintro _ ⟨⟩, by rintro _ ⟨⟩, by rintro _ ⟨⟩; exact ⟨.closed, by decide⟩⟩
    roles := by simp [w]
    admins := by simp [w]
    members := by simpa [w] using parsed }
  obtain ⟨accepted, agrees⟩ := readGroup_agrees is
  obtain ⟨c, read⟩ := accepted.mpr sound
  exact ⟨is, c, read, agrees c read⟩

end Config
end GroupWire
