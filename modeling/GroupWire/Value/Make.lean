import GroupWire.Value.Expected
import GroupWire.Value.Shown

/-! Records from values that nothing has checked: the checks in their order, and the
text that shows the result. -/
namespace GroupWire

namespace Value

def shownRecord (name : Text) (fields : List (Text × Text)) : Text :=
  name ++ between "(" ")" (fields.map fun f => f.1 ++ '=' :: f.2)

def shownItems (v : Value) : Text := tupleText (literals (v.items?.getD []))

def ofOption (t : Option Text) : Value := t.elim .null .text

def role (r : Role) : Value :=
  .record (.role r)
    (shownRecord "Role" [("name", r.name.quoted),
      ("description", literal (ofOption r.description))])

def admin (a : Admin) : Value :=
  .record (.admin a)
    (shownRecord "GroupAdmin"
      [("public_key", keyText a.key), ("roles", tupleText (a.roles.map Text.quoted))])

end Value

def Url.ofValue (v : Value) : Except Error Url := do
  let raw ← Expected.text.take "raw_url" v
  (Url.parse raw).mapError .url

def GroupId.ofValues (relay id : Value) : Except Error GroupId := do
  let u ← Expected.url.take "relay_url" relay
  let t ← Expected.text.take "id" id
  (GroupId.make u t).mapError .id

def GroupId.parseValue (v : Value) : Except Error GroupId := do
  let t ← Expected.text.take "value" v
  (GroupId.parse t).mapError .identifier

def Privacy.parseValue (v : Value) : Except Error Privacy := do
  let t ← Expected.text.take "privacy" v
  ((Privacy.parse? t).map .ok).getD (.error (.privacy t))

def Access.parseValue (v : Value) : Except Error Access := do
  let t ← Expected.text.take "closed" v
  ((Access.parse? t).map .ok).getD (.error (.access t))

def Role.ofValues (name description : Value) : Except Error Role := do
  let n ← Expected.text.take "name" name
  let d ← Expected.text.takeOptional "description" description
  .ok ⟨n, d⟩

def Roles.ofValue (items : Value) : Except Error Roles :=
  (Expected.role.takeAll "roles" items).map .mk

/-- A record with one more item is made anew from all its items. -/
def Roles.add (rs : Roles) (item : Value) : Except Error Roles :=
  Roles.ofValue (.tuple (rs.items.map .role ++ [item]))

def Admin.ofValues (key roles : Value) : Except Error Admin := do
  let k ← Expected.key.take "public_key" key
  let rs ← Expected.text.takeAll "roles" roles
  .ok ⟨k, rs⟩

def Admins.ofValue (items : Value) : Except Error Admins :=
  (Expected.admin.takeAll "admins" items).map .mk

def Admins.add (as : Admins) (item : Value) : Except Error Admins :=
  Admins.ofValue (.tuple (as.items.map .admin ++ [item]))

def Members.ofValue (items : Value) : Except Error Members :=
  (Expected.key.takeAll "members" items).map .mk

def Members.add (ms : Members) (item : Value) : Except Error Members :=
  Members.ofValue (.tuple (ms.items.map .key ++ [item]))

def Metadata.ofValues (name about picture privacy closed : Value) : Except Error Metadata := do
  let n ← Expected.text.takeOptional "name" name
  let a ← Expected.text.takeOptional "about" about
  let p ← Expected.url.takeOptional "picture" picture
  let r ← Expected.privacy.take "privacy" privacy
  let c ← Expected.access.take "closed" closed
  .ok ⟨n, a, p, r, c⟩

namespace Value

def ofUrl (u : Url) : Value :=
  .record (.url u) (shownRecord "Url"
    [("url", u.text.quoted), ("scheme", u.scheme.quoted), ("host", literal (ofOption u.host)),
      ("port", literal (u.port.elim .null fun p => .int p)), ("path", u.path.quoted)])

def makeUrl (v : Value) : Except Error Value := (Url.ofValue v).map ofUrl

def makeGroup (relay id : Value) : Except Error Value := do
  let g ← GroupId.ofValues relay id
  .ok (.record (.group g)
    (shownRecord "GroupId" [("relay_url", relay.literal), ("id", id.literal)]))

def ofRole (name description : Value) : Except Error Value := do
  let r ← Role.ofValues name description
  .ok (.record (.role r)
    (shownRecord "Role" [("name", name.literal), ("description", description.literal)]))

def makeRole : List Value → Except Error Value
  | [] => .error (.missingField "Role" "name")
  | [name] => ofRole name .null
  | [name, description] => ofRole name description
  | vs => .error (.tooManyFields "Role" 3 (vs.length + 1))

def ofAdmin (k roles : Value) : Except Error Value := do
  let a ← Admin.ofValues k roles
  .ok (.record (.admin a)
    (shownRecord "GroupAdmin" [("public_key", k.literal), ("roles", shownItems roles)]))

def makeAdmin : List Value → Except Error Value
  | [] => .error (.missingField "GroupAdmin" "public_key")
  | [k] => ofAdmin k (.tuple [])
  | [k, roles] => ofAdmin k roles
  | vs => .error (.tooManyFields "GroupAdmin" 3 (vs.length + 1))

def makeRoles (items : Value) : Except Error Value := do
  let rs ← Roles.ofValue items
  .ok (.record (.roles rs) (shownRecord "GroupRoles" [("roles", shownItems items)]))

def makeAdmins (items : Value) : Except Error Value := do
  let as ← Admins.ofValue items
  .ok (.record (.admins as) (shownRecord "GroupAdmins" [("admins", shownItems items)]))

def makeMembers (items : Value) : Except Error Value := do
  let ms ← Members.ofValue items
  .ok (.record (.members ms) (shownRecord "GroupMembers" [("members", shownItems items)]))

/-- The fields of metadata with the values they take when nothing is said of them. -/
def metadataDefaults : List (Text × Value) :=
  [("name", .null), ("about", .null), ("picture", .null), ("privacy", .word (.privacy .anyone)),
    ("closed", .word (.access .opened))]

def makeMetadata (fields : List (Text × Value)) : Except Error Value :=
  match fields.find? fun f => !(metadataDefaults.any fun d => d.1 = f.1) with
  | some f => .error (.unknownField "GroupMetadata" f.1)
  | none => do
    let given (name : Text) : Value :=
      ((fields ++ metadataDefaults).find? fun f => f.1 = name).elim .null Prod.snd
    let m ← Metadata.ofValues (given "name") (given "about") (given "picture") (given "privacy")
      (given "closed")
    .ok (.record (.metadata m)
      (shownRecord "GroupMetadata" (metadataDefaults.map fun d => (d.1, (given d.1).literal))))

def ofKindCode (n : Int) : Except Error Value :=
  if 0 ≤ n && n ≤ 65535 then .ok (.kind n.toNat.toUInt16) else .error .kindCode

def ofKeyText (t : Text) : Except Error Value :=
  match PublicKey.parse? t with
  | some k => .ok (.key k)
  | none => .error .publicKey

def ofEventText (t : Text) : Except Error Value :=
  match EventId.parse? t with
  | some e => .ok (.event e)
  | none => .error .eventId

/-- The number of a kind, if it can be one. Truth values are no kinds. -/
def kindCode? : Value → Except Error (Option Int)
  | .kind code => .ok (some code.toNat)
  | .bool _ => .ok none
  | v =>
    match v.int? with
    | some n => .ok (some n)
    | none => .error (.notKind v.shape)

end Value

end GroupWire
