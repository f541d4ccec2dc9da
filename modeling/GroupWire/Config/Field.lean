import GroupWire.Config.Issue
import GroupWire.Error
import GroupWire.Text.Utf8
import GroupWire.Value.Compare

/-! Fields of a definition, read from plain data: texts and bytes for texts, lists of any form for
lists, and texts for whatever is written as one. -/
namespace GroupWire.Config
open Checked

def readText (v : Value) : Checked Text :=
  match v.text?, v with
  | some t, _ => .ok t
  | none, .bytes bs => ((Text.ofUtf8? bs).map .ok).getD (fail .notUnicode)
  | none, _ => fail .notText

def orNull {α : Type} (read : Value → Checked α) : Value → Checked (Option α)
  | .null => .ok none
  | v => (read v).map some

def readName (v : Value) : Checked Text := do
  let t ← readText v
  if t.isEmpty then fail .tooShort else .ok t

def listItems : Value → Checked (List Value)
  | .list items => .ok items
  | .tuple items => .ok items
  | .set items => .ok items
  | .stream items => .ok items
  | _ => fail .notList

def readList {α : Type} (read : Value → Checked α) (v : Value) : Checked (List α) := do
  let items ← listItems v
  each read 0 items

def ofText {α ε : Type} (say : ε → Text) (x : Except ε α) : Checked α :=
  match x with
  | .ok a => .ok a
  | .error e => fail (.invalid (say e))

def readUrl (v : Value) : Checked Url :=
  match v.text?, v.url? with
  | some t, _ => ofText UrlError.message (Url.parse t)
  | none, some u => .ok u
  | none, none => fail (.notInstance .url)

def parseKey (t : Text) : Checked PublicKey :=
  match PublicKey.parse? t with
  | some k => .ok k
  | none => fail (.invalid ("Invalid public key: " ++ t))

def readKey (v : Value) : Checked PublicKey :=
  match v.text?, v.key? with
  | some t, _ => parseKey t
  | none, some k => .ok k
  | none, none => fail (.notInstance .key)

/-- Bytes name a word only as it is written. -/
def exactWord? (voc : Vocabulary) : Value → Option Word
  | .bytes bs => (Text.ofUtf8? bs).bind fun t => voc.words.find? (·.token? = some t)
  | _ => none

def readPrivacy (v : Value) : Checked Privacy :=
  match v.text?, exactWord? .privacy v with
  | some t, _ => ((Privacy.parse? t).map .ok).getD (fail (.invalid (Error.privacyMessage t)))
  | none, some (.privacy p) => .ok p
  | none, _ => fail (.notWord .privacy)

def readAccess (v : Value) : Checked Access :=
  match v.text?, exactWord? .access v with
  | some t, _ => ((Access.parse? t).map .ok).getD (fail (.invalid (Error.accessMessage t)))
  | none, some (.access a) => .ok a
  | none, _ => fail (.notWord .access)

def readId (v : Value) : Checked GroupId.Name := do
  let t ← readText v
  ofText IdError.message (GroupId.check t)

def readKeyOnly (v : Value) : Checked PublicKey :=
  match v.key? with
  | some k => .ok k
  | none => fail (.notInstance .key)

/-- Keys written as texts are read before anything else, and the first that is
none hides what else is wrong. -/
def readMembers (v : Value) : Checked (List PublicKey) :=
  match v with
  | .list items => do
    let _ ← (items.filterMap Value.text?).mapM parseKey
    each readKey 0 items
  | v => readList readKeyOnly v

/-- A field by its name; without a default it has to be there. -/
def field {α : Type} (entries : List (Value × Value)) (name : Text) (read : Value → Checked α)
    (default : Option α) : Checked α :=
  match Value.find? entries (.text name), default with
  | some v, _ => inside (.field name) (read v)
  | none, some d => .ok d
  | none, none => inside (.field name) (fail .missing)

def entriesOf (m : Model) : Value → Checked (List (Value × Value))
  | .dict entries => .ok entries
  | _ => fail (.notModel m)

end GroupWire.Config
