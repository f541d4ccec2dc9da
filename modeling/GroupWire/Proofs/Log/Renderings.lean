import Mathlib
import GroupWire.Log.Logger
import GroupWire.Proofs.Log.Json
import GroupWire.Proofs.Log.Pairs
import GroupWire.Proofs.Outcome

/-! # One call, two lines

A logger writes a call as a line of pairs or as one JSON object. The line keeps the fields apart
from level, name and message, but cuts their texts. The object keeps every text whole, but a field
with the name of one of its own members takes that member's place. So the two tell the same exactly
if no field has such a name and no text is cut. -/

namespace GroupWire.Log

/-! ## Fields set over others -/

section Overlay

variable {α : Type} {base more : List (Text × α)} {key : Text}

/-- Fields whose names are known replace what has the name, in its place; the others follow. -/
def overlay (base more : List (Text × α)) : List (Text × α) :=
  (base.map fun f => (f.1, (more.lookup f.1).getD f.2)) ++ more.filter fun f =>
    f.1 ∉ base.map Prod.fst

theorem lookup_eq_none_of_not_mem (new : key ∉ more.map Prod.fst) : more.lookup key = none := by
  rw [List.lookup_eq_none_iff]
  intro f hf
  simpa using fun same : key = f.1 => new (same ▸ List.mem_map_of_mem hf)

theorem lookup_overlay {a : α} (known : base.lookup key = some a) (more : List (Text × α)) :
    (overlay base more).lookup key = some ((more.lookup key).getD a) := by
  have first : (base.map fun f => (f.1, (more.lookup f.1).getD f.2)).lookup key =
      some ((more.lookup key).getD a) := by
    induction base with
    | nil => cases known
    | cons f base ih =>
      rw [List.lookup_cons] at known
      rw [List.map_cons, List.lookup_cons]
      cases same : key == f.1 with
      | true =>
        obtain rfl : f.2 = a := by simpa [same] using known
        rw [eq_of_beq same]
      | false => exact ih (by simpa [same] using known)
  rw [overlay, List.lookup_append, first]
  rfl

/-- Without the names that were known before, only what was set over them is left. -/
theorem filter_overlay (base more : List (Text × α)) :
    (overlay base more).filter (fun f => f.1 ∉ base.map Prod.fst) =
      more.filter fun f => f.1 ∉ base.map Prod.fst := by
  have own : (base.map fun f => (f.1, (more.lookup f.1).getD f.2)).filter
      (fun f => f.1 ∉ base.map Prod.fst) = [] := by
    rw [List.filter_eq_nil_iff, List.forall_mem_map]
    intro f hf
    simpa using ⟨f.2, hf⟩
  rw [overlay, List.filter_append, own, List.nil_append, List.filter_filter]
  simp only [Bool.and_self]

end Overlay

namespace Logger

section SetFields

variable {base more : List (Text × Value)} {key : Text}

theorem overlay_setField_of_mem (known : key ∈ base.map Prod.fst) (gone : more.lookup key = none)
    (v : Value) : overlay (setField base key v) more = overlay base ((key, v) :: more) := by
  have found : base.any (·.1 = key) = true := by simpa using known
  have keys : (base.map fun f => if f.1 = key then (key, v) else f).map Prod.fst =
      base.map Prod.fst := by
    rw [List.map_map]
    refine List.map_congr_left fun f _ => ?_
    by_cases same : f.1 = key <;> simp [same]
  rw [setField, if_pos found, overlay, overlay, keys, List.map_map,
    List.filter_cons_of_neg (by simpa using known)]
  refine congrArg (· ++ _) (List.map_congr_left fun f _ => ?_)
  by_cases same : f.1 = key
  · simp [same, gone]
  · have other : (f.1 == key) = false := by simpa using same
    simp [same, other, List.lookup_cons]

theorem overlay_setField_of_not_mem (unknown : key ∉ base.map Prod.fst)
    (new : key ∉ more.map Prod.fst) (v : Value) :
    overlay (setField base key v) more = overlay base ((key, v) :: more) := by
  have missing : ¬ base.any (·.1 = key) = true := by simpa using unknown
  have before : ∀ f ∈ base, (f.1, (more.lookup f.1).getD f.2) =
      (f.1, (((key, v) :: more).lookup f.1).getD f.2) := fun f hf => by
    have other : (f.1 == key) = false := by
      simpa using fun same : f.1 = key => unknown (List.mem_map.mpr ⟨f, hf, same⟩)
    rw [List.lookup_cons, other]
  have after : ∀ f ∈ more, decide (f.1 ∉ (base ++ [(key, v)]).map Prod.fst) =
      decide (f.1 ∉ base.map Prod.fst) :=
    fun f hf => by
      have other : f.1 ≠ key := fun same => new (List.mem_map.mpr ⟨f, hf, same⟩)
      simp [other]
  rw [setField, if_neg missing, overlay, overlay, List.map_append, List.append_assoc,
    List.map_congr_left before, List.filter_congr after,
    List.filter_cons_of_pos (by simpa using unknown)]
  simp [lookup_eq_none_of_not_mem new]

/-- Setting one field is the same as having it stand before the others. -/
theorem overlay_setField (new : key ∉ more.map Prod.fst) (base : List (Text × Value)) (v : Value) :
    overlay (setField base key v) more = overlay base ((key, v) :: more) := by
  by_cases known : key ∈ base.map Prod.fst
  · exact overlay_setField_of_mem known (lookup_eq_none_of_not_mem new) v
  · exact overlay_setField_of_not_mem known new v

theorem setFields_eq_overlay (base : List (Text × Value)) (distinct : (more.map Prod.fst).Nodup) :
    setFields base more = overlay base more := by
  -- A field that is set becomes one of the base for those after it, so the base varies.
  induction more generalizing base with
  | nil => simp [setFields, overlay]
  | cons g more ih =>
    obtain ⟨once, later⟩ := List.nodup_cons.mp distinct
    have step : setFields base (g :: more) = setFields (setField base g.1 g.2) more := rfl
    rw [step, ih _ later, overlay_setField once]

end SetFields

end Logger

/-! ## Objects whose fields are texts -/

def textFields (texts : List (Text × Text)) : List (Text × Value) :=
  texts.map fun f => (f.1, .text f.2)

section TextFields

variable {texts : List (Text × Text)}

theorem keys_textFields (texts : List (Text × Text)) :
    (textFields texts).map Prod.fst = texts.map Prod.fst := by
  rw [textFields, List.map_map]
  rfl

theorem lookup_textFields (key : Text) (texts : List (Text × Text)) :
    (textFields texts).lookup key = (texts.lookup key).map Value.text := by
  induction texts with
  | nil => rfl
  | cons f texts ih =>
    have step : textFields (f :: texts) = (f.1, .text f.2) :: textFields texts := rfl
    rw [step, List.lookup_cons, List.lookup_cons, ih]
    split <;> rfl

theorem overlay_textFields (own texts : List (Text × Text)) :
    overlay (textFields own) (textFields texts) = textFields (overlay own texts) := by
  have replaced (f : Text × Text) : (f.1, ((textFields texts).lookup f.1).getD (Value.text f.2)) =
      (f.1, Value.text ((texts.lookup f.1).getD f.2)) := by
    rw [lookup_textFields]
    cases texts.lookup f.1 <;> rfl
  rw [overlay, overlay, keys_textFields]
  simp only [textFields, List.map_append, List.map_map, List.filter_map] at replaced ⊢
  exact congrArg (· ++ _) (List.map_congr_left fun f _ => replaced f)

/-- The members that every object has. -/
def ownMembers (time : Moment) (level name message : Text) : List (Text × Text) :=
  [("timestamp", time.text), ("level", level), ("service", name), ("message", message)]

def ownNames : List Text := ["timestamp", "level", "service", "message"]

theorem keys_ownMembers (time : Moment) (level name message : Text) :
    (ownMembers time level name message).map Prod.fst = ownNames := rfl

theorem Logger.jsonText_textFields (l : Logger) (time : Moment) (level message : Text)
    (distinct : (texts.map Prod.fst).Nodup) :
    l.jsonText time level message (textFields texts) =
      .ok (Json.object ((overlay (ownMembers time level l.name message) texts).map fun m =>
        (m.1, Json.string m.2))) := by
  have merged :
      Logger.setFields (textFields (ownMembers time level l.name message)) (textFields texts) =
      textFields (overlay (ownMembers time level l.name message) texts) := by
    rw [Logger.setFields_eq_overlay _ (by rwa [keys_textFields]), overlay_textFields]
  have written (ms : List (Text × Text)) : ((textFields ms).mapM fun f => do
      let t ← Json.value f.2
      .ok (f.1, t)) =
      (.ok (ms.map fun m => (m.1, Json.string m.2)) : Except Error (List (Text × Text))) := by
    rw [Outcome.mapM_eq_ok_iff, textFields, List.forall₂_map_left_iff, List.forall₂_map_right_iff]
    exact List.forall₂_same.mpr fun _ _ => rfl
  exact Outcome.bind_eq_ok_iff.mpr ⟨_, (congrArg (List.mapM _) merged).trans (written _), rfl⟩

end TextFields

/-- Level, name and message have members of their own, and what is no such member is a field. -/
def lineOfObject? (t : Text) : Option Line := do
  let members ← Json.readObject t
  let level ← members.lookup ("level" : Text)
  let name ← members.lookup ("service" : Text)
  let message ← members.lookup ("message" : Text)
  some ⟨level, name, message, members.filter fun f => f.1 ∉ ownNames⟩

theorem lineOfObject?_overlay (time : Moment) (level name message : Text)
    (texts : List (Text × Text)) :
    lineOfObject? (Json.object ((overlay (ownMembers time level name message) texts).map fun m =>
        (m.1, Json.string m.2))) =
      some ⟨(texts.lookup ("level" : Text)).getD level, (texts.lookup ("service" : Text)).getD name,
        (texts.lookup ("message" : Text)).getD message, texts.filter fun f => f.1 ∉ ownNames⟩ := by
  have fields := filter_overlay (ownMembers time level name message) texts
  rw [keys_ownMembers] at fields
  have own (key : Text) {t : Text}
      (known : (ownMembers time level name message).lookup key = some t) :
      (overlay (ownMembers time level name message) texts).lookup key =
        some ((texts.lookup key).getD t) :=
    lookup_overlay known texts
  rw [lineOfObject?, Json.readObject_object]
  simp only [Option.bind_eq_bind, Option.bind_some, own "level" rfl, own "service" rfl,
    own "message" rfl, fields]

/-! ## The two lines of a call -/

/-- The line with every text as it is. -/
def Line.whole (l : Line) : Text :=
  Text.join " " [l.level, l.name, l.message] ++ pairs none " " l.fields

/-- The fields as far as a line shows them. -/
def Line.shown (l : Line) : Line :=
  { l with fields := l.fields.map (Log.shown (some defaultBound)) }

theorem Line.text_eq_whole (l : Line) : l.text = l.shown.whole :=
  congrArg (Text.join " " [l.level, l.name, l.message] ++ ·)
    (pairs_eq_pairs_shown (some defaultBound) " " l.fields)

/-- The same is told of a call, in whatever order its fields stand. -/
structure Line.Agrees (a b : Line) : Prop where
  level : a.level = b.level
  name : a.name = b.name
  message : a.message = b.message
  fields : ∀ f, f ∈ a.fields ↔ f ∈ b.fields

namespace Logger

section Call

variable {texts : List (Text × Text)}

/-- What the object of a call tells. -/
def objectLine (l : Logger) (m : Method) (message : Text) (texts : List (Text × Text)) : Line :=
  ⟨(texts.lookup ("level" : Text)).getD m.level, (texts.lookup ("service" : Text)).getD l.name,
    (texts.lookup ("message" : Text)).getD message, texts.filter fun f => f.1 ∉ ownNames⟩

theorem find?_ownArguments (free : ∀ f ∈ texts, f.1 ∉ ownArguments) :
    (textFields texts).find? (fun f => ownArguments.contains f.1) = none := by
  simpa [textFields] using free

theorem emit_pairs (l : Logger) (plain : l.json = false) (time : Moment) (m : Method)
    (message : Text) (free : ∀ f ∈ texts, f.1 ∉ ownArguments) :
    l.emit time m message (textFields texts) =
      .ok ⟨m, message, (l.line m message texts).shown.whole⟩ := by
  have plains : (textFields texts).map (fun f => (f.1, f.2.plain)) = texts := by
    rw [textFields, List.map_map]
    exact List.map_id texts
  rw [emit, find?_ownArguments free, plains, ← Line.text_eq_whole]
  simp [plain]

theorem emit_object (l : Logger) (json : l.json = true) (time : Moment) (m : Method)
    (message : Text) (distinct : (texts.map Prod.fst).Nodup)
    (free : ∀ f ∈ texts, f.1 ∉ ownArguments) :
    ∃ j, l.emit time m message (textFields texts) = .ok j ∧
      lineOfObject? j.message = some (l.objectLine m message texts) := by
  have made : l.emit time m message (textFields texts) =
      (l.jsonText time m.level message (textFields texts)).bind fun t =>
        .ok ⟨m, t, Line.text ⟨m.level, l.name, t, []⟩⟩ := by
    rw [emit, find?_ownArguments free]
    exact if_pos json
  rw [jsonText_textFields l time m.level message distinct] at made
  exact ⟨_, made, lineOfObject?_overlay time m.level l.name message texts⟩

/-- A text as the line of a call shows it. -/
def shownText (l : Logger) (t : Text) : Text := cut (some defaultBound) (cut (some l.bound) t)

/-- What the line of a call tells. -/
def pairsLine (l : Logger) (m : Method) (message : Text) (texts : List (Text × Text)) : Line :=
  ⟨m.level, l.name, message, texts.map fun f => (f.1, l.shownText f.2)⟩

theorem objectLine_agrees_iff (l : Logger) (m : Method) (message : Text)
    (distinct : (texts.map Prod.fst).Nodup) :
    (l.objectLine m message texts).Agrees (l.pairsLine m message texts) ↔
      ∀ f ∈ texts, f.1 ∉ ownNames ∧ l.shownText f.2 = f.2 := by
  constructor
  · rintro ⟨-, -, -, fields⟩ f hf
    have read := (fields _).mpr (List.mem_map_of_mem hf)
    obtain ⟨also, other⟩ := List.mem_filter.mp read
    have same : (f.1, l.shownText f.2) = f := List.inj_on_of_nodup_map distinct also hf rfl
    exact ⟨by simpa using other, congrArg Prod.snd same⟩
  · intro whole
    have absent (name : Text) (own : name ∈ ownNames) : texts.lookup name = none := by
      refine lookup_eq_none_of_not_mem fun taken => ?_
      obtain ⟨f, hf, rfl⟩ := List.mem_map.mp taken
      exact (whole f hf).1 own
    have kept : texts.filter (fun f => f.1 ∉ ownNames) = texts :=
      List.filter_eq_self.mpr fun f hf => by simpa using (whole f hf).1
    have uncut : (texts.map fun f => (f.1, l.shownText f.2)) = texts := by
      nth_rewrite 2 [← List.map_id texts]
      exact List.map_congr_left fun f hf => Prod.ext rfl (whole f hf).2
    rw [objectLine, pairsLine, absent _ (by decide), absent _ (by decide),
      absent _ (by decide), kept, uncut]
    exact ⟨rfl, rfl, rfl, fun _ => Iff.rfl⟩

theorem emit_both (l : Logger) (time : Moment) (m : Method) (message : Text)
    (distinct : (texts.map Prod.fst).Nodup) (free : ∀ f ∈ texts, f.1 ∉ ownArguments) :
    ∃ p j, { l with json := false }.emit time m message (textFields texts) = .ok p ∧
      { l with json := true }.emit time m message (textFields texts) = .ok j ∧
      p.line = (l.pairsLine m message texts).whole ∧
      lineOfObject? j.message = some (l.objectLine m message texts) := by
  obtain ⟨j, made, read⟩ := emit_object { l with json := true } rfl time m message distinct free
  have shows : (l.line m message texts).shown = l.pairsLine m message texts := by
    rw [Line.shown, line, List.map_map]
    rfl
  exact ⟨_, j, emit_pairs { l with json := false } rfl time m message free, made,
    congrArg Line.whole shows, read⟩

/-- A logger of pairs and one of objects with the same name and bound write the same call. The line
tells level, name and message as they are, and every text as far as it shows. The object is read
back with a field in the place of the member whose name it has, and every other field whole. So the
two tell the same exactly if no field has the name of a member and every text shows whole. -/
theorem renderings_agree_iff (l : Logger) (time : Moment) (m : Method) (message : Text)
    (distinct : (texts.map Prod.fst).Nodup) (free : ∀ f ∈ texts, f.1 ∉ ownArguments) :
    ∃ p j, { l with json := false }.emit time m message (textFields texts) = .ok p ∧
      { l with json := true }.emit time m message (textFields texts) = .ok j ∧
      p.line = (l.pairsLine m message texts).whole ∧
      lineOfObject? j.message = some (l.objectLine m message texts) ∧
      ((l.objectLine m message texts).Agrees (l.pairsLine m message texts) ↔
        ∀ f ∈ texts, f.1 ∉ ownNames ∧ l.shownText f.2 = f.2) := by
  obtain ⟨p, j, pairs, object, line, read⟩ := emit_both l time m message distinct free
  exact ⟨p, j, pairs, object, line, read, objectLine_agrees_iff l m message distinct⟩

/-- Signs and characters beyond the basic plane are told alike, however each line writes them. -/
theorem renderings_agree_of_signs :
    let l := make "app" false (some 20)
    let time : Moment := ⟨⟨2024, 1, 2⟩, 3, 4, 5, 678901, some 0⟩
    let texts : List (Text × Text) := [("group", "wss://h'x"), ("note", "a=\"\n\u2603😀")]
    (texts.map Prod.fst).Nodup ∧ (∀ f ∈ texts, f.1 ∉ ownArguments) ∧
      ∃ p j, l.emit time .info "loaded" (textFields texts) = .ok p ∧
        { l with json := true }.emit time .info "loaded" (textFields texts) = .ok j ∧
        p.line = "info app loaded group=\"wss://h'x\" note=\"a=\\\"\n\u2603😀\"" ∧
        lineOfObject? j.message = some ⟨"info", "app", "loaded", texts⟩ ∧
        Line.Agrees ⟨"info", "app", "loaded", texts⟩ (l.pairsLine .info "loaded" texts) := by
  intro l time texts
  have distinct : (texts.map Prod.fst).Nodup := by decide
  have free : ∀ f ∈ texts, f.1 ∉ ownArguments := by decide
  obtain ⟨p, j, pairs, object, line, read, agrees⟩ :=
    renderings_agree_iff l time .info "loaded" distinct free
  exact ⟨distinct, free, p, j, pairs, object, line.trans (by decide), read, agrees.mpr (by decide)⟩

/-- A field named like the level takes its place in the object, and a text that the
line cuts stands there whole. -/
theorem field_takes_place_of_level :
    let time : Moment := ⟨⟨2024, 1, 2⟩, 3, 4, 5, 678901, some 0⟩
    let taken : List (Text × Text) := [("level", "x")]
    let long : List (Text × Text) := [("k", "abcd")]
    (∃ p j, (make "app" false none).emit time .info "m" (textFields taken) = .ok p ∧
      (make "app" true none).emit time .info "m" (textFields taken) = .ok j ∧
      p.line = "info app m level=x" ∧ lineOfObject? j.message = some ⟨"x", "app", "m", []⟩ ∧
      ¬ Line.Agrees ⟨"x", "app", "m", []⟩ ⟨"info", "app", "m", taken⟩) ∧
    ∃ p j, (make "app" false (some 3)).emit time .info "m" (textFields long) = .ok p ∧
      (make "app" true (some 3)).emit time .info "m" (textFields long) = .ok j ∧
      p.line = "info app m k=\"abc...<truncated 1 chars>\"" ∧
      lineOfObject? j.message = some ⟨"info", "app", "m", long⟩ ∧
      ¬ Line.Agrees ⟨"info", "app", "m", long⟩
        ⟨"info", "app", "m", [("k", "abc...<truncated 1 chars>")]⟩ := by
  intro time taken long
  constructor
  · obtain ⟨p, j, pairs, object, line, read⟩ :=
      emit_both (make "app" false none) time .info "m"
        (by decide : (taken.map Prod.fst).Nodup) (by decide)
    exact ⟨p, j, pairs, object, line.trans (by decide), read,
      fun same => absurd same.level (by decide)⟩
  · obtain ⟨p, j, pairs, object, line, read⟩ :=
      emit_both (make "app" false (some 3)) time .info "m"
        (by decide : (long.map Prod.fst).Nodup) (by decide)
    refine ⟨p, j, pairs, object, line.trans (by decide), read, fun same => ?_⟩
    exact absurd ((same.fields ("k", "abcd")).mp List.mem_cons_self) (by decide)

end Call

end Logger

end GroupWire.Log
