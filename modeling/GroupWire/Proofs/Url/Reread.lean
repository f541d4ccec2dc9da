import GroupWire.Proofs.Uri.Reread
import GroupWire.Url

/-! # URLs read from texts at every step

A URL can be read with nothing but texts handed from one step to the next. Then an authority might
fail to be read where nobody expects it, and such a failure would come with no message. It never
does: once the authority has been checked in ASCII the later steps understand it and find its parts
again, so the result is that of `parse`. -/

namespace GroupWire.Url

open Uri

/-- A failure comes with a message, except for that of reading an authority that has been checked
before. -/
inductive Failure
  | value (message : Text)
  | unreadable
  deriving DecidableEq

def componentsMessage (r : Reference) (components : List Component) : Text :=
  let names := components.map Component.name
  let verb : Text := if names.length > 1 then "were" else "was"
  let summary := Text.join ", " names ++ " " ++ verb ++ " found to be invalid"
  "(" ++ Text.join ", " [summary.quoted, r.shown, UrlError.listed names] ++ ")"

/-- The text, its scheme and its authority pass the checks that come first, and
`ascii` is what they leave. -/
structure Passes (raw : Text) (ascii : Reference) : Prop where
  null : '\x00' ∉ raw
  scheme : (Reference.split raw.trim).scheme ≠ none
  authority : (Reference.split raw.trim).toAscii? = some ascii

def parseNormal (raw : Text) (normal : Reference) : Except Failure Url :=
  if normal.misfits ≠ [] then
    .error (.value (UrlError.invalid raw (componentsMessage normal normal.misfits)))
  else match normal.toUri? with
    | none => .error .unreadable
    | some uri =>
      if lacksHost uri then .error (.value (UrlError.noHost raw).message) else .ok (ofUri uri)

def parseByText (raw : Text) : Except Failure Url :=
  if raw.contains '\x00' then .error (.value UrlError.nullCharacter.message)
  else if (Reference.split raw.trim).scheme.isNone then
    .error (.value (UrlError.relative raw).message)
  else match (Reference.split raw.trim).toAscii? with
    | none => .error (.value (UrlError.authority raw).message)
    | some ascii =>
      match ascii.normalize? with
      | none => .error .unreadable
      | some normal => parseNormal raw normal

section Agreement

variable {raw : Text} {uri : Uri}

theorem componentsMessage_eq (faults : List Part) :
    componentsMessage uri.toReference (faults.map Part.component) =
      UrlError.partsMessage uri faults := by
  have names : (faults.map Part.component).map Component.name = faults.map Part.name := by
    rw [List.map_map]
    apply List.map_congr_left
    intro p _
    cases p <;> rfl
  rw [componentsMessage, names]
  rfl

theorem parseNormal_toReference (ascii : uri.IsAscii) (normal : ∀ a ∈ uri.authority, a.IsNormal) :
    parseNormal raw uri.toReference =
      if uri.faults ≠ [] then .error (.value (UrlError.parts raw uri uri.faults).message)
      else if lacksHost uri then .error (.value (UrlError.noHost raw).message)
      else .ok (ofUri uri) := by
  have misfits := misfits_toReference ascii normal
  by_cases sound : uri.faults = []
  · have fitting : uri.toReference.misfits = [] := by rw [misfits, sound, List.map_nil]
    rw [parseNormal, if_neg (not_not.mpr fitting), if_neg (not_not.mpr sound),
      toUri?_toReference ascii]
  · have unfit : uri.toReference.misfits ≠ [] := by simpa [misfits] using sound
    rw [parseNormal, if_pos unfit, if_pos sound, misfits, componentsMessage_eq]
    rfl

/-- What passes the first checks is a URI, written down as a reference. -/
theorem Passes.exists_uri {ascii : Reference} (h : Passes raw ascii) :
    ∃ uri, ofReference (.split raw.trim) = .ok uri ∧ ascii = uri.toReference := by
  cases hr : ofReference (.split raw.trim) with
  | ok uri =>
    have same := toAscii?_of_ok hr (isAscii_of_ofReference hr)
    rw [h.authority] at same
    exact ⟨uri, rfl, Option.some.inj same⟩
  | error e =>
    cases e with
    | noScheme => exact absurd (scheme_of_noScheme hr) h.scheme
    | badAuthority =>
      have none := toAscii?_of_badAuthority hr
      rw [h.authority] at none
      cases none

theorem parseByText_eq (raw : Text) :
    parseByText raw = (parse raw).mapError fun e => .value e.message := by
  rw [parseByText, parse]
  split
  · rfl
  · cases hr : ofReference (.split raw.trim) with
    | error e =>
      cases e with
      | noScheme =>
        have relative := scheme_of_noScheme hr
        rw [relative]
        rfl
      | badAuthority =>
        obtain ⟨scheme, -⟩ := ofReference_eq_badAuthority_iff.mp hr
        simp [toAscii?_of_badAuthority hr, scheme]
        rfl
    | ok uri =>
      obtain ⟨scheme, -⟩ := ofReference_eq_ok_iff.mp hr
      have ascii := isAscii_of_ofReference hr
      have given : (Reference.split raw.trim).scheme.isNone = false := by
        rw [scheme, Option.isNone_some]
      simp only [given, toAscii?_of_ok hr ascii, normalize?_toReference ascii,
        Bool.false_eq_true, if_false]
      rw [parseNormal_toReference ascii.normalize ascii.isNormal_normalize]
      split
      · rfl
      · split <;> rfl

/-- Past the first checks the authority is understood after normalization too, in the same parts;
only four components can be found wrong, and the URI is there to be read. Whatever fails, fails with
the message that `parse` gives. -/
theorem reread_after_checks (raw : Text) :
    (∀ ascii, Passes raw ascii →
      ∃ normal a b uri, ascii.normalize? = some normal ∧ ascii.rereadAscii = some a ∧
      normal.rereadAscii = some b ∧ Option.Rel Authority.Keeps a b ∧
      (∀ c ∈ normal.misfits, c ∈ [Component.port, .path, .query, .fragment]) ∧
      normal.toUri? = some uri ∧ uri.authority = b) ∧
      parseByText raw = (parse raw).mapError (fun e => .value e.message) ∧
      ∀ failure, parseByText raw = .error failure → ∃ message, failure = .value message := by
  have same := parseByText_eq raw
  refine ⟨fun ascii passes => ?_, same, fun failure failed => ?_⟩
  · obtain ⟨uri, hr, rfl⟩ := passes.exists_uri
    have ascii := isAscii_of_ofReference hr
    refine ⟨uri.normalize.toReference, uri.authority, uri.normalize.authority, uri.normalize,
      normalize?_toReference ascii, rereadAscii_toReference ascii,
      rereadAscii_toReference ascii.normalize, ascii.keeps_normalize, ?_,
      toUri?_toReference ascii.normalize, rfl⟩
    intro c hc
    rw [misfits_toReference ascii.normalize ascii.isNormal_normalize] at hc
    obtain ⟨p, -, rfl⟩ := List.mem_map.mp hc
    cases p <;> decide
  · rw [same] at failed
    cases hp : parse raw with
    | ok u =>
      rw [hp] at failed
      cases failed
    | error e =>
      rw [hp] at failed
      cases failed
      exact ⟨e.message, rfl⟩

theorem reread_after_checks_of_zone :
    let raw : Text := "wss://jos\u00e9%3a@[FE80::A%eN]:00443/a["
    let ascii : Reference :=
      ⟨some "wss", some "jos%C3%A9%3a@[FE80::A%eN]:00443", some "/a[", none, none⟩
    let normal : Reference :=
      ⟨some "wss", some "jos%C3%A9%3A@[fe80::a%25eN]:00443", some "/a[", none, none⟩
    Passes raw ascii ∧ ascii.normalize? = some normal ∧ normal.misfits = [.path] ∧
      ∃ a b, ascii.rereadAscii = some a ∧ normal.rereadAscii = some b ∧
      Option.Rel Authority.Keeps a b := by
  have passes : Passes "wss://jos\u00e9%3a@[FE80::A%eN]:00443/a["
      ⟨some "wss", some "jos%C3%A9%3a@[FE80::A%eN]:00443", some "/a[", none, none⟩ :=
    ⟨by decide, by decide, by rfl⟩
  have step : Reference.normalize?
        ⟨some "wss", some "jos%C3%A9%3a@[FE80::A%eN]:00443", some "/a[", none, none⟩ =
      some ⟨some "wss", some "jos%C3%A9%3A@[fe80::a%25eN]:00443", some "/a[", none, none⟩ := by rfl
  obtain ⟨normal, a, b, uri, normalized, before, after, keeps, -⟩ :=
    (reread_after_checks _).1 _ passes
  obtain rfl := Option.some.inj (step.symm.trans normalized)
  exact ⟨passes, step, by decide, a, b, before, after, keeps⟩

end Agreement

end GroupWire.Url
