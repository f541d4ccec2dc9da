import Mathlib
import GroupWire.Draft.Request
import GroupWire.Proofs.EventKind.Table

/-! # The event that a request makes

Each of the fourteen requests, given arguments of its kinds, makes an event whose first tag
alone names the group: as the address of the event if its kind is one that relays keep one copy
of, as a reference otherwise. -/

namespace GroupWire

namespace EventKind

/-- The name by which a draft of the kind is asked for. -/
def request : EventKind → Text
  | chatMessage => "message"
  | putUser => "put_user"
  | removeUser => "remove_user"
  | editMetadata => "edit_metadata"
  | deleteEvent => "delete_event"
  | createGroup => "create"
  | deleteGroup => "delete"
  | createInvite => "create_invite"
  | joinRequest => "join_request"
  | leaveRequest => "leave_request"
  | groupMetadata => "metadata"
  | groupAdmins => "admins"
  | groupMembers => "members"
  | groupRoles => "roles"

private def ofRequest? (name : Text) : Option EventKind := all.find? (·.request = name)

theorem request_injective : Function.Injective request := by
  have found (k : EventKind) : ofRequest? k.request = some k := by cases k <;> rfl
  exact injective_of_found found

end EventKind

namespace Draft

/-! ## Arguments of the declared kinds -/

inductive IsOptionalText : Value → Option Text → Prop
  | null : IsOptionalText .null none
  | text {v : Value} {t : Text} (h : v.text? = some t) : IsOptionalText v (some t)

inductive IsSequence {α : Type} (read : Value → Option α) : Value → List α → Prop
  | list {items : List Value} {xs : List α} (h : items.map read = xs.map some) :
      IsSequence read (.list items) xs
  | tuple {items : List Value} {xs : List α} (h : items.map read = xs.map some) :
      IsSequence read (.tuple items) xs

/-- A text is also the sequence of its characters. -/
inductive IsTexts : Value → List Text → Prop
  | sequence {v : Value} {ts : List Text} (h : IsSequence Value.text? v ts) : IsTexts v ts
  | characters {v : Value} {t : Text} (h : v.text? = some t) : IsTexts v (t.map fun c => [c])

section Arguments

variable {α : Type} {read : Value → Option α} {v : Value} {t : Text}
  {items : List Value} {xs : List α}

private theorem written_of_text (h : v.text? = some t) : written v = .ok t := by rw [written, h]

private theorem eq_nil_of_isFalsy (h : v.text? = some t) (falsy : v.isFalsy = true) : t = [] := by
  cases v with
  | text s =>
    cases h
    exact List.isEmpty_iff.mp falsy
  | word w => cases falsy
  | _ => cases h

theorem writtenOrNull_of_optional {o : Option Text} (h : IsOptionalText v o) :
    writtenOrNull v = .ok o := by
  cases h with
  | null => rfl
  | @text _ t h =>
    have shown := written_of_text h
    cases v with
    | null => cases h
    | _ => exact congrArg (Except.map some) shown

/-- An empty reason is lost, but the text is the same. -/
theorem reason_of_optional {o : Option Text} (h : IsOptionalText v o) :
    ∃ r, reason v = .ok r ∧ r.getD [] = o.getD [] := by
  cases h with
  | null => exact ⟨none, rfl, rfl⟩
  | @text _ t h =>
    by_cases falsy : v.isFalsy = true
    · have empty := eq_nil_of_isFalsy h falsy
      exact ⟨none, if_pos falsy, empty.symm⟩
    · refine ⟨some t, ?_, rfl⟩
      rw [reason, if_neg falsy, written_of_text h]
      rfl

private theorem mapM_of_reads {f : Value → Except Error α}
    (reads : ∀ v x, read v = some x → f v = .ok x)
    (h : items.map read = xs.map some) : items.mapM f = .ok xs := by
  induction items generalizing xs with
  | nil =>
    cases xs with
    | nil => rfl
    | cons x xs => cases h
  | cons item items ih =>
    cases xs with
    | nil => cases h
    | cons x xs =>
      obtain ⟨first, rest⟩ := List.cons.inj h
      rw [List.mapM_cons, reads item x first, ih rest]
      rfl

private theorem IsSequence.walked (h : IsSequence read v xs) :
    ∃ items, v.items? = some items ∧ items.map read = xs.map some := by
  cases h with
  | list h | tuple h => exact ⟨_, rfl, h⟩

private theorem items_of_text (h : v.text? = some t) :
    v.items? = some (t.map fun c => .text [c]) := by
  cases v with
  | text s =>
    cases h
    rfl
  | word w => exact congrArg (Option.map fun s => s.map fun c => Value.text [c]) h
  | _ => cases h

theorem spread_of_texts {ts : List Text} (h : IsTexts v ts) : spread v = .ok ts := by
  have walked : ∃ items, v.items? = some items ∧ items.map Value.text? = ts.map some := by
    cases h with
    | sequence h => exact h.walked
    | @characters t h =>
      refine ⟨_, items_of_text h, ?_⟩
      rw [List.map_map, List.map_map]
      rfl
  obtain ⟨items, found, reads⟩ := walked
  rw [spread, found]
  exact mapM_of_reads (fun _ _ => written_of_text) reads

theorem events_of_sequence {es : List EventId} (h : IsSequence Value.event? v es) :
    events v = .ok (if es = [] then none else some es) := by
  have empty : v.isFalsy = true ↔ es = [] := by
    cases h with
    | list h | tuple h =>
      rw [Value.isFalsy, List.isEmpty_iff, ← List.map_eq_nil_iff, h, List.map_eq_nil_iff]
  obtain ⟨items, found, reads⟩ := h.walked
  by_cases none : es = []
  · rw [events, if_pos (empty.mpr none), if_pos none]
  · have walked : items.mapM (part Value.event? "to_hex") = .ok es :=
      mapM_of_reads (fun v e h => by rw [part, h]) reads
    rw [events, if_neg (mt empty.mp none), if_neg none, found]
    exact congrArg (Except.map some) walked

end Arguments

/-- `IsCall name args payload content`: the request takes the arguments, of its declared kinds,
and wants the tags of `payload` after the one for the group, and the content. Optional
arguments are left out from the end. -/
inductive IsCall : Text → List Value → List (List Text) → Text → Prop
  | putUser (k : PublicKey) {rest : List Value} {names : List Text} (few : rest.length ≤ 1)
      (h : IsTexts (rest.getD 0 (.tuple [])) names) :
      IsCall "put_user" (.key k :: rest) ["p" :: k.hex :: names] []
  | removeUser (k : PublicKey) : IsCall "remove_user" [.key k] [["p", k.hex]] []
  | editMetadata (m : Metadata) (shown : Text) :
      IsCall "edit_metadata" [.record (.metadata m) shown] (m.tags.map Tag.fields) []
  | deleteEvent (e : EventId) : IsCall "delete_event" [.event e] [["e", e.hex]] []
  | create (m : Metadata) (shown : Text) :
      IsCall "create" [.record (.metadata m) shown] (m.tags.map Tag.fields) []
  | delete : IsCall "delete" [] [] []
  | createInvite {args : List Value} {code : Option Text} (few : args.length ≤ 1)
      (h : IsOptionalText (args.getD 0 .null) code) :
      IsCall "create_invite" args (code.toList.map fun c => ["code", c]) []
  | joinRequest {args : List Value} {reason code : Option Text} (few : args.length ≤ 2)
      (hr : IsOptionalText (args.getD 0 .null) reason)
      (hc : IsOptionalText (args.getD 1 .null) code) :
      IsCall "join_request" args (code.toList.map fun c => ["code", c]) (reason.getD [])
  | leaveRequest {args : List Value} {reason : Option Text} (few : args.length ≤ 1)
      (h : IsOptionalText (args.getD 0 .null) reason) :
      IsCall "leave_request" args [] (reason.getD [])
  | message {v : Value} {content : Text} {rest : List Value} {es : List EventId}
      (few : rest.length ≤ 1) (hv : v.text? = some content)
      (h : IsSequence Value.event? (rest.getD 0 (.tuple [])) es) :
      IsCall "message" (v :: rest)
        (if es = [] then [] else ["previous" :: es.map fun e => e.hex.take 8]) content
  | metadata (m : Metadata) (shown : Text) :
      IsCall "metadata" [.record (.metadata m) shown] (m.tags.map Tag.fields) []
  | admins (as : Admins) (shown : Text) :
      IsCall "admins" [.record (.admins as) shown] (as.tags.map Tag.fields) []
  | members (ms : Members) (shown : Text) :
      IsCall "members" [.record (.members ms) shown] (ms.tags.map Tag.fields) []
  | roles (rs : Roles) (shown : Text) :
      IsCall "roles" [.record (.roles rs) shown] (rs.tags.map Tag.fields) []

section Calls

variable {name : Text} {args : List Value} {payload : List (List Text)} {content : Text}

private theorem fields_optionalTag (n : TagName) (o : Option Text) :
    (optionalTag n o).map Tag.fields = o.toList.map fun t => [n.token, t] := by cases o <;> rfl

theorem request_of_call (h : IsCall name args payload content) :
    ∃ d, request name args = some (.ok d) ∧ d.extra.map Tag.fields = payload ∧
      d.content = content := by
  cases h with
  | @putUser k rest names few h =>
    refine ⟨.putUser k names, ?_, rfl, rfl⟩
    exact congrArg (fun s => some (s.map (Draft.putUser k))) (spread_of_texts h)
  | removeUser k => exact ⟨.removeUser k, rfl, rfl, rfl⟩
  | editMetadata m shown => exact ⟨.editMetadata m, rfl, rfl, rfl⟩
  | deleteEvent e => exact ⟨.deleteEvent e, rfl, rfl, rfl⟩
  | create m shown => exact ⟨.create m, rfl, rfl, rfl⟩
  | delete => exact ⟨.delete, rfl, rfl, rfl⟩
  | @createInvite args code few h =>
    refine ⟨.createInvite code, ?_, fields_optionalTag .code code, rfl⟩
    exact congrArg (fun c => some (c.map Draft.createInvite)) (writtenOrNull_of_optional h)
  | @joinRequest args asked code few hr hc =>
    obtain ⟨r, made, same⟩ := reason_of_optional hr
    refine ⟨.joinRequest r code, ?_, fields_optionalTag .code code, same⟩
    have read : request "join_request" args = some (do
      let code ← writtenOrNull (args.getD 1 .null)
      .ok (joinRequest (← reason (args.getD 0 .null)) code)) := rfl
    rw [read, writtenOrNull_of_optional hc, made]
    rfl
  | @leaveRequest args asked few h =>
    obtain ⟨r, made, same⟩ := reason_of_optional h
    refine ⟨.leaveRequest r, ?_, rfl, same⟩
    exact congrArg (fun r => some (r.map Draft.leaveRequest)) made
  | @message v content rest es few hv h =>
    have found : events (rest.getD 0 .null) = .ok (if es = [] then none else some es) := by
      cases rest with
      | nil =>
        -- Without a list, the default is the empty one, which counts as none just as null does.
        rw [← events_of_sequence h]
        rfl
      | cons w rest => exact events_of_sequence h
    refine ⟨.message content (if es = [] then none else some es), ?_, ?_, rfl⟩
    · have read : request "message" (v :: rest) = some (do
        let previous ← events (rest.getD 0 .null)
        .ok (message (← written v) previous)) := rfl
      rw [read, found, written_of_text hv]
      rfl
    · by_cases none : es = []
      · rw [if_pos none, if_pos none]
        rfl
      · rw [if_neg none, if_neg none]
        rfl
  | metadata m shown => exact ⟨.metadata m, rfl, rfl, rfl⟩
  | admins as shown => exact ⟨.admins as, rfl, rfl, rfl⟩
  | members ms shown => exact ⟨.members ms, rfl, rfl, rfl⟩
  | roles rs shown => exact ⟨.roles rs, rfl, rfl, rfl⟩

end Calls

/-! ## The event of a draft -/

/-- The event with which the request `name` wants `payload` and `content` for the group. -/
structure IsEnvelope (g : GroupId) (name : Text) (payload : List (List Text)) (content : Text)
    (e : Event) : Prop where
  tags : e.tags.map Tag.fields =
    [(if isMetadata e.kind.code then "d" else "h" : Text), g.id] :: payload
  scope : ∀ tag ∈ payload, tag.head? ≠ some ("h" : Text) ∧ tag.head? ≠ some ("d" : Text)
  group : isGroupEvent e.kind.code = true ↔ name ≠ "message"
  content : e.content = content

private theorem isMetadata_kind (d : Draft) : isMetadata d.kind.code = d.isAddressable := by
  rw [Bool.eq_iff_iff, isMetadata_iff]
  cases d <;> simp [kind, isAddressable]

theorem groupTag_fields (d : Draft) (g : GroupId) :
    (d.groupTag g).fields = [(if isMetadata d.kind.code then "d" else "h" : Text), g.id] := by
  rw [isMetadata_kind, groupTag]
  cases d.isAddressable <;> rfl

section Scope

/-- No tag names the group, so the first tag of an event alone does. -/
def Unscoped (tags : List Tag) : Prop := ∀ t ∈ tags, t.name ≠ .group ∧ t.name ≠ .identifier

private theorem unscoped_nil : Unscoped [] := by
  intro t h
  cases h

private theorem unscoped_cons {n : TagName} {values : List Text} {ts : List Tag}
    (name : n ≠ .group ∧ n ≠ .identifier) (rest : Unscoped ts) : Unscoped (⟨n, values⟩ :: ts) := by
  intro t h
  cases h with
  | head => exact name
  | tail _ h => exact rest t h

private theorem unscoped_append {ts us : List Tag} (ht : Unscoped ts) (hu : Unscoped us) :
    Unscoped (ts ++ us) := by
  intro t h
  rcases List.mem_append.mp h with h | h
  · exact ht t h
  · exact hu t h

private theorem unscoped_map {α : Type} {n : TagName} {values : α → List Text}
    (name : n ≠ .group ∧ n ≠ .identifier)
    (xs : List α) : Unscoped (xs.map fun x => ⟨n, values x⟩) := by
  induction xs with
  | nil => exact unscoped_nil
  | cons x xs ih => exact unscoped_cons name ih

private theorem unscoped_optionalTag {n : TagName} (name : n ≠ .group ∧ n ≠ .identifier)
    (o : Option Text) : Unscoped (optionalTag n o) := by
  cases o with
  | none => exact unscoped_nil
  | some t => exact unscoped_cons name unscoped_nil

private theorem unscoped_metadata (m : Metadata) : Unscoped m.tags := by
  have optional {n : TagName} (name : n ≠ .group ∧ n ≠ .identifier) := unscoped_optionalTag name
  have always : Unscoped [⟨.privacy, [m.privacy.token]⟩, ⟨.closed, [m.access.token]⟩] :=
    unscoped_cons (by decide) (unscoped_cons (by decide) unscoped_nil)
  apply unscoped_append _ always
  apply unscoped_append _ (optional (by decide) _)
  exact unscoped_append (optional (by decide) _) (optional (by decide) _)

private theorem unscoped_admins (items : List Admin) : Unscoped (items.flatMap Admin.tags) := by
  induction items with
  | nil => exact unscoped_nil
  | cons a items ih =>
    have granted : Unscoped (a.roles.map fun r => ⟨.role, [r]⟩) := unscoped_map (by decide) a.roles
    rw [List.flatMap_cons]
    exact unscoped_append (unscoped_cons (by decide) granted) ih

theorem unscoped_extra (d : Draft) : Unscoped d.extra := by
  cases d with
  | putUser k names => exact unscoped_cons (by decide) unscoped_nil
  | removeUser k => exact unscoped_cons (by decide) unscoped_nil
  | deleteEvent e => exact unscoped_cons (by decide) unscoped_nil
  | delete => exact unscoped_nil
  | createInvite code => exact unscoped_optionalTag (by decide) code
  | joinRequest reason code => exact unscoped_optionalTag (by decide) code
  | leaveRequest reason => exact unscoped_nil
  | message content previous =>
    cases previous with
    | none => exact unscoped_nil
    | some es => exact unscoped_cons (by decide) unscoped_nil
  | editMetadata m => exact unscoped_metadata m
  | create m => exact unscoped_metadata m
  | metadata m => exact unscoped_metadata m
  | admins as => exact unscoped_admins as.items
  | members ms => exact unscoped_map (by decide) ms.items
  | roles rs => exact unscoped_map (by decide) rs.items

private theorem head_fields_ne {t : Tag} {n : TagName} (h : t.name ≠ n) :
    t.fields.head? ≠ some n.token := by
  intro same
  exact h (TagName.token_injective (Option.some.inj same))

end Scope

theorem isEnvelope_event (d : Draft) (g : GroupId) :
    IsEnvelope g d.kind.request (d.extra.map Tag.fields) d.content (d.event g) where
  tags := by
    have first := d.groupTag_fields g
    exact congrArg (· :: d.extra.map Tag.fields) first
  scope tag h := by
    obtain ⟨t, ht, rfl⟩ := List.mem_map.mp h
    obtain ⟨group, identifier⟩ := d.unscoped_extra t ht
    exact ⟨head_fields_ne group, head_fields_ne identifier⟩
  group := by
    have chat : d.kind.request = "message" ↔ d.kind = .chatMessage :=
      EventKind.request_injective.eq_iff (b := .chatMessage)
    rw [Ne, chat]
    exact isGroupEvent_iff d.kind
  content := rfl

/-! ## From requests to events -/

section Requests

variable {name : Text} {args : List Value} {payload : List (List Text)} {content : Text} {d : Draft}

private theorem kind_of_map {α : Type} {x : Except Error α} {f : α → Draft} {w : Text}
    (kind : ∀ a, (f a).kind.request = w) (h : some (x.map f) = some (.ok d)) :
    d.kind.request = w := by
  cases x with
  | error e => cases h
  | ok a =>
    cases h
    exact kind a

private theorem kind_of_bind {α β : Type} {x : Except Error α} {y : Except Error β}
    {f : α → β → Draft} {w : Text} (kind : ∀ a b, (f a b).kind.request = w)
    (h : some (x >>= fun a => y >>= fun b => .ok (f a b)) = some (.ok d)) :
    d.kind.request = w := by
  cases x with
  | error e => cases h
  | ok a => exact kind_of_map (kind a) h

private theorem kind_of_ite {w : Text} {x rest : Option (Except Error Draft)}
    (here : x = some (.ok d) → d.kind.request = w)
    (later : rest = some (.ok d) → d.kind.request = name)
    (h : (if name = w then x else rest) = some (.ok d)) : d.kind.request = name := by
  by_cases found : name = w
  · rw [if_pos found] at h
    rw [here h, found]
  · rw [if_neg found] at h
    exact later h

/-- Whatever the arguments were, the kind is the one that the name asks for. -/
theorem request_kind (h : request name args = some (.ok d)) : d.kind.request = name := by
  revert h
  rw [request]
  -- Name by name, in the order in which they are tried.
  refine kind_of_ite (kind_of_bind fun _ _ => rfl) ?_
  iterate 4 refine kind_of_ite (kind_of_map fun _ => rfl) ?_
  refine kind_of_ite (fun h => by cases h; rfl) ?_
  refine kind_of_ite (kind_of_map fun _ => rfl) ?_
  refine kind_of_ite (kind_of_bind fun _ _ => rfl) ?_
  refine kind_of_ite (kind_of_map fun _ => rfl) ?_
  refine kind_of_ite (kind_of_bind fun _ _ => rfl) ?_
  iterate 4 refine kind_of_ite (kind_of_map fun _ => rfl) ?_
  intro h
  cases h

/-- The kinds of any two requests differ as their names do, so no envelope passes
for that of another request. -/
theorem exists_isEnvelope (h : IsCall name args payload content) (g : GroupId) :
    ∃ d, request name args = some (.ok d) ∧ IsEnvelope g name payload content (d.event g) ∧
      ∀ other args' d', request other args' = some (.ok d') →
        ((d'.event g).kind.code = (d.event g).kind.code ↔ other = name) := by
  obtain ⟨d, made, tags, same⟩ := request_of_call h
  refine ⟨d, made, ?_, fun other args' d' made' => ?_⟩
  · have envelope := d.isEnvelope_event g
    rwa [request_kind made, tags, same] at envelope
  · have kind : (d'.event g).kind.code = (d.event g).kind.code ↔ d'.kind = d.kind :=
      EventKind.code_injective.eq_iff
    rw [kind, ← EventKind.request_injective.eq_iff, request_kind made', request_kind made]

end Requests

/-- A code may be any text, even one that names the tag of a group. -/
theorem exists_isEnvelope_of_join_request :
    let g : GroupId :=
      ⟨⟨"wss", none, some "relay.example", none, "/", none, none⟩, "rust-devs", by decide⟩
    let args : List Value := [.text "hello", .text "h"]
    IsCall "join_request" args [["code", "h"]] "hello" ∧
      ∃ d, request "join_request" args = some (.ok d) ∧
        IsEnvelope g "join_request" [["code", "h"]] "hello" (d.event g) ∧
        ∀ other args' d', request other args' = some (.ok d') →
          ((d'.event g).kind.code = (d.event g).kind.code ↔ other = "join_request") := by
  intro g args
  have call : IsCall "join_request" args [["code", "h"]] "hello" :=
    .joinRequest (by decide) (.text rfl) (.text rfl)
  exact ⟨call, exists_isEnvelope call g⟩

end Draft

end GroupWire
