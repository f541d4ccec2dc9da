import GroupWire.Proofs.GroupId.Delimiter
import GroupWire.Proofs.Value.Order

/-! # Identifiers and URLs in order

A URL is compared by its text, and an identifier by the text of its relay and then by its name,
each from one code point to the next. What else is known of them does not count, nor does what
an identifier is written as. -/

namespace GroupWire

/-- A value that shows a record of one kind. -/
def Value.IsOf {α : Type} (record : α → Record) (v : Value) : Prop :=
  ∃ a shown, v = .record (record a) shown

/-- The texts by which a value is compared if it is a URL or an identifier, first to last. -/
def Value.parts : Value → List Text
  | .record (.url u) _ => [u.text]
  | .record (.group g) _ => [g.relay.text, g.id]
  | _ => []

/-- Records of a kind are compared by their parts alone. -/
structure ComparedByParts {α : Type} [BEq α] (record : α → Record) (less : α → α → Bool)
    (parts : α → List Text) : Prop where
  less_iff : ∀ a b, less a b = true ↔ parts a < parts b
  same_iff : ∀ a b : α, (a == b) = true ↔ parts a = parts b
  parts_record : ∀ a s, Value.parts (.record (record a) s) = parts a
  less_record : ∀ a b s t, Value.less? (.record (record a) s) (.record (record b) t) =
    some (less a b)
  same_record : ∀ a b s t, Value.same (.record (record a) s) (.record (record b) t) = (a == b)
  written : ∃ text : List Text → Text, ∀ a s, Value.plain (.record (record a) s) = text (parts a)

/-- The records of a kind are in one order, in which `before` tells what is less and `alike`
what is equal. Lists of them that are arrangements of each other are sorted to the same texts
and count as many distinct. -/
structure InOneOrder {α : Type} [BEq α] (record : α → Record) (less : α → α → Bool)
    (before alike : α → α → Prop) : Prop where
  order : OrdersTotally less
  less_iff : ∀ a b, less a b = true ↔ before a b
  same_iff : ∀ a b : α, (a == b) = true ↔ alike a b
  compare_record :
    ∀ a b s t, Value.compare .lt (.record (record a) s) (.record (record b) t) = .ok (less a b)
  same_record : ∀ a b s t, Value.same (.record (record a) s) (.record (record b) t) = (a == b)
  arranged : ∀ vs ws : List Value, (∀ v ∈ vs, v.IsOf record) → vs.Perm ws → ∃ xs ys count,
    Value.Arrangement vs xs count ∧ Value.Arrangement ws ys count ∧
    xs.map Value.plain = ys.map Value.plain

section Kind

variable {α : Type} [BEq α] {record : α → Record} {less : α → α → Bool} {parts : α → List Text}

theorem ComparedByParts.rankedBy (h : ComparedByParts record less parts) :
    Value.RankedBy Value.parts (Value.IsOf record) where
  compared := by
    rintro _ _ ⟨a, s, rfl⟩ ⟨b, t, rfl⟩
    rw [h.less_record]
    rfl
  less := by
    rintro _ _ ⟨a, s, rfl⟩ ⟨b, t, rfl⟩
    rw [h.less_record, Option.some_inj, h.less_iff, h.parts_record, h.parts_record]
  same := by
    rintro _ _ ⟨a, s, rfl⟩ ⟨b, t, rfl⟩
    rw [h.same_record, h.same_iff, h.parts_record, h.parts_record]
  fixed := by
    rintro _ ⟨a, s, rfl⟩
    simp [Value.changeable?]
  written := by
    obtain ⟨text, written⟩ := h.written
    refine ⟨text, ?_⟩
    rintro _ ⟨a, s, rfl⟩
    rw [written, h.parts_record]

theorem ComparedByParts.inOneOrder (h : ComparedByParts record less parts)
    {before alike : α → α → Prop} (before_iff : ∀ a b, before a b ↔ parts a < parts b)
    (alike_iff : ∀ a b, alike a b ↔ parts a = parts b) :
    InOneOrder record less before alike where
  order := ordersTotally_of_rank parts h.less_iff h.same_iff
  less_iff a b := by rw [h.less_iff, before_iff]
  same_iff a b := by rw [h.same_iff, alike_iff]
  compare_record a b s t := by
    simp [Value.compare, Value.compareSingle, h.less_record]
  same_record := h.same_record
  arranged _ _ all arranged := Value.exists_arrangements h.rankedBy all arranged

end Kind

/-! ## URLs and identifiers -/

theorem Url.comparedByParts : ComparedByParts Record.url Url.less fun u => [u.text] where
  less_iff u v := by
    simp [Url.less, List.cons_lt_cons_iff]
  same_iff u v := by
    simp [Url.beq_iff_text_eq]
  parts_record _ _ := rfl
  less_record _ _ _ _ := rfl
  same_record _ _ _ _ := by
    rw [Value.same]
    rfl
  written := ⟨fun parts => parts.headD [], fun _ _ => rfl⟩

namespace GroupId

theorem beq_iff (g h : GroupId) : (g == h) = true ↔ g.relay.text = h.relay.text ∧ g.id = h.id := by
  change (g.relay == h.relay && g.id = h.id) = true ↔ _
  rw [Bool.and_eq_true, Url.beq_iff_text_eq, decide_eq_true_eq]

theorem parts_lt_iff (g h : GroupId) : [g.relay.text, g.id] < [h.relay.text, h.id] ↔
    g.relay.text < h.relay.text ∨ g.relay.text = h.relay.text ∧ g.id < h.id := by
  simp [List.cons_lt_cons_iff]

theorem comparedByParts : ComparedByParts Record.group less fun g => [g.relay.text, g.id] where
  less_iff g h := by
    simp [less, Url.less, Url.beq_iff_text_eq, parts_lt_iff]
  same_iff g h := by
    simp [beq_iff]
  parts_record _ _ := rfl
  less_record _ _ _ _ := rfl
  same_record _ _ _ _ := by
    rw [Value.same]
    rfl
  written := ⟨fun parts => dropSlash (parts.headD []) ++ delimiter :: parts.tail.headD [],
    fun _ _ => rfl⟩

/-- Of two identifiers that are written alike, the one whose relay has a last slash more comes
later. -/
theorem slash_decides {g h : GroupId} (written : g.canonical = h.canonical)
    (differ : g.relay.text ≠ h.relay.text) :
    (g.less h = true ∧ HasSlashMore h.relay.text g.relay.text) ∨
      (h.less g = true ∧ HasSlashMore g.relay.text h.relay.text) := by
  have cut := cutLast_canonical g
  rw [written, cutLast_canonical h] at cut
  obtain ⟨relays, -⟩ := Prod.mk.inj (Option.some.inj cut)
  have first {g h : GroupId} (more : HasSlashMore h.relay.text g.relay.text) : g.less h = true := by
    rw [comparedByParts.less_iff, parts_lt_iff, ← Text.before_iff]
    exact .inl (.inl ⟨'/', [], more.1⟩)
  rcases (dropSlash_eq_iff g.relay.text h.relay.text).mp relays.symm with same | more | more
  · exact absurd same differ
  · exact .inr ⟨first more, more⟩
  · exact .inl ⟨first more, more⟩

end GroupId

/-- Identifiers are in one order by the code points of the texts of their relays and then of
their names, and URLs by those of their texts. Identifiers with different relays are two
also if they are written alike. -/
theorem identifiers_in_one_order :
    InOneOrder Record.group GroupId.less
        (fun g h => g.relay.text.Before h.relay.text ∨
          g.relay.text = h.relay.text ∧ g.id.Before h.id)
        (fun g h => g.relay.text = h.relay.text ∧ g.id = h.id) ∧
      InOneOrder Record.url Url.less (fun u v => u.text.Before v.text)
        (fun u v => u.text = v.text) ∧
      ∀ g h : GroupId, g.canonical = h.canonical → g.relay.text ≠ h.relay.text → (g == h) = false ∧
        ((g.less h = true ∧ GroupId.HasSlashMore h.relay.text g.relay.text) ∨
          (h.less g = true ∧ GroupId.HasSlashMore g.relay.text h.relay.text)) := by
  refine ⟨GroupId.comparedByParts.inOneOrder (fun g h => ?_) (fun g h => ?_),
    Url.comparedByParts.inOneOrder (fun u v => ?_) (fun u v => ?_),
    fun g h written differ => ⟨?_, ?_⟩⟩
  · rw [GroupId.parts_lt_iff, Text.before_iff, Text.before_iff]
  · simp
  · simp [Text.before_iff, List.cons_lt_cons_iff]
  · simp
  · rw [Bool.eq_false_iff, ne_eq, GroupId.beq_iff]
    exact fun same => differ same.1
  · exact GroupId.slash_decides written differ

/-- Two URLs with one text are equal although only one of them has a host, and two identifiers
that are written alike are not. -/
theorem identifiers_in_one_order_of_lookalikes :
    let u : Url := ⟨"foo", none, none, none, "//evil.org/y", none, none⟩
    let v : Url := ⟨"foo", none, some "evil.org", none, "/y", none, none⟩
    let g : GroupId := ⟨⟨"wss", none, some "h", none, "/nostr", none, none⟩, "x", by decide⟩
    let h : GroupId := ⟨⟨"wss", none, some "h", none, "/nostr/", none, none⟩, "x", by decide⟩
    Url.parse "foo:/a/..//evil.org/y" = .ok u ∧ Url.parse "foo://evil.org/y" = .ok v ∧
      (u == v) = true ∧
      g.canonical = h.canonical ∧ g.relay.text ≠ h.relay.text ∧ (g == h) = false ∧ g.less h = true ∧
      ∃ xs ys count, Value.Arrangement [.record (.group h) "h", .record (.group g) "g"] xs count ∧
        Value.Arrangement [.record (.group g) "g", .record (.group h) "h"] ys count ∧
        xs.map Value.plain = ys.map Value.plain := by
  intro u v g h
  obtain ⟨groups, urls, apart⟩ := identifiers_in_one_order
  have written : g.canonical = h.canonical := by decide
  have differ : g.relay.text ≠ h.relay.text := by decide
  have both : ∀ w ∈ [Value.record (.group h) "h", .record (.group g) "g"], w.IsOf Record.group := by
    simp [Value.IsOf]
  exact ⟨by rfl, by rfl, (urls.same_iff u v).mpr (by rfl), written, differ,
    (apart g h written differ).1, by decide, groups.arranged _ _ both (.swap _ _ [])⟩

end GroupWire
