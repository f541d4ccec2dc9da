import GroupWire.Error
import GroupWire.Proofs.GroupId

/-! # The delimiter of an identifier

A text is read by its delimiter alone: one of them sets a relay and a name apart, and any other
number is refused. A written identifier may show more of them in its relay, but none in its name, so
the last one is where it was put together, and two identifiers are written alike only if their
relays are told apart by no more than a last slash. -/

namespace GroupWire.GroupId

/-! ## Reading -/

/-- The texts that `pattern` matches from end to end. -/
def MatchesPattern (t : Text) : Prop :=
  t ≠ [] ∧ ∀ c ∈ t, ('a' ≤ c ∧ c ≤ 'z') ∨ ('0' ≤ c ∧ c ≤ '9') ∨ c = '_' ∨ c = '-'

theorem isIdChar_iff (c : Char) :
    isIdChar c = true ↔ ('a' ≤ c ∧ c ≤ 'z') ∨ ('0' ≤ c ∧ c ≤ '9') ∨ c = '_' ∨ c = '-' := by
  simp only [isIdChar, Char.isDigit, Bool.or_eq_true, Bool.and_eq_true, decide_eq_true_eq, or_assoc]
  rfl

theorem matchesPattern_iff (t : Text) : MatchesPattern t ↔ t ≠ [] ∧ t.all isIdChar = true := by
  simp only [MatchesPattern, List.all_eq_true, isIdChar_iff]

theorem make_of_matchesPattern (relay : Url) {id : Text} (h : MatchesPattern id) :
    ∃ g, make relay id = .ok g ∧ g.relay = relay ∧ g.id = id := by
  have valid := (matchesPattern_iff id).mp h
  refine ⟨⟨relay, id, valid⟩, ?_, rfl, rfl⟩
  rw [make, check_eq_ok ⟨id, valid⟩]
  rfl

theorem make_of_not_matchesPattern (relay : Url) {id : Text} (h : ¬ MatchesPattern id) :
    ∃ cause, make relay id = .error cause := by
  rw [matchesPattern_iff] at h
  by_cases empty : id = []
  · exact ⟨.empty, by rw [make, check, dif_pos empty]; rfl⟩
  · have bad : ¬ id.all isIdChar = true := fun all => h ⟨empty, all⟩
    exact ⟨.badCharacter, by rw [make, check, dif_neg empty, dif_neg bad]; rfl⟩

theorem split_of_one_delimiter {relay id : Text} (hr : delimiter ∉ relay) (hi : delimiter ∉ id) :
    (relay ++ delimiter :: id).split delimiter = [relay, id] := by
  rw [Text.split_append_cons, Text.split_of_not_mem hr, Text.split_of_not_mem hi]
  rfl

theorem parse_of_count_ne_one {t : Text} (h : t.count delimiter ≠ 1) :
    parse t = .error .delimiters := by
  rw [parse]
  split
  · rename_i relay id pieces
    have length := Text.length_split delimiter t
    rw [pieces] at length
    simp only [List.length_cons, List.length_nil] at length
    omega
  · rfl

/-- What becomes of a relay and a name that one delimiter sets apart: of two
faults that of the relay is told. -/
inductive Verdict (relay id : Text) : Except IdentifierError GroupId → Prop
  | read {g : GroupId} (accepted : Url.parse relay = .ok g.relay) (fits : MatchesPattern id)
      (same : g.id = id) : Verdict relay id (.ok g)
  | relay {cause : UrlError} {e : IdentifierError} (refused : Url.parse relay = .error cause)
      (family : e.family = .identifier)
      (detail : e.detail = "Invalid relay URL: " ++ cause.message) : Verdict relay id (.error e)
  | id {u : Url} {e : IdentifierError} (accepted : Url.parse relay = .ok u)
      (unfit : ¬ MatchesPattern id) (family : e.family = .groupId) : Verdict relay id (.error e)

theorem verdict_parse {relay id : Text} (hr : delimiter ∉ relay) (hi : delimiter ∉ id) :
    Verdict relay id (parse (relay ++ delimiter :: id)) := by
  simp only [parse, split_of_one_delimiter hr hi]
  cases read : Url.parse relay with
  | error cause => exact .relay read rfl rfl
  | ok u =>
    by_cases fits : MatchesPattern id
    · obtain ⟨g, made, rfl, same⟩ := make_of_matchesPattern u fits
      simp only [Except.mapError, bind, Except.bind, made]
      exact .read read fits same
    · obtain ⟨cause, made⟩ := make_of_not_matchesPattern u fits
      simp only [Except.mapError, bind, Except.bind, made]
      exact .id read fits rfl

theorem group_mem_lineage (e : IdentifierError) : .group ∈ e.family.lineage := by
  have identifier : .group ∈ Family.identifier.lineage := by decide
  have name : .group ∈ Family.groupId.lineage := by decide
  cases e with
  | delimiters => exact identifier
  | relay => exact identifier
  | id => exact name

/-- One delimiter decides by the relay and then by the name, any other number of them is refused,
and nothing but a group fault comes of any text. -/
theorem parse_decides (t : Text) :
    (∀ relay id, t = relay ++ delimiter :: id → delimiter ∉ relay → delimiter ∉ id →
        Verdict relay id (parse t)) ∧
      (t.count delimiter ≠ 1 → ∃ e, parse t = .error e ∧ e.family = .identifier) ∧
      ∀ e, parse t = .error e → .group ∈ e.family.lineage := by
  refine ⟨?_, fun h => ⟨.delimiters, parse_of_count_ne_one h, rfl⟩, fun e _ => group_mem_lineage e⟩
  rintro relay id rfl hr hi
  exact verdict_parse hr hi

/-- A relay without a scheme hides the fault of the name; the same text with a second
delimiter is refused for that. -/
theorem parse_decides_of_two_faults :
    let relay : Text := "relay"
    let t : Text := relay ++ delimiter :: "A!"
    Verdict relay "A!" (parse t) ∧
      (∃ e, parse t = .error e ∧
        e.detail = "Invalid relay URL: Invalid URL 'relay': relative URL without a scheme" ∧
        .group ∈ e.family.lineage) ∧
      (t ++ [delimiter]).count delimiter = 2 ∧
      ∃ e, parse (t ++ [delimiter]) = .error e ∧ e.family = .identifier := by
  intro relay t
  obtain ⟨decided, -, group⟩ := parse_decides t
  obtain ⟨-, refused, -⟩ := parse_decides (t ++ [delimiter])
  have fault : parse t = .error (.relay (.relative relay)) := by rfl
  exact ⟨decided relay "A!" rfl (by decide) (by decide), ⟨_, fault, by rfl, group _ fault⟩, by rfl,
    refused (by decide)⟩

/-! ## Writing -/

/-- What stands before the last separator and what stands behind it. -/
def cutLast (sep : Char) (t : Text) : Option (Text × Text) :=
  match t.reverse.dropWhile (· ≠ sep) with
  | [] => none
  | _ :: front => some (front.reverse, (t.reverse.takeWhile (· ≠ sep)).reverse)

theorem cutLast_append {sep : Char} {back : Text} (h : sep ∉ back) (front : Text) :
    cutLast sep (front ++ sep :: back) = some (front, back) := by
  have turned : (front ++ sep :: back).reverse = back.reverse ++ sep :: front.reverse := by simp
  have run := Text.ne_of_not_mem (mt List.mem_reverse.mp h)
  have stop : ∀ c ∈ (sep :: front.reverse).head?, decide (c ≠ sep) = false := by simp
  rw [cutLast, turned, Text.dropWhile_append_stop run stop, Text.takeWhile_append_stop run stop]
  simp

theorem cutLast_canonical (g : GroupId) :
    cutLast delimiter g.canonical = some (dropSlash g.relay.text, g.id) :=
  cutLast_append (delimiter_not_mem_id g) _

/-- The first text is the second with a last slash, which the second has not. -/
def HasSlashMore (s t : Text) : Prop := s = t ++ ['/'] ∧ t.getLast? ≠ some '/'

private theorem dropSlash_append_slash (t : Text) : dropSlash (t ++ ['/']) = t := by
  rw [dropSlash_of_slash (by simp), List.dropLast_concat]

private theorem eq_dropSlash_append {t : Text} (h : t.getLast? = some '/') :
    t = dropSlash t ++ ['/'] := by
  obtain ⟨r, rfl⟩ := List.getLast?_eq_some_iff.mp h
  rw [dropSlash_append_slash]

theorem dropSlash_eq_iff (s t : Text) :
    dropSlash s = dropSlash t ↔ s = t ∨ HasSlashMore s t ∨ HasSlashMore t s := by
  constructor
  · intro h
    by_cases hs : s.getLast? = some '/' <;> by_cases ht : t.getLast? = some '/'
    · exact Or.inl (by rw [eq_dropSlash_append hs, h, ← eq_dropSlash_append ht])
    · rw [dropSlash_of_not_slash ht] at h
      exact Or.inr (Or.inl ⟨h ▸ eq_dropSlash_append hs, ht⟩)
    · rw [dropSlash_of_not_slash hs] at h
      exact Or.inr (Or.inr ⟨h ▸ eq_dropSlash_append ht, hs⟩)
    · rw [dropSlash_of_not_slash hs, dropSlash_of_not_slash ht] at h
      exact Or.inl h
  · rintro (rfl | ⟨rfl, ht⟩ | ⟨rfl, hs⟩)
    · rfl
    · rw [dropSlash_append_slash, dropSlash_of_not_slash ht]
    · rw [dropSlash_append_slash, dropSlash_of_not_slash hs]

/-- The last delimiter of a written identifier sets the name apart, and identifiers are written
alike exactly if they have one name and their relays are equal but for a last slash. -/
theorem canonical_eq_iff (g h : GroupId) :
    cutLast delimiter g.canonical = some (dropSlash g.relay.text, g.id) ∧
      (g.canonical = h.canonical ↔ g.id = h.id ∧
        (g.relay.text = h.relay.text ∨ HasSlashMore g.relay.text h.relay.text ∨
          HasSlashMore h.relay.text g.relay.text)) := by
  refine ⟨cutLast_canonical g, ?_⟩
  rw [← dropSlash_eq_iff]
  constructor
  · intro same
    have cut := cutLast_canonical g
    rw [same, cutLast_canonical h] at cut
    obtain ⟨relay, id⟩ := Prod.mk.inj (Option.some.inj cut)
    exact ⟨id.symm, relay.symm⟩
  · rintro ⟨id, relay⟩
    rw [canonical, canonical, relay, id]

end GroupWire.GroupId
