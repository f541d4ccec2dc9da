import Mathlib
import GroupWire.Log.Pairs
import GroupWire.Proofs.Text

/-! # Fields read back from the pairs that show them

A text between double quotes ends at the first double quote that no backslash keeps in it, any
other text at the next space. So a line of pairs tells its fields, whatever their texts are, as
long as no key holds an equals sign. -/

namespace GroupWire.Log

/-- The text up to the closing quote, and what follows it. After a backslash, a
character stands for itself. -/
def readQuoted : Text → Option (Text × Text)
  | [] => none
  | '"' :: r => some ([], r)
  | '\\' :: c :: r => (readQuoted r).map fun p => (c :: p.1, p.2)
  | c :: r => (readQuoted r).map fun p => (c :: p.1, p.2)

def readValue : Text → Option (Text × Text)
  | '"' :: r => readQuoted r
  | t => some (t.takeWhile (· ≠ ' '), t.dropWhile (· ≠ ' '))

/-- The first field of a line, and what follows it. -/
def readPair (t : Text) : Option ((Text × Text) × Text) :=
  match t.dropWhile (· ≠ '=') with
  | [] => none
  | _ :: r => (readValue r).map fun p => ((t.takeWhile (· ≠ '='), p.1), p.2)

theorem length_of_readQuoted {t s rest : Text} (h : readQuoted t = some (s, rest)) :
    rest.length < t.length := by
  fun_induction readQuoted t generalizing s with
  | case1 => cases h
  | case2 r =>
    cases h
    exact Nat.lt_succ_self _
  | case3 c r ih =>
    obtain ⟨⟨u, v⟩, hr, same⟩ := Option.map_eq_some_iff.mp h
    cases same
    exact Nat.lt_succ_of_lt (Nat.lt_succ_of_lt (ih hr))
  | case4 c r _ _ ih =>
    obtain ⟨⟨u, v⟩, hr, same⟩ := Option.map_eq_some_iff.mp h
    cases same
    exact Nat.lt_succ_of_lt (ih hr)

theorem length_of_readValue {t s rest : Text} (h : readValue t = some (s, rest)) :
    rest.length ≤ t.length := by
  unfold readValue at h
  split at h
  · exact Nat.le_of_lt (Nat.lt_succ_of_lt (length_of_readQuoted h))
  · cases h
    exact (List.dropWhile_sublist _).length_le

theorem length_of_readPair {t rest : Text} {f : Text × Text} (h : readPair t = some (f, rest)) :
    rest.length < t.length := by
  have whole := (List.dropWhile_sublist (· ≠ '=') (l := t)).length_le
  unfold readPair at h
  split at h
  · cases h
  · rename_i c r ht
    obtain ⟨⟨u, v⟩, hr, same⟩ := Option.map_eq_some_iff.mp h
    cases same
    have value : v.length ≤ r.length := length_of_readValue hr
    rw [ht, List.length_cons] at whole
    exact Nat.lt_of_lt_of_le (Nat.lt_succ_of_le value) whole

def readPairs (t : Text) : Option (List (Text × Text)) :=
  match _h : readPair t with
  | none => none
  | some (f, []) => some [f]
  | some (f, c :: r) => if c = ' ' then (readPairs r).map (f :: ·) else none
termination_by t.length
decreasing_by
  have shorter := length_of_readPair _h
  rw [List.length_cons] at shorter
  omega

/-- Nothing is written for no fields. -/
def readFields (lead t : Text) : Option (List (Text × Text)) :=
  if t.isEmpty then some [] else if lead.isPrefixOf t then readPairs (t.drop lead.length) else none

/-! ## One text, one field, a line of them -/

theorem readQuoted_escapeInQuotes (t rest : Text) :
    readQuoted (t.flatMap escapeInQuotes ++ '"' :: rest) = some (t, rest) := by
  induction t with
  | nil => rfl
  | cons c t ih =>
    rw [List.flatMap_cons, escapeInQuotes]
    split
    · simp [readQuoted, ih]
    · rename_i hc
      simp only [not_or, Bool.or_eq_true, decide_eq_true_eq] at hc
      simp [readQuoted, ih, hc]

theorem isDelicate_eq_false_iff {c : Char} :
    isDelicate c = false ↔ c ≠ ' ' ∧ c ≠ '=' ∧ c ≠ '"' ∧ c ≠ '\'' := by
  simp [isDelicate, and_assoc]

/-- What is written for a text is read back as that text, if only a space can follow. -/
theorem readValue_quoteIfNeeded (t : Text) {rest : Text} (stop : ∀ c ∈ rest.head?, c = ' ') :
    readValue (quoteIfNeeded t ++ rest) = some (t, rest) := by
  rw [quoteIfNeeded]
  split
  · have quotes : '"' :: t.flatMap escapeInQuotes ++ ['"'] ++ rest =
        '"' :: (t.flatMap escapeInQuotes ++ '"' :: rest) := by simp
    rw [quotes, readValue]
    exact readQuoted_escapeInQuotes t rest
  · rename_i plain
    obtain ⟨filled, clean⟩ : t ≠ [] ∧ ∀ c ∈ t, isDelicate c = false := by
      simpa [needsQuotes] using plain
    have run : ∀ c ∈ t, decide (c ≠ ' ') = true := fun c hc => by
      simp [(isDelicate_eq_false_iff.mp (clean c hc)).1]
    have stop' : ∀ c ∈ rest.head?, decide (c ≠ ' ') = false := fun c hc => by simp [stop c hc]
    cases t with
    | nil => exact absurd rfl filled
    | cons c t =>
      have first : c ≠ '"' := (isDelicate_eq_false_iff.mp (clean c List.mem_cons_self)).2.2.1
      have unquoted : readValue (c :: t ++ rest) =
          some ((c :: t ++ rest).takeWhile (· ≠ ' '), (c :: t ++ rest).dropWhile (· ≠ ' ')) := by
        simp [readValue, first]
      rw [unquoted, Text.takeWhile_append_stop run stop', Text.dropWhile_append_stop run stop']

/-- The field as it shows. -/
def shown (bound : Option Int) (field : Text × Text) : Text × Text := (field.1, cut bound field.2)

variable {bound : Option Int} {field : Text × Text} {fields : List (Text × Text)}

theorem readPair_pair (bound : Option Int) (clean : '=' ∉ field.1) {rest : Text}
    (stop : ∀ c ∈ rest.head?, c = ' ') :
    readPair (pair bound field ++ rest) = some (shown bound field, rest) := by
  have run := Text.ne_of_not_mem clean
  have key : pair bound field ++ rest =
      field.1 ++ '=' :: (quoteIfNeeded (cut bound field.2) ++ rest) := by
    simp [pair]
  rw [key, readPair, Text.takeWhile_append_stop run (by simp),
    Text.dropWhile_append_stop run (by simp)]
  simp [readValue_quoteIfNeeded _ stop, shown]

theorem readPairs_join (filled : fields ≠ []) (clean : ∀ f ∈ fields, '=' ∉ f.1) :
    readPairs (Text.join [' '] (fields.map (pair bound))) = some (fields.map (shown bound)) := by
  induction fields with
  | nil => exact absurd rfl filled
  | cons f fields ih =>
    have here := clean f List.mem_cons_self
    cases fields with
    | nil =>
      have last : readPair (pair bound f) = some (shown bound f, []) := by
        rw [← List.append_nil (pair bound f), readPair_pair bound here (by simp)]
      rw [List.map_singleton, Text.join_singleton, readPairs, last]
      rfl
    | cons g fields =>
      have later := ih (by simp) fun h hh => clean h (List.mem_cons_of_mem f hh)
      have first :
          readPair (pair bound f ++ ' ' :: Text.join [' '] ((g :: fields).map (pair bound))) =
          some (shown bound f, ' ' :: Text.join [' '] ((g :: fields).map (pair bound))) :=
        readPair_pair bound here (by simp)
      rw [List.map_cons, List.map_cons, Text.join_cons_cons, ← List.map_cons, readPairs, first]
      exact congrArg (Option.map (shown bound f :: ·)) later

theorem pairs_of_ne_nil (lead : Text) (filled : fields ≠ []) :
    pairs bound lead fields = lead ++ Text.join [' '] (fields.map (pair bound)) := by
  rw [pairs, if_neg (by simpa using filled)]
  rfl

theorem pairs_singleton (bound : Option Int) (lead : Text) (field : Text × Text) :
    pairs bound lead [field] = lead ++ pair bound field := by
  rw [pairs_of_ne_nil lead (List.cons_ne_nil field []), List.map_singleton, Text.join_singleton]

/-- Nothing but what shows is written. -/
theorem pairs_eq_pairs_shown (bound : Option Int) (lead : Text) (fields : List (Text × Text)) :
    pairs bound lead fields = pairs none lead (fields.map (shown bound)) := by
  simp only [pairs, List.isEmpty_map, List.map_map]
  rfl

private theorem join_pair_ne_nil (filled : fields ≠ []) :
    Text.join [' '] (fields.map (pair bound)) ≠ [] := by
  match fields with
  | [f] => simp [pair]
  | f :: g :: fields =>
    rw [List.map_cons, List.map_cons, Text.join_cons_cons]
    simp

theorem readFields_of_pairs (lead : Text) (bound : Option Int) (clean : ∀ f ∈ fields, '=' ∉ f.1) :
    readFields lead (pairs bound lead fields) = some (fields.map (shown bound)) := by
  by_cases filled : fields = []
  · rw [filled]
    rfl
  · rw [pairs_of_ne_nil lead filled, readFields, if_neg (by simp [join_pair_ne_nil filled]),
      if_pos (by simp), List.drop_left, readPairs_join filled clean]

/-! ## Lines with the same keys

Here a key may hold anything: what is known of it need not be read. -/

private theorem eq_of_pair_append {f f' : Text × Text} {rest rest' : Text} (key : f.1 = f'.1)
    (stop : ∀ c ∈ rest.head?, c = ' ') (stop' : ∀ c ∈ rest'.head?, c = ' ')
    (same : pair none f ++ rest = pair none f' ++ rest') : f = f' ∧ rest = rest' := by
  have values : quoteIfNeeded f.2 ++ rest = quoteIfNeeded f'.2 ++ rest' := by
    simpa [pair, cut, key] using same
  have read := readValue_quoteIfNeeded f.2 stop
  rw [values, readValue_quoteIfNeeded f'.2 stop'] at read
  obtain ⟨value, rfl⟩ := Prod.mk.inj (Option.some.inj read)
  exact ⟨Prod.ext key value.symm, rfl⟩

private theorem space_of_flatMap_pair (fields : List (Text × Text)) :
    ∀ c ∈ (fields.flatMap (' ' :: pair none ·)).head?, c = ' ' := by
  cases fields <;> simp

private theorem eq_of_flatMap_pair {fields fields' : List (Text × Text)}
    (keys : fields.map Prod.fst = fields'.map Prod.fst)
    (same : fields.flatMap (' ' :: pair none ·) = fields'.flatMap (' ' :: pair none ·)) :
    fields = fields' := by
  induction fields generalizing fields' with
  | nil => simpa using keys.symm
  | cons f fields ih =>
    cases fields' with
    | nil => cases keys
    | cons f' fields' =>
      obtain ⟨key, others⟩ := List.cons.inj keys
      obtain ⟨rfl, rest⟩ :=
        eq_of_pair_append key (space_of_flatMap_pair fields) (space_of_flatMap_pair fields')
          (List.cons.inj same).2
      rw [ih others rest]

theorem pairs_eq_iff_of_keys {fields fields' : List (Text × Text)} (lead : Text)
    (keys : fields.map Prod.fst = fields'.map Prod.fst) :
    pairs none lead fields = pairs none lead fields' ↔ fields = fields' := by
  refine ⟨fun same => ?_, fun same => by rw [same]⟩
  cases fields with
  | nil => simpa using keys.symm
  | cons f fields =>
    cases fields' with
    | nil => cases keys
    | cons f' fields' =>
      obtain ⟨key, others⟩ := List.cons.inj keys
      rw [pairs_of_ne_nil lead (List.cons_ne_nil f fields),
        pairs_of_ne_nil lead (List.cons_ne_nil f' fields'), List.append_cancel_left_eq,
        List.map_cons, List.map_cons, Text.join_cons, Text.join_cons, List.flatMap_map,
        List.flatMap_map] at same
      obtain ⟨rfl, rest⟩ :=
        eq_of_pair_append key (space_of_flatMap_pair fields) (space_of_flatMap_pair fields') same
      rw [eq_of_flatMap_pair others rest]

/-! ## The fields of a line -/

/-- Whatever stands before the pairs and however long their texts may be, every field is read back
in order, its text as far as it shows. So fields that show alike are alike, as far as they show. -/
theorem readFields_pairs (lead : Text) (bound : Option Int) (clean : ∀ f ∈ fields, '=' ∉ f.1) :
    readFields lead (pairs bound lead fields) = some (fields.map (shown bound)) ∧
      ∀ (bound' : Option Int) (fields' : List (Text × Text)), (∀ f ∈ fields', '=' ∉ f.1) →
        (pairs bound lead fields = pairs bound' lead fields' ↔
          fields.map (shown bound) = fields'.map (shown bound')) := by
  refine ⟨readFields_of_pairs lead bound clean,
    fun bound' fields' clean' => ⟨fun same => ?_, fun same => ?_⟩⟩
  · have first := readFields_of_pairs lead bound clean
    rw [same, readFields_of_pairs lead bound' clean'] at first
    exact (Option.some.inj first).symm
  · rw [pairs_eq_pairs_shown, same, ← pairs_eq_pairs_shown]

/-- A text that looks like a pair stays a text, and one that was cut says so inside its quotes. -/
theorem readFields_pairs_of_forged_pair :
    let fields : List (Text × Text) := [("path", "C:\\x"), ("note", "k=\"v\" "), ("", "")]
    let read : List (Text × Text) :=
      [("path", "C:\\x"), ("note", "k=\"v\"...<truncated 1 chars>"), ("", "")]
    (∀ f ∈ fields, '=' ∉ f.1) ∧
      pairs (some 5) ": " fields = ": path=C:\\x note=\"k=\\\"v\\\"...<truncated 1 chars>\" =\"\"" ∧
      readFields ": " (pairs (some 5) ": " fields) = some read ∧
      ∀ (bound' : Option Int) (fields' : List (Text × Text)), (∀ f ∈ fields', '=' ∉ f.1) →
        (pairs (some 5) ": " fields = pairs bound' ": " fields' ↔
          read = fields'.map (shown bound')) := by
  intro fields read
  have clean : ∀ f ∈ fields, '=' ∉ f.1 := by decide
  exact ⟨clean, by decide, readFields_pairs ": " (some 5) clean⟩

end GroupWire.Log
