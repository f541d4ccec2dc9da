import Mathlib
import GroupWire.Proofs.Log.Pairs

/-! # Blanks outside quotes

A text is put between double quotes if it holds a space, but not for a tab, a line break or any
other blank alone. So the blanks that stand outside the quotes of a line of pairs are the spaces
between the pairs and the blanks of those texts that are not quoted. -/

namespace GroupWire.Log

mutual

/-- The characters of a text that stand outside double quotes. -/
def outside : Text → Text
  | [] => []
  | '"' :: r => outsideAfter r
  | c :: r => c :: outside r

/-- The same for a text that begins inside quotes, where a backslash keeps the next
character from closing them. -/
def outsideAfter : Text → Text
  | [] => []
  | '"' :: r => outside r
  | '\\' :: _ :: r => outsideAfter r
  | _ :: r => outsideAfter r

end

/-- What is written for the text of a field begins and ends with a double quote. -/
def IsQuoted (bound : Option Int) (field : Text × Text) : Prop :=
  ∃ s, pair bound field = field.1 ++ '=' :: '"' :: s ++ ['"']

/-- What stands of a text outside quotes when it is shown. -/
def bare (t : Text) : Text := if needsQuotes t then [] else t

/-- Characters of a key that leave the quotes and the blanks of a line alone, as
letters, digits and underscores do. -/
def isKeyChar (c : Char) : Bool := c ≠ '"' && !Text.isBlank c

/-! ## Texts and pairs -/

theorem needsQuotes_iff_of_any {p : Char → Bool} {t : Text} (holds : t.any p = true) :
    needsQuotes t = true ↔ t.any isDelicate = true := by
  have filled : t ≠ [] := by
    rintro rfl
    cases holds
  simp [needsQuotes, filled]

theorem needsQuotes_of_mem {t : Text} {c : Char} (hc : c ∈ t) (delicate : isDelicate c = true) :
    needsQuotes t = true := by
  have any : t.any isDelicate = true := List.any_eq_true.mpr ⟨c, hc, delicate⟩
  exact (needsQuotes_iff_of_any any).mpr any

theorem isQuoted_iff {bound : Option Int} {field : Text × Text} :
    IsQuoted bound field ↔ needsQuotes (cut bound field.2) = true := by
  have value (s : Text) : pair bound field = field.1 ++ '=' :: '"' :: s ++ ['"'] ↔
      quoteIfNeeded (cut bound field.2) = '"' :: s ++ ['"'] := by simp [pair]
  simp only [IsQuoted, value]
  constructor
  · rintro ⟨s, quotes⟩
    by_contra plain
    rw [quoteIfNeeded, if_neg plain] at quotes
    have mark : '"' ∈ cut bound field.2 := by simp [quotes]
    exact plain (needsQuotes_of_mem mark (by decide))
  · intro delicate
    exact ⟨_, by rw [quoteIfNeeded, if_pos delicate]⟩

theorem outside_append {s : Text} (clean : '"' ∉ s) (t : Text) :
    outside (s ++ t) = s ++ outside t := by
  induction s with
  | nil => rfl
  | cons c s ih =>
    obtain ⟨first, rest⟩ := not_or.mp (List.mem_cons.not.mp clean)
    have ordinary : c ≠ '"' := Ne.symm first
    rw [List.cons_append, outside, ih rest, List.cons_append]
    exact ordinary

theorem outsideAfter_escapeInQuotes (t rest : Text) :
    outsideAfter (t.flatMap escapeInQuotes ++ '"' :: rest) = outside rest := by
  induction t with
  | nil => simp [outsideAfter]
  | cons c t ih =>
    rw [List.flatMap_cons, escapeInQuotes]
    split
    · simp [outsideAfter, ih]
    · rename_i hc
      simp only [not_or, Bool.or_eq_true, decide_eq_true_eq] at hc
      simp [outsideAfter, ih, hc]

theorem outside_quoteIfNeeded (t rest : Text) :
    outside (quoteIfNeeded t ++ rest) = bare t ++ outside rest := by
  rw [quoteIfNeeded, bare]
  split
  · have quotes : '"' :: t.flatMap escapeInQuotes ++ ['"'] ++ rest =
        '"' :: (t.flatMap escapeInQuotes ++ '"' :: rest) := by simp
    rw [quotes, outside, outsideAfter_escapeInQuotes]
    rfl
  · rename_i plain
    exact outside_append (fun mark => plain (needsQuotes_of_mem mark (by decide))) rest

section Pairs

variable {bound : Option Int} {fields : List (Text × Text)}

theorem outside_pair {field : Text × Text} (clean : '"' ∉ field.1) (rest : Text) :
    outside (pair bound field ++ rest) =
      field.1 ++ '=' :: bare (cut bound field.2) ++ outside rest := by
  have key : '"' ∉ field.1 ++ ['='] := by simp [clean]
  have whole : pair bound field ++ rest =
      (field.1 ++ ['=']) ++ (quoteIfNeeded (cut bound field.2) ++ rest) := by
    simp [pair]
  rw [whole, outside_append key, outside_quoteIfNeeded]
  simp

theorem outside_join (clean : ∀ f ∈ fields, '"' ∉ f.1) :
    outside (Text.join [' '] (fields.map (pair bound))) =
      Text.join [' '] (fields.map fun f => f.1 ++ '=' :: bare (cut bound f.2)) := by
  induction fields with
  | nil => simp [outside]
  | cons f fields ih =>
    have here := clean f List.mem_cons_self
    cases fields with
    | nil => simpa [outside] using @outside_pair bound f here []
    | cons g fields =>
      have later := ih fun h hh => clean h (List.mem_cons_of_mem f hh)
      have space (t : Text) : outside (' ' :: t) = ' ' :: outside t :=
        @outside_append [' '] (by decide) t
      simp only [List.map_cons, Text.join_cons_cons] at later ⊢
      rw [outside_pair here, space, later]

theorem filter_join (p : Char → Bool) {sep : Char} (kept : p sep = true) (parts : List Text) :
    (Text.join [sep] parts).filter p = Text.join [sep] (parts.map (List.filter p)) := by
  cases parts with
  | nil => simp
  | cons s parts => simp [Text.join_cons, List.filter_flatMap, List.flatMap_map, kept]

/-- Only empty pieces leave nothing but separators. -/
theorem join_eq_replicate_iff (sep : Char) (parts : List Text) :
    Text.join [sep] parts = List.replicate (parts.length - 1) sep ↔ ∀ s ∈ parts, s = [] := by
  cases parts with
  | nil => simp
  | cons s parts =>
    have length : (parts.flatMap (sep :: ·)).length = parts.length + parts.flatten.length := by
      induction parts with
      | nil => rfl
      | cons q parts ih => simp [ih]; omega
    rw [Text.join_cons]
    constructor
    · intro same
      have lengths := congrArg List.length same
      simp only [List.length_append, length, List.length_replicate, List.length_cons,
        Nat.add_sub_cancel] at lengths
      have first : s = [] := List.length_eq_zero_iff.mp (by omega)
      have others : parts.flatten = [] := List.length_eq_zero_iff.mp (by omega)
      exact List.forall_mem_cons.mpr ⟨first, List.flatten_eq_nil_iff.mp others⟩
    · intro empty
      obtain ⟨rfl, others⟩ := List.forall_mem_cons.mp empty
      rw [List.eq_replicate_of_mem others]
      simp [List.flatMap_replicate]

theorem filter_bare_eq_nil_iff (t : Text) :
    (bare t).filter Text.isBlank = [] ↔ (t.any Text.isBlank = true → t.any isDelicate = true) := by
  rw [bare]
  split
  · rename_i quoted
    refine iff_of_true rfl fun blank => ?_
    exact (needsQuotes_iff_of_any blank).mp quoted
  · rename_i plain
    rw [List.filter_eq_nil_iff, List.any_eq_true]
    constructor
    · rintro solid ⟨c, hc, blank⟩
      exact absurd blank (solid c hc)
    · intro hidden c hc blank
      exact plain ((needsQuotes_iff_of_any (List.any_eq_true.mpr ⟨c, hc, blank⟩)).mpr
        (hidden ⟨c, hc, blank⟩))

/-- The blanks outside quotes are the spaces between the pairs and those of the texts that are not
quoted. -/
theorem blanks_outside_pairs (lead : Text) (clean : ∀ f ∈ fields, f.1.all isKeyChar = true) :
    (outside ((pairs bound lead fields).drop lead.length)).filter Text.isBlank =
      Text.join [' '] (fields.map fun f => (bare (cut bound f.2)).filter Text.isBlank) := by
  have chars {f : Text × Text} (hf : f ∈ fields) {c : Char} (hc : c ∈ f.1) :
      c ≠ '"' ∧ Text.isBlank c = false := by
    simpa [isKeyChar] using List.all_eq_true.mp (clean f hf) c hc
  by_cases filled : fields = []
  · simp [filled, pairs, outside]
  · have markless : ∀ f ∈ fields, '"' ∉ f.1 := fun f hf mark => (chars hf mark).1 rfl
    rw [pairs_of_ne_nil lead filled, List.drop_left, outside_join markless,
      filter_join _ (by decide), List.map_map]
    refine congrArg (Text.join [' ']) (List.map_congr_left fun f hf => ?_)
    have key : f.1.filter Text.isBlank = [] := by
      rw [List.filter_eq_nil_iff]
      intro c hc
      simp [(chars hf hc).2]
    have sign : Text.isBlank '=' = false := by decide
    simp [key, sign]

end Pairs

/-! ## Blanks of a line -/

/-- Every text with a blank has one of the characters that are looked for. -/
def BlanksShow (bound : Option Int) (fields : List (Text × Text)) : Prop :=
  ∀ f ∈ fields, (cut bound f.2).any Text.isBlank = true → (cut bound f.2).any isDelicate = true

/-- The texts in quotes are the empty ones and those with one of four characters. So a field is
quoted for every blank, equals sign or quote in its text exactly if no text has a blank and none of
the four. If the keys are plain words, this is also exactly when the blanks outside quotes are one
space between each two pairs. -/
theorem blanks_quoted_iff (lead : Text) (bound : Option Int) (fields : List (Text × Text)) :
    (∀ f ∈ fields, IsQuoted bound f ↔ cut bound f.2 = [] ∨ (cut bound f.2).any isDelicate = true) ∧
      ((∀ f ∈ fields, (cut bound f.2).any (fun c => Text.isBlank c || isDelicate c) = true →
          IsQuoted bound f) ↔ BlanksShow bound fields) ∧
      ((∀ f ∈ fields, f.1.all isKeyChar = true) →
        ((outside ((pairs bound lead fields).drop lead.length)).filter Text.isBlank =
            List.replicate (fields.length - 1) ' ' ↔ BlanksShow bound fields)) := by
  refine ⟨fun f _ => ?_, forall₂_congr fun f hf => ?_, fun clean => ?_⟩
  · simp [isQuoted_iff, needsQuotes]
  · rw [isQuoted_iff]
    constructor
    · intro quoted blank
      obtain ⟨c, hc, isBlank⟩ := List.any_eq_true.mp blank
      exact (needsQuotes_iff_of_any blank).mp
        (quoted (List.any_eq_true.mpr ⟨c, hc, by simp [isBlank]⟩))
    · intro hidden either
      refine (needsQuotes_iff_of_any either).mpr ?_
      obtain ⟨c, hc, one⟩ := List.any_eq_true.mp either
      rcases Bool.or_eq_true_iff.mp one with blank | delicate
      · exact hidden (List.any_eq_true.mpr ⟨c, hc, blank⟩)
      · exact List.any_eq_true.mpr ⟨c, hc, delicate⟩
  · have count := join_eq_replicate_iff ' '
      (fields.map fun f => (bare (cut bound f.2)).filter Text.isBlank)
    rw [List.length_map, ← blanks_outside_pairs lead clean, List.forall_mem_map] at count
    rw [count]
    exact forall₂_congr fun f _ => filter_bare_eq_nil_iff _

/-- A tab beside a space stands in quotes, so the only blank outside them is the
space between the two pairs. -/
theorem blanks_quoted_of_tab_and_space :
    let fields : List (Text × Text) := [("note", "a\t b"), ("max_size", "2")]
    (∀ f ∈ fields, f.1.all isKeyChar = true) ∧ BlanksShow none fields ∧
      pairs none ": " fields = ": note=\"a\t b\" max_size=2" ∧
      (outside ((pairs none ": " fields).drop 2)).filter Text.isBlank = [' '] := by
  intro fields
  have clean : ∀ f ∈ fields, f.1.all isKeyChar = true := by decide
  have hidden : BlanksShow none fields := by
    unfold BlanksShow
    decide
  exact ⟨clean, hidden, by decide, ((blanks_quoted_iff ": " none fields).2.2 clean).mpr hidden⟩

/-- A line break alone is not looked for, so it stands outside quotes and breaks the line. -/
theorem line_break_outside_quotes :
    let field : Text × Text := ("k", "a\nb")
    pairs (some defaultBound) " " [field] = " k=a\nb" ∧
      (cut (some defaultBound) field.2).any Text.isBlank = true ∧
      ¬ IsQuoted (some defaultBound) field ∧
      (outside ((pairs (some defaultBound) " " [field]).drop 1)).filter Text.isBlank = ['\n'] := by
  refine ⟨by decide, by decide, ?_, by decide⟩
  rw [isQuoted_iff]
  decide

end GroupWire.Log
