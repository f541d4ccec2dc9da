import Mathlib
import GroupWire.Log.Logger
import GroupWire.Proofs.Log.Pairs

/-! # Texts that are cut twice

A logger cuts a text with its own bound, and the line that is written cuts what is left, the
note of the first cut included. The second cut leaves a text as it is if the text is short
enough, or ends in the very note that the second cut would write; else the line shows another
text than the logger's own pairs do. -/

namespace GroupWire.Log

/-- What stands for the characters that were cut off. -/
def cutNote (n : Int) : Text := "...<truncated " ++ Text.ofInt n ++ " chars>"

section Cut

variable {b : Nat} {t : Text}

theorem cut_of_length_le (short : t.length ≤ b) : cut (some b) t = t := by
  have fits : (t.length : Int) ≤ b := Int.ofNat_le.mpr short
  simp [cut, fits]

theorem cut_of_lt_length (positive : 0 < b) (long : b < t.length) :
    cut (some b) t = t.take b ++ cutNote (t.length - b : Nat) := by
  have tooLong : ¬ ((b : Int) = 0 ∨ (t.length : Int) ≤ b) := by omega
  have cutOff : (t.length : Int) - b = (t.length - b : Nat) := by omega
  have kept : front b t = t.take b := by simp [front]
  unfold cutNote
  rw [cut]
  simp only [Bool.or_eq_true, decide_eq_true_eq, if_neg tooLong, kept, cutOff, List.append_assoc]

/-- What stands before the bound stays, what follows it is counted. -/
theorem cut_append {s r : Text} (filled : 0 < s.length) (more : r ≠ []) :
    cut (some (s.length : Nat)) (s ++ r) = s ++ cutNote r.length := by
  have long : s.length < (s ++ r).length := by
    have := List.length_pos_of_ne_nil more
    rw [List.length_append]
    omega
  rw [cut_of_lt_length filled long, List.take_left, List.length_append, Nat.add_sub_cancel_left]

theorem length_cutNote (n : Nat) : (cutNote n).length = (Text.ofNat n).length + 21 := by
  have before : ("...<truncated " : Text).length = 14 := by decide
  have after : (" chars>" : Text).length = 7 := by decide
  have digits : Text.ofInt n = Text.ofNat n := rfl
  unfold cutNote
  rw [List.length_append, List.length_append, digits, before, after]
  omega

/-- Only a note of 23 characters counts itself. -/
theorem length_ofNat_add_eq_iff (n : Nat) : (Text.ofNat n).length + 21 = n ↔ n = 23 := by
  constructor
  · intro same
    have few (k : Nat) (hk : 0 < k) : (Text.ofNat n).length ≤ k ↔ n < 10 ^ k :=
      Nat.length_toDigits_le_iff (by decide) hk
    generalize (Text.ofNat n).length = d at same few
    have upTo : d ≤ 2 := by
      by_contra more
      obtain ⟨k, rfl⟩ : ∃ k, d = k + 3 := ⟨d - 3, by omega⟩
      have large : ¬ n < 10 ^ (k + 2) := fun h => by have := (few (k + 2) (by omega)).mpr h; omega
      have growth : k < 10 ^ k := Nat.lt_pow_self (by decide)
      rw [pow_add] at large
      omega
    have small : n < 10 ^ 1 ↔ d ≤ 1 := (few 1 (by decide)).symm
    omega
  · rintro rfl
    decide

theorem cut_eq_self_iff (positive : 0 < b) (t : Text) :
    cut (some b) t = t ↔ t.length ≤ b ∨ t.drop b = cutNote 23 := by
  by_cases short : t.length ≤ b
  · simp [short, cut_of_length_le short]
  · have long : b < t.length := Nat.lt_of_not_le short
    have ends : cut (some b) t = t ↔ cutNote (t.drop b).length = t.drop b := by
      rw [cut_of_lt_length positive long, List.length_drop]
      nth_rewrite 3 [← List.take_append_drop b t]
      rw [List.append_cancel_left_eq]
    rw [ends, or_iff_right short]
    constructor
    · intro same
      have counts := congrArg List.length same
      rw [length_cutNote, length_ofNat_add_eq_iff] at counts
      rw [← same, counts]
      rfl
    · intro note
      rw [note]
      decide

end Cut

namespace Logger

theorem line_text_eq_iff (l : Logger) (m : Method) (message : Text) (texts : List (Text × Text)) :
    (l.line m message texts).text =
        Text.join " " [m.level, l.name, message] ++ pairs (some l.bound) " " texts ↔
      ∀ f ∈ texts, cut (some defaultBound) (cut (some l.bound) f.2) = cut (some l.bound) f.2 := by
  have line : (l.line m message texts).text = Text.join " " [m.level, l.name, message] ++
      pairs (some defaultBound) " " (texts.map (shown (some l.bound))) := rfl
  rw [line, List.append_cancel_left_eq, pairs_eq_pairs_shown,
    pairs_eq_pairs_shown (some l.bound), List.map_map, pairs_eq_iff_of_keys, List.map_inj_left]
  · simp [shown]
  · simp [shown]

/-- The line shows its fields as the logger's own bound cuts them exactly if every text
that was cut, its note included, fits into the line's bound or goes on after it with the
one note that counts itself. -/
theorem emit_line_eq_iff (l : Logger) (plain : l.json = false) (time : Moment) (m : Method)
    (message : Text) (fields : List (Text × Value)) (free : ∀ f ∈ fields, f.1 ∉ ownArguments) :
    let texts := fields.map fun f => (f.1, f.2.plain)
    ∃ e, l.emit time m message fields = .ok e ∧ e.message = message ∧
      (e.line = Text.join " " [m.level, l.name, message] ++ pairs (some l.bound) " " texts ↔
        ∀ f ∈ texts, (cut (some l.bound) f.2).length ≤ 1000 ∨
        (cut (some l.bound) f.2).drop 1000 = cutNote 23) := by
  intro texts
  have unused : fields.find? (fun f => ownArguments.contains f.1) = none := by
    simpa using free
  refine ⟨⟨m, message, (l.line m message texts).text⟩, ?_, rfl, ?_⟩
  · rw [emit, unused]
    simp [plain, texts]
  · have bound : defaultBound = (1000 : Nat) := rfl
    simp only [line_text_eq_iff, bound, cut_eq_self_iff (by decide : 0 < 1000)]

theorem emit_line_of_small_bound :
    let l := make "app" false (some 3)
    let time : Moment := ⟨⟨2024, 1, 2⟩, 3, 4, 5, 678901, some 0⟩
    let fields : List (Text × Value) := [("group", .text "wss://h'x"), ("roles", .int 2)]
    let texts : List (Text × Text) := [("group", "wss://h'x"), ("roles", "2")]
    l.json = false ∧ (∀ f ∈ fields, f.1 ∉ ownArguments) ∧
      ∃ e, l.emit time .info "loaded" fields = .ok e ∧ e.message = "loaded" ∧
        (e.line = Text.join " " ["info", "app", "loaded"] ++ pairs (some 3) " " texts ↔
          ∀ f ∈ texts, (cut (some 3) f.2).length ≤ 1000 ∨
          (cut (some 3) f.2).drop 1000 = cutNote 23) ∧
        e.line = "info app loaded group=\"wss...<truncated 6 chars>\" roles=2" := by
  intro l time fields texts
  have free : ∀ f ∈ fields, f.1 ∉ ownArguments := by decide
  obtain ⟨e, made, same, shows⟩ := emit_line_eq_iff l rfl time .info "loaded" fields free
  exact ⟨rfl, free, e, made, same, shows, (shows.mpr (by decide)).trans (by decide)⟩

/-- One character is more than the default bound takes. The line, whose bound is the same, cuts once
more, and counts the 22 characters of the first note instead of the one that is missing. -/
theorem emit_line_counts_note :
    let t : Text := List.replicate 1001 'a'
    let time : Moment := ⟨⟨2024, 1, 2⟩, 3, 4, 5, 678901, some 0⟩
    ∃ e, (make "app" false none).emit time .info "m" [("k", .text t)] = .ok e ∧
      e.line = "info app m k=\"" ++ List.replicate 1000 'a' ++ "...<truncated 22 chars>\"" ∧
      e.line ≠ Text.join " " ["info", "app", "m"] ++ pairs (some 1000) " " [("k", t)] := by
  intro t time
  generalize hs : List.replicate 1000 'a' = s
  have length : s.length = 1000 := by rw [← hs, List.length_replicate]
  have same : s.flatMap escapeInQuotes = s := by
    rw [← hs, List.flatMap_replicate]
    exact List.flatten_replicate_singleton
  have ht : t = s ++ ['a'] := by rw [← hs, ← List.replicate_succ']
  -- From here on only the length of the text counts, and its thousand characters must not be
  -- compared one by one.
  clear_value t
  have bound : defaultBound = (s.length : Nat) := by rw [length]; rfl
  have once : cut (some defaultBound) t = s ++ cutNote 1 := by
    rw [bound, ht]
    exact cut_append (by omega) (by simp)
  have twice : cut (some defaultBound) (s ++ cutNote 1) = s ++ cutNote 22 := by
    rw [bound]
    exact cut_append (by omega) (by decide)
  have quotes : quoteIfNeeded (s ++ cutNote 22) = '"' :: s ++ "...<truncated 22 chars>\"" := by
    have delicate : needsQuotes (s ++ cutNote 22) = true := by
      rw [needsQuotes, List.any_append, (by decide : (cutNote 22).any isDelicate = true)]
      simp
    have note : (cutNote 22).flatMap escapeInQuotes ++ ['"'] = "...<truncated 22 chars>\"" := by
      decide
    rw [quoteIfNeeded, if_pos delicate, List.flatMap_append, same, List.cons_append,
      List.append_assoc, note, List.cons_append]
  have line : ((make "app" false none).line .info "m" [("k", t)]).text =
      Text.join " " ["info", "app", "m"] ++
      pairs (some defaultBound) " " [("k", cut (some defaultBound) t)] := rfl
  refine ⟨⟨.info, "m", ((make "app" false none).line .info "m" [("k", t)]).text⟩, rfl, ?_,
    fun claimed => ?_⟩
  · have start : Text.join " " ["info", "app", "m"] ++ [' ', 'k', '=', '"'] =
        "info app m k=\"" := by decide
    rw [line, pairs_singleton, pair, once, twice, quotes, ← start]
    simp
  · have settled := (line_text_eq_iff _ _ _ _).mp claimed ("k", t) List.mem_cons_self
    have notes : cutNote 22 = cutNote 1 := by
      refine List.append_cancel_left (?_ : s ++ cutNote 22 = s ++ cutNote 1)
      rw [← once, ← twice, ← once]
      exact settled
    exact absurd notes (by decide)

end Logger

end GroupWire.Log
