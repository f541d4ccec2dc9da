import Mathlib
import GroupWire.Proofs.Text.Lowercase
import GroupWire.Value.Make

/-! # Policies told by their tokens

A policy is read from its token in either case and from no other text: the tokens have no letter
that is the small letter of a character beyond ASCII. -/

namespace GroupWire

/-- A word of small letters in which any letter may be a capital. -/
def InEitherCase (word t : Text) : Prop := List.Forall₂ (fun c d => c = d ∨ c = d.toUpper) t word

theorem InEitherCase.refl (word : Text) : InEitherCase word word :=
  List.forall₂_same.mpr fun _ _ => .inl rfl

/-- The letters of a token: small ones of ASCII, and not the one that is the small
letter of the sign for kelvin. -/
def isTokenLetter (d : Char) : Bool := 'a' ≤ d && d ≤ 'z' && d ≠ 'k'

section Letters

variable {c d : Char} {word : Text}

theorem isTokenLetter_ascii (h : isTokenLetter d = true) : d.toNat < 128 := by
  simp only [isTokenLetter, Bool.and_eq_true, decide_eq_true_eq, Char.le_def,
    UInt32.le_iff_toNat_le] at h
  exact Nat.lt_of_le_of_lt h.1.2 (by decide)

theorem toLower_of_either (h : isTokenLetter d = true) (either : c = d ∨ c = d.toUpper) :
    c.toNat < 128 ∧ c.toLower = d := by
  have letter := Text.of_ascii (P := fun d => isTokenLetter d = true →
    (d.toNat < 128 ∧ d.toLower = d) ∧ d.toUpper.toNat < 128 ∧ d.toUpper.toLower = d) (by decide)
    (isTokenLetter_ascii h) h
  rcases either with rfl | rfl
  · exact letter.1
  · exact letter.2

theorem either_of_smallLetter (h : isTokenLetter (Text.smallLetter c) = true) :
    c = Text.smallLetter c ∨ c = (Text.smallLetter c).toUpper := by
  by_cases hc : c.toNat < 128
  · rw [Text.smallLetter_of_ascii hc] at h ⊢
    exact Text.of_ascii (P := fun c => isTokenLetter c.toLower = true →
        c = c.toLower ∨ c = c.toLower.toUpper)
      (by decide) hc h
  · rw [Text.smallLetter_eq_k (Nat.le_of_not_lt hc) (isTokenLetter_ascii h)] at h
    exact absurd h (by decide)

theorem InEitherCase.toLower {t : Text} (letters : word.all isTokenLetter = true)
    (either : InEitherCase word t) : (∀ c ∈ t, c.toNat < 128) ∧ t.toLower = word := by
  induction either with
  | nil => exact ⟨by simp, rfl⟩
  | cons here _ ih =>
    obtain ⟨letter, letters⟩ := Bool.and_eq_true_iff.mp letters
    obtain ⟨ascii, small⟩ := toLower_of_either letter here
    obtain ⟨asciis, smalls⟩ := ih letters
    exact ⟨List.forall_mem_cons.mpr ⟨ascii, asciis⟩, congrArg₂ List.cons small smalls⟩

/-- In all scripts only the spellings of such a word in either case have its small letters. -/
theorem lowercase_eq_iff (letters : word.all isTokenLetter = true) (t : Text) :
    t.lowercase = word ↔ InEitherCase word t := by
  constructor
  · intro small
    have letter := List.all_eq_true.mp letters
    have ascii : ∀ c ∈ t.lowercase, c.toNat < 128 :=
      fun c hc => isTokenLetter_ascii (letter c (small ▸ hc))
    have same : t.map Text.smallLetter = word :=
      (Text.lowercaseFrom_of_ascii [] t ascii).symm.trans small
    rw [InEitherCase, ← same, List.forall₂_map_right_iff, List.forall₂_same]
    intro c hc
    exact either_of_smallLetter (letter _ (same ▸ List.mem_map_of_mem hc))
  · intro either
    obtain ⟨ascii, small⟩ := either.toLower letters
    rw [Text.lowercase_of_ascii ascii, small]

end Letters

/-! ## A parser of tokens -/

/-- A parser takes the tokens in either case, and what it reads is written so that it reads it
again. Any other text it refuses, in words that end in that text. -/
structure ReadsTokens {α : Type} (parse : Value → Except Error α) (token : α → Text)
    (fault : Text → Error) (words : Text) : Prop where
  accepts : ∀ t x, parse (.text t) = .ok x ↔ InEitherCase (token x) t
  again : ∀ x, parse (.text (token x)) = .ok x
  refuses : ∀ t, (∀ x, ¬ InEitherCase (token x) t) → parse (.text t) = .error (fault t)
  message : ∀ t, (fault t).message = words ++ t

section Tokens

variable {α : Type} {token : α → Text} {all : List α} {fault : Text → Error} {words : Text}

theorem find?_token_eq_some_iff (complete : ∀ x, x ∈ all) (injective : Function.Injective token)
    (t : Text) (x : α) : all.find? (fun y => token y = t) = some x ↔ token x = t := by
  constructor
  · intro found
    simpa using List.find?_some found
  · rintro rfl
    cases found : all.find? (fun y => token y = token x) with
    | none => simpa using List.find?_eq_none.mp found x (complete x)
    | some y =>
      have same : token y = token x := by simpa using List.find?_some found
      rw [injective same]

theorem readsTokens {parse : Value → Except Error α}
    (parse_eq : ∀ t, parse (.text t) =
      ((all.find? (fun x => token x = t.lowercase)).map .ok).getD (.error (fault t)))
    (complete : ∀ x, x ∈ all) (injective : Function.Injective token)
    (letters : ∀ x, (token x).all isTokenLetter = true)
    (message : ∀ t, (fault t).message = words ++ t) :
    ReadsTokens parse token fault words := by
  have found (t : Text) (x : α) :
      all.find? (fun y => token y = t.lowercase) = some x ↔ InEitherCase (token x) t := by
    rw [find?_token_eq_some_iff complete injective, eq_comm, lowercase_eq_iff (letters x)]
  have accepts (t : Text) (x : α) : parse (.text t) = .ok x ↔ InEitherCase (token x) t := by
    rw [parse_eq, ← found]
    cases all.find? (fun y => token y = t.lowercase) <;> simp
  refine ⟨accepts, fun x => (accepts _ x).mpr (.refl _), fun t unread => ?_, message⟩
  have lost : all.find? (fun y => token y = t.lowercase) = none :=
    Option.eq_none_iff_forall_ne_some.mpr fun x h => unread x ((found t x).mp h)
  rw [parse_eq, lost]
  rfl

/-- What is said of a refused text ends in it. -/
theorem message_choice (f : Family) (first second t : Text) :
    f.message (Error.choice first second t) = f.message (Error.choice first second []) ++ t := by
  unfold Family.message Error.choice
  split <;> simp

end Tokens

/-! ## The two policies -/

theorem Privacy.isTokenLetter_token (p : Privacy) : p.token.all isTokenLetter = true := by
  cases p <;> decide

theorem Access.isTokenLetter_token (a : Access) : a.token.all isTokenLetter = true := by
  cases a <;> decide

theorem Privacy.readsTokens : ReadsTokens Privacy.parseValue Privacy.token .privacy
    "Invalid privacy value: Expected 'public' or 'private', got: " := by
  have front : Error.privacyMessage [] =
      "Invalid privacy value: Expected 'public' or 'private', got: " := by
    decide +kernel
  refine GroupWire.readsTokens (fun _ => rfl) ?_ ?_ isTokenLetter_token fun t => ?_
  · rintro ⟨⟩ <;> decide
  · rintro ⟨⟩ ⟨⟩ <;> decide
  · exact (message_choice _ _ _ t).trans (congrArg (· ++ t) front)

theorem Access.readsTokens : ReadsTokens Access.parseValue Access.token .access
    "Invalid access model value: Expected 'open' or 'closed', got: " := by
  have front : Error.accessMessage [] =
      "Invalid access model value: Expected 'open' or 'closed', got: " := by
    decide +kernel
  refine GroupWire.readsTokens (fun _ => rfl) ?_ ?_ isTokenLetter_token fun t => ?_
  · rintro ⟨⟩ <;> decide
  · rintro ⟨⟩ ⟨⟩ <;> decide
  · exact (message_choice _ _ _ t).trans (congrArg (· ++ t) front)

/-- Each policy is told by its tokens in either case and by nothing else, and no text tells both. -/
theorem policies_told_by_tokens :
    ReadsTokens Privacy.parseValue Privacy.token .privacy
        "Invalid privacy value: Expected 'public' or 'private', got: " ∧
      ReadsTokens Access.parseValue Access.token .access
        "Invalid access model value: Expected 'open' or 'closed', got: " ∧
      ∀ t p a, ¬ (Privacy.parseValue (.text t) = .ok p ∧ Access.parseValue (.text t) = .ok a) := by
  refine ⟨Privacy.readsTokens, Access.readsTokens, ?_⟩
  rintro t p a ⟨reads, joins⟩
  have privacy := ((Privacy.readsTokens.accepts t p).mp reads).toLower p.isTokenLetter_token
  have access := ((Access.readsTokens.accepts t a).mp joins).toLower a.isTokenLetter_token
  have same : p.token = a.token := privacy.2.symm.trans access.2
  cases p <;> cases a <;> revert same <;> decide

end GroupWire
