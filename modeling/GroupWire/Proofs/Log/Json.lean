import Mathlib
import GroupWire.Log.Json
import GroupWire.Proofs.Text

/-! # Objects of texts read back

What is written as an object of texts is read back member by member: every character returns from
its escape, those beyond the basic plane from the two units of their pair. -/

namespace GroupWire.Text

theorem hexDigits_succ {width : Nat} (positive : 0 < width) (n : Nat) :
    hexDigits (width + 1) n = hexDigits width (n / 16) ++ [Nat.digitChar (n % 16)] := by
  unfold hexDigits padLeft
  rcases Nat.lt_or_ge n 16 with small | large
  · have zero : Nat.toDigits 16 (n / 16) = ['0'] := by rw [Nat.div_eq_of_lt small]; rfl
    have pad : List.replicate width '0' = List.replicate (width - 1) '0' ++ ['0'] := by
      rw [← List.replicate_succ', Nat.sub_add_cancel positive]
    rw [Nat.toDigits_of_lt_base small, zero, Nat.mod_eq_of_lt small, List.length_singleton,
      List.length_singleton, Nat.add_sub_cancel, pad]
  · rw [Nat.toDigits_of_base_le (by decide) large, List.length_append, List.length_singleton,
      Nat.add_sub_add_right, List.append_assoc]

theorem toNat_append_singleton (t : Text) {n : Nat} (h : n < 16) :
    toNat 16 (t ++ [Nat.digitChar n]) = toNat 16 t * 16 + n := by
  have digit : ∀ m < 16, (if (Nat.digitChar m).isDigit then (Nat.digitChar m).toNat - 48
      else (Nat.digitChar m).toLower.toNat - 87) = m := by decide
  unfold toNat
  rw [List.foldl_append, List.foldl_cons, List.foldl_nil, digit n h]

end GroupWire.Text

namespace GroupWire.Log.Json

/-! ## Units and characters -/

def isHighHalf (n : Nat) : Bool := 0xd800 ≤ n && n < 0xdc00

def isLowHalf (n : Nat) : Bool := 0xdc00 ≤ n && n < 0xe000

/-- Two halves make one character beyond the basic plane, and a half alone makes none. -/
def ofUnits? : List Nat → Option Text
  | [] => some []
  | n :: r =>
    if isHighHalf n then
      match r with
      | [] => none
      | k :: r =>
        if isLowHalf k then
          (ofUnits? r).map (Char.ofNat (0x10000 + (n - 0xd800) * 0x400 + (k - 0xdc00)) :: ·)
        else none
    else if isLowHalf n then none
    else (ofUnits? r).map (Char.ofNat n :: ·)

def units (c : Char) : List Nat :=
  if c.toNat < 0x10000 then [c.toNat]
  else [0xd800 + (c.toNat - 0x10000) / 0x400, 0xdc00 + (c.toNat - 0x10000) % 0x400]

theorem ofUnits?_units (c : Char) (r : List Nat) :
    ofUnits? (units c ++ r) = (ofUnits? r).map (c :: ·) := by
  have valid : c.toNat < 0xd800 ∨ 0xdfff < c.toNat ∧ c.toNat < 0x110000 := c.valid
  unfold units
  split
  · have whole : isHighHalf c.toNat = false ∧ isLowHalf c.toNat = false := by
      simp only [isHighHalf, isLowHalf, Bool.and_eq_false_iff, decide_eq_false_iff_not]
      omega
    rw [List.singleton_append, ofUnits?.eq_def]
    simp only [whole.1, whole.2, Char.ofNat_toNat, Bool.false_eq_true, if_false]
  · have high : isHighHalf (0xd800 + (c.toNat - 0x10000) / 0x400) = true := by
      simp only [isHighHalf, Bool.and_eq_true, decide_eq_true_eq]
      omega
    have low : isLowHalf (0xdc00 + (c.toNat - 0x10000) % 0x400) = true := by
      simp only [isLowHalf, Bool.and_eq_true, decide_eq_true_eq]
      omega
    have joined : 0x10000 + (0xd800 + (c.toNat - 0x10000) / 0x400 - 0xd800) * 0x400 +
        (0xdc00 + (c.toNat - 0x10000) % 0x400 - 0xdc00) = c.toNat := by omega
    rw [List.cons_append, List.singleton_append, ofUnits?, if_pos high]
    simp only [if_pos low, joined, Char.ofNat_toNat]

theorem ofUnits?_flatMap_units (t : Text) : ofUnits? (t.flatMap units) = some t := by
  induction t with
  | nil => rfl
  | cons c t ih => rw [List.flatMap_cons, ofUnits?_units, ih, Option.map_some]

/-! ## Strings -/

/-- What a character after a backslash stands for. -/
def unescape? : Char → Option Char
  | '"' => some '"'
  | '\\' => some '\\'
  | '/' => some '/'
  | 'b' => some '\x08'
  | 'f' => some '\x0c'
  | 'n' => some '\n'
  | 'r' => some '\r'
  | 't' => some '\t'
  | _ => none

/-- The number that four hex digits of either case write. -/
def unit? (digits : Text) : Option Nat :=
  if digits.all (fun c => isHexDigit c.toLower) then some (Text.toNat 16 digits) else none

/-- The units up to the closing quote, and what follows it. -/
def readUnits : Text → Option (List Nat × Text)
  | [] => none
  | '"' :: r => some ([], r)
  | '\\' :: 'u' :: a :: b :: c :: d :: r =>
    (unit? [a, b, c, d]).bind fun n => (readUnits r).map fun p => (n :: p.1, p.2)
  | '\\' :: c :: r => (unescape? c).bind fun d => (readUnits r).map fun p => (d.toNat :: p.1, p.2)
  | c :: r => if c < ' ' then none else (readUnits r).map fun p => (c.toNat :: p.1, p.2)

theorem hexDigits_digits {width n : Nat} (positive : 0 < width) (h : n < 16 ^ width) :
    (Text.hexDigits width n).length = width ∧
      (Text.hexDigits width n).all (fun c => isHexDigit c.toLower) = true ∧
      Text.toNat 16 (Text.hexDigits width n) = n := by
  induction width, positive using Nat.le_induction generalizing n with
  | base =>
    have all : ∀ m < 16, (Text.hexDigits 1 m).length = 1 ∧
        (Text.hexDigits 1 m).all (fun c => isHexDigit c.toLower) = true ∧
        Text.toNat 16 (Text.hexDigits 1 m) = m := by
      decide
    exact all n (by simpa using h)
  | succ width positive ih =>
    obtain ⟨length, digits, value⟩ := ih (n := n / 16) (Nat.div_lt_of_lt_mul (by rwa [← pow_succ']))
    have last : ∀ m < 16, isHexDigit (Nat.digitChar m).toLower = true := by decide
    have small : n % 16 < 16 := Nat.mod_lt _ (by decide)
    rw [Text.hexDigits_succ positive, Text.toNat_append_singleton _ small, List.length_append,
      length, List.all_append, digits, value]
    refine ⟨rfl, by simp [last _ small], by omega⟩

theorem readUnits_unitText {n : Nat} (h : n < 0x10000) (r : Text) :
    readUnits (unitText n ++ r) = (readUnits r).map fun p => (n :: p.1, p.2) := by
  obtain ⟨length, digits, value⟩ := hexDigits_digits (by decide : 0 < 4) h
  obtain ⟨a, b, c, d, four⟩ := List.length_eq_four.mp length
  rw [four] at digits value
  have start : unitText n ++ r = '\\' :: 'u' :: a :: b :: c :: d :: r := by
    rw [unitText, four]
    rfl
  rw [start, readUnits, unit?, if_pos digits, value]
  rfl

theorem readUnits_codeText (c : Char) (r : Text) :
    readUnits (codeText c.toNat ++ r) = (readUnits r).map fun p => (units c ++ p.1, p.2) := by
  have valid : c.toNat < 0x110000 := c.valid.elim (fun h => Nat.lt_trans h (by decide)) And.right
  unfold codeText units
  split
  · rename_i basic
    exact readUnits_unitText basic r
  · rw [List.append_assoc, readUnits_unitText (by omega), readUnits_unitText (by omega),
      Option.map_map]
    rfl

/-- A character is written by a letter after a backslash, as it is, or by its units. -/
theorem charText_cases (c : Char) :
    (∃ e, charText c = ['\\', e] ∧ unescape? e = some c ∧ c.toNat < 0x10000) ∨
      (charText c = [c] ∧ c ≠ '"' ∧ c ≠ '\\' ∧ ¬ c < ' ' ∧ c.toNat < 0x10000) ∨
      charText c = codeText c.toNat := by
  unfold charText
  split_ifs with mark line back tab bell page plain
  · left
    rcases Bool.or_eq_true_iff.mp mark with h | h
    · obtain rfl : c = '"' := by simpa using h
      exact ⟨'"', rfl, rfl, by decide⟩
    · obtain rfl : c = '\\' := by simpa using h
      exact ⟨'\\', rfl, rfl, by decide⟩
  · subst line
    exact .inl ⟨'n', rfl, rfl, by decide⟩
  · subst back
    exact .inl ⟨'r', rfl, rfl, by decide⟩
  · subst tab
    exact .inl ⟨'t', rfl, rfl, by decide⟩
  · subst bell
    exact .inl ⟨'b', rfl, rfl, by decide⟩
  · subst page
    exact .inl ⟨'f', rfl, rfl, by decide⟩
  · obtain ⟨low, high⟩ : ' ' ≤ c ∧ c ≤ '~' := by simpa using plain
    obtain ⟨quote, backslash⟩ : c ≠ '"' ∧ c ≠ '\\' := by simpa using mark
    have small : c.toNat ≤ 126 := UInt32.le_iff_toNat_le.mp high
    exact .inr (.inl ⟨rfl, quote, backslash, Char.not_lt.mpr low, by omega⟩)
  · exact .inr (.inr rfl)

theorem readUnits_charText (c : Char) (r : Text) :
    readUnits (charText c ++ r) = (readUnits r).map fun p => (units c ++ p.1, p.2) := by
  rcases charText_cases c with ⟨e, escaped, stands, basic⟩
    | ⟨plain, quote, backslash, printed, basic⟩ | code
  · have letter : e ≠ 'u' := by
      rintro rfl
      cases stands
    rw [escaped, units, if_pos basic]
    simp [readUnits, letter, stands]
  · rw [plain, units, if_pos basic]
    simp [readUnits, backslash, printed]
  · rw [code, readUnits_codeText]

theorem readUnits_flatMap_charText (t r : Text) :
    readUnits (t.flatMap charText ++ '"' :: r) = some (t.flatMap units, r) := by
  induction t with
  | nil => rfl
  | cons c t ih =>
    rw [List.flatMap_cons, List.append_assoc, readUnits_charText, ih, List.flatMap_cons]; rfl

/-! ## Tokens -/

def isSpace (c : Char) : Bool := c = ' ' || c = '\t' || c = '\n' || c = '\r'

/-- What follows a sign that may stand after white space. -/
def expect (sign : Char) (t : Text) : Option Text :=
  match t.dropWhile isSpace with
  | [] => none
  | c :: r => if c = sign then some r else none

theorem expect_cons {sign : Char} (solid : isSpace sign = false) (r : Text) :
    expect sign (sign :: r) = some r := by
  simp [expect, solid]

theorem length_of_expect {sign : Char} {t r : Text} (h : expect sign t = some r) :
    r.length < t.length := by
  have whole := (List.dropWhile_sublist isSpace (l := t)).length_le
  unfold expect at h
  split at h
  · cases h
  · rename_i c s rest
    obtain ⟨-, same⟩ := Option.ite_none_right_eq_some.mp h
    cases same
    rw [rest, List.length_cons] at whole
    omega

theorem length_of_readUnits {t r : Text} {ns : List Nat} (h : readUnits t = some (ns, r)) :
    r.length < t.length := by
  fun_induction readUnits t generalizing ns with
  | case1 => cases h
  | case2 =>
    cases h
    exact Nat.lt_succ_self _
  | case3 a b c d s ih =>
    obtain ⟨n, -, h⟩ := Option.bind_eq_some_iff.mp h
    obtain ⟨⟨ms, u⟩, inner, same⟩ := Option.map_eq_some_iff.mp h
    cases same
    have : u.length < s.length := ih inner
    simp only [List.length_cons]
    omega
  | case4 c s _ ih =>
    obtain ⟨d, -, h⟩ := Option.bind_eq_some_iff.mp h
    obtain ⟨⟨ms, u⟩, inner, same⟩ := Option.map_eq_some_iff.mp h
    cases same
    exact Nat.lt_succ_of_lt (Nat.lt_succ_of_lt (ih inner))
  | case5 => cases h
  | case6 c s _ _ _ _ ih =>
    obtain ⟨⟨ms, u⟩, inner, same⟩ := Option.map_eq_some_iff.mp h
    cases same
    exact Nat.lt_succ_of_lt (ih inner)

/-- The characters between two quotes, and what follows them. -/
def readString (t : Text) : Option (Text × Text) := do
  let r ← expect '"' t
  let (ns, rest) ← readUnits r
  let s ← ofUnits? ns
  some (s, rest)

theorem readString_string (s r : Text) : readString (string s ++ r) = some (s, r) := by
  have start : string s ++ r = '"' :: (s.flatMap charText ++ '"' :: r) := by simp [string]
  rw [start, readString, expect_cons (by decide), Option.bind_eq_bind, Option.bind_some,
    readUnits_flatMap_charText]
  simp [ofUnits?_flatMap_units]

theorem readString_space (r : Text) : readString (' ' :: r) = readString r := rfl

theorem length_of_readString {t s r : Text} (h : readString t = some (s, r)) :
    r.length < t.length := by
  obtain ⟨u, opened, h⟩ := Option.bind_eq_some_iff.mp h
  obtain ⟨⟨ns, v⟩, read, h⟩ := Option.bind_eq_some_iff.mp h
  obtain ⟨w, -, same⟩ := Option.bind_eq_some_iff.mp h
  cases same
  exact Nat.lt_trans (length_of_readUnits read) (length_of_expect opened)

/-! ## Objects -/

/-- The name and the text of a member, and what follows it. -/
def readMember (t : Text) : Option ((Text × Text) × Text) := do
  let (name, r) ← readString t
  let r ← expect ':' r
  let (value, rest) ← readString r
  some ((name, value), rest)

def memberText (m : Text × Text) : Text := string m.1 ++ ": " ++ string m.2

theorem readMember_memberText (m : Text × Text) (r : Text) :
    readMember (memberText m ++ r) = some (m, r) := by
  have parts : memberText m ++ r = string m.1 ++ ':' :: ' ' :: (string m.2 ++ r) := by
    simp [memberText]
  simp [parts, readMember, readString_string, expect_cons (by decide : isSpace ':' = false),
    readString_space]

theorem length_of_readMember {t r : Text} {m : Text × Text} (h : readMember t = some (m, r)) :
    r.length < t.length := by
  obtain ⟨⟨name, u⟩, first, h⟩ := Option.bind_eq_some_iff.mp h
  obtain ⟨v, colon, h⟩ := Option.bind_eq_some_iff.mp h
  obtain ⟨⟨value, w⟩, second, same⟩ := Option.bind_eq_some_iff.mp h
  cases same
  exact (length_of_readString second).trans
    ((length_of_expect colon).trans (length_of_readString first))

/-- The members up to the closing brace, which must come last. -/
def readMembers (t : Text) : Option (List (Text × Text)) :=
  match _h : readMember t with
  | none => none
  | some (m, r) =>
    match _h' : expect ',' r with
    | some r => (readMembers r).map (m :: ·)
    | none => (expect '\x7d' r).bind fun r => if r.all isSpace then some [m] else none
termination_by t.length
decreasing_by
  have := length_of_readMember _h
  have := length_of_expect _h'
  omega

def readObject (t : Text) : Option (List (Text × Text)) := do
  let r ← expect '\x7b' t
  match expect '\x7d' r with
  | some rest => if rest.all isSpace then some [] else none
  | none => readMembers r

theorem readMembers_eq (t : Text) : readMembers t = (readMember t).bind fun p =>
    match expect ',' p.2 with
    | some r => (readMembers r).map (p.1 :: ·)
    | none => (expect '\x7d' p.2).bind fun r => if r.all isSpace then some [p.1] else none := by
  rw [readMembers]
  split
  · rename_i unread
    rw [unread, Option.bind_none]
  · rename_i m r read
    rw [read, Option.bind_some]
    split <;> simp_all

theorem readMembers_space (t : Text) : readMembers (' ' :: t) = readMembers t := by
  rw [readMembers_eq, readMembers_eq t]
  rfl

theorem readMembers_join {members : List (Text × Text)} (filled : members ≠ []) :
    readMembers (Text.join ", " (members.map memberText) ++ ['\x7d']) = some members := by
  induction members with
  | nil => exact absurd rfl filled
  | cons m members ih =>
    cases members with
    | nil =>
      have last : Text.join ", " ([m].map memberText) ++ ['\x7d'] = memberText m ++ ['\x7d'] := by
        simp [Text.join]
      rw [last, readMembers_eq, readMember_memberText]
      rfl
    | cons n members =>
      have later := ih (List.cons_ne_nil n members)
      have whole : Text.join ", " ((m :: n :: members).map memberText) ++ ['\x7d'] =
          memberText m ++ ',' :: ' ' ::
          (Text.join ", " ((n :: members).map memberText) ++ ['\x7d']) := by
        simp [Text.join, List.intercalate_cons_cons]
      rw [whole, readMembers_eq, readMember_memberText, Option.bind_some]
      simp only [expect_cons (by decide : isSpace ',' = false), readMembers_space, later,
        Option.map_some]

/-- An object of texts is read back as the members it was written from. -/
theorem readObject_object (members : List (Text × Text)) :
    readObject (object (members.map fun m => (m.1, string m.2))) = some members := by
  have whole : object (members.map fun m => (m.1, string m.2)) =
      '\x7b' :: (Text.join ", " (members.map memberText) ++ ['\x7d']) := by
    rw [object, List.map_map]
    rfl
  rw [whole, readObject, expect_cons (by decide), Option.bind_eq_bind, Option.bind_some]
  by_cases filled : members = []
  · rw [filled]
    rfl
  · have first : expect '\x7d' (Text.join ", " (members.map memberText) ++ ['\x7d']) = none := by
      obtain ⟨m, others, rfl⟩ := List.exists_cons_of_ne_nil filled
      cases others <;> rfl
    rw [first]
    exact readMembers_join filled

end GroupWire.Log.Json
