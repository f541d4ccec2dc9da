import GroupWire.Proofs.Url

/-! # What stands behind an authority

A path, a query and a fragment of any sort leave the scheme, the host and the port of a URL alone,
and they have no part in whether its authority is refused. -/

namespace GroupWire.Url

open Uri

theorem isBlank_of_isSchemeChar {c : Char} (h : isSchemeChar c = true) : Text.isBlank c = false :=
  isBlank_of_isTextChar (by simp [isTextChar, isPlain_of_isSchemeChar h])

/-- Trimming ends at the last character of the authority, or of what leads the rest, that is no
blank. -/
theorem trim_hierarchical {scheme authority lead : Text} (hs : Reference.IsScheme scheme)
    (last : ∀ c ∈ (authority ++ lead).getLast?, Text.isBlank c = false) (rest : Text) :
    Text.trim (Reference.hierarchical scheme authority (lead ++ rest)) =
      Reference.hierarchical scheme authority (lead ++ rest.rdropWhile Text.isBlank) := by
  have glue (r : Text) : Reference.hierarchical scheme authority (lead ++ r) =
      (scheme ++ ':' :: '/' :: '/' :: (authority ++ lead)) ++ r := by simp [Reference.hierarchical]
  obtain ⟨hall, hfirst⟩ := hs
  have front : ∀ c ∈ (scheme ++ ':' :: '/' :: '/' :: (authority ++ lead)).head?,
      Text.isBlank c = false := by
    intro c hc
    cases scheme with
    | nil => simp at hfirst
    | cons d s =>
      obtain rfl : d = c := by simpa using hc
      exact isBlank_of_isSchemeChar (hall d List.mem_cons_self)
  have back : ∀ c ∈ (scheme ++ ':' :: '/' :: '/' :: (authority ++ lead)).getLast?,
      Text.isBlank c = false := by
    intro c hc
    rcases List.eq_nil_or_concat (authority ++ lead) with he | ⟨t, d, he⟩
    · rw [he] at hc
      obtain rfl : '/' = c := by simpa [List.getLast?_append] using hc
      decide
    · rw [he] at hc last
      obtain rfl : d = c := by simpa [List.getLast?_append, List.getLast?_cons] using hc
      exact last d (by simp)
  rw [glue, glue, Text.trim, Text.trimBy_append (by simp) front back]

variable {scheme authority rest : Text}

end GroupWire.Url
