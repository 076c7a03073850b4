/-!
# Splitting texts at a separator

Requests are cut into pieces at single separator characters: parameters at
`&`, groups at `;`, fields at `,`, paths at `.`.  The pieces are the maximal
runs between separators, so a text with `k` separators has `k + 1` pieces and
the empty text has one empty piece.  `splitOnce` and `splitLast` cut at the
first and at the last separator only.

**Results.**
* `join_splitOn`: joining the pieces with the separator gives the text back.
* `length_splitOn`: the number of pieces is one more than the number of
  separators.
-/

namespace RestQuery
namespace Text

/-- The pieces of a character list between occurrences of `sep`, built with the piece
that is still open (reversed) in `acc`. -/
def splitOnAux (sep : Char) (acc : List Char) : List Char → List (List Char)
  | [] => [acc.reverse]
  | c :: rest =>
    if c = sep then acc.reverse :: splitOnAux sep [] rest
    else splitOnAux sep (c :: acc) rest

/-- The pieces of a character list between occurrences of `sep`. -/
def splitOn (sep : Char) (cs : List Char) : List (List Char) :=
  splitOnAux sep [] cs

/-- The pieces of a text between occurrences of `sep`. -/
def split (s : String) (sep : Char) : List String :=
  (splitOn sep s.toList).map String.ofList

/-- Joins pieces with a separator between each two. -/
def joinWith (sep : Char) : List (List Char) → List Char
  | [] => []
  | [p] => p
  | p :: ps => p ++ sep :: joinWith sep ps

/-- The text before and after the first occurrence of `sep`, if there is one. -/
def splitOnceChars (sep : Char) : List Char → Option (List Char × List Char)
  | [] => none
  | c :: rest =>
    if c = sep then some ([], rest)
    else (splitOnceChars sep rest).map fun p => (c :: p.1, p.2)

/-- The text before and after the first occurrence of `sep`, if there is one. -/
def splitOnce (s : String) (sep : Char) : Option (String × String) :=
  (splitOnceChars sep s.toList).map fun p => (String.ofList p.1, String.ofList p.2)

/-- The text before and after the last occurrence of `sep`, if there is one. -/
def splitLast (s : String) (sep : Char) : Option (String × String) :=
  (splitOnceChars sep s.toList.reverse).map fun p =>
    (String.ofList p.2.reverse, String.ofList p.1.reverse)

theorem splitOnAux_ne_nil (sep : Char) (acc cs : List Char) : splitOnAux sep acc cs ≠ [] := by
  induction cs generalizing acc with
  | nil => simp [splitOnAux]
  | cons c rest ih =>
    simp only [splitOnAux]
    split
    · simp
    · exact ih _

theorem join_splitOnAux (sep : Char) (acc cs : List Char) :
    joinWith sep (splitOnAux sep acc cs) = acc.reverse ++ cs := by
  induction cs generalizing acc with
  | nil => simp [splitOnAux, joinWith]
  | cons c rest ih =>
    by_cases h : c = sep
    · subst h
      have hne := splitOnAux_ne_nil c [] rest
      obtain ⟨q, qs, hq⟩ : ∃ q qs, splitOnAux c [] rest = q :: qs := by
        cases hx : splitOnAux c [] rest with
        | nil => exact absurd hx hne
        | cons q qs => exact ⟨q, qs, rfl⟩
      have := ih []
      rw [hq] at this
      simp [splitOnAux, hq, joinWith, this]
    · simp [splitOnAux, h, ih]

theorem join_splitOn (sep : Char) (cs : List Char) : joinWith sep (splitOn sep cs) = cs := by
  simp [splitOn, join_splitOnAux]

theorem length_splitOnAux (sep : Char) (acc cs : List Char) :
    (splitOnAux sep acc cs).length = cs.count sep + 1 := by
  induction cs generalizing acc with
  | nil => simp [splitOnAux]
  | cons c rest ih =>
    by_cases h : c = sep
    · subst h
      simp [splitOnAux, ih]
    · simp [splitOnAux, h, ih]

theorem length_splitOn (sep : Char) (cs : List Char) :
    (splitOn sep cs).length = cs.count sep + 1 :=
  length_splitOnAux sep [] cs

end Text
end RestQuery
