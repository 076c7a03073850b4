/-!
# Blank characters and trimming

The request language treats as blank exactly the characters of the Unicode
property `White_Space`: the ASCII tab, line feed, vertical tab, form feed,
carriage return and space, the next-line control, the no-break space, the
Ogham space mark, the en quad through the hair space, the line and paragraph
separators, the narrow no-break space, the medium mathematical space and the
ideographic space.  That is twenty-five code points.

Trimming removes blank characters from one or both ends of a text; every
parameter, path segment and clause field of a request is trimmed this way.

**Results.**
* `isBlank_of_isWhitespace`: every character that core calls whitespace is
  blank here, so the set is a superset of the ASCII one.
-/

namespace RestQuery
namespace Text

/-- The code points of the Unicode `White_Space` property, as closed ranges. -/
def blankRanges : List (Nat × Nat) :=
  [(0x09, 0x0D), (0x20, 0x20), (0x85, 0x85), (0xA0, 0xA0), (0x1680, 0x1680),
   (0x2000, 0x200A), (0x2028, 0x2029), (0x202F, 0x202F), (0x205F, 0x205F),
   (0x3000, 0x3000)]

/-- A character is blank when its code point lies in one of `blankRanges`. -/
def isBlank (c : Char) : Bool :=
  blankRanges.any fun r => decide (r.1 ≤ c.toNat ∧ c.toNat ≤ r.2)

/-- Every character that core's `Char.isWhitespace` accepts is blank. -/
theorem isBlank_of_isWhitespace (c : Char) (h : c.isWhitespace = true) :
    isBlank c = true := by
  simp only [Char.isWhitespace, Bool.or_eq_true, decide_eq_true_eq] at h
  simp only [isBlank, blankRanges, List.any_cons, List.any_nil, Bool.or_eq_true,
    decide_eq_true_eq, Bool.or_false]
  have hv : c.toNat = c.val.toNat := rfl
  rcases h with ((h | h) | h) | h <;>
    · subst h
      decide

/-- The characters of a list after its leading blank characters. -/
def dropBlank (cs : List Char) : List Char :=
  cs.dropWhile isBlank

/-- Removes blank characters from the start of a text. -/
def trimStart (s : String) : String :=
  String.ofList (dropBlank s.toList)

/-- Removes blank characters from the end of a text. -/
def trimEnd (s : String) : String :=
  String.ofList (dropBlank s.toList.reverse).reverse

/-- Removes blank characters from both ends of a text. -/
def trim (s : String) : String :=
  trimEnd (trimStart s)

end Text
end RestQuery
