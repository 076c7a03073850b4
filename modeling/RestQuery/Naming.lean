import RestQuery.Text.Case.Upper

/-!
# Names of models and columns

A request names things in snake case (`line_items`, `unit_price`) or camel
case (`unitPrice`), while models are registered under Pascal-case names
(`LineItems`) and columns are stored in snake case.  Four conversions connect
the forms:

* `snakeToCamel`: every underscore that has a character after it is dropped
  and that character is written in upper case (`order_items` becomes
  `orderItems`); a final underscore stays.
* `capitalizeFirst`: the first character is written in upper case.
* `pascal`: both, in that order; it turns a route or a path segment into the
  name of a model (`line_items` becomes `LineItems`).
* `columnCase`: a camel-case name that starts with an ASCII small letter is
  written in snake case (`unitPrice` becomes `unit_price`): every ASCII
  capital becomes small, with an underscore before it when it follows an ASCII
  small letter or digit.  Any other name is kept.

Upper case is the full Unicode mapping of `Text.Case.upper`, so one character
may become several (`_ß` gives `SS`).

**Results.**
* `columnCase_of_not_lower`: a name that does not start with an ASCII small
  letter is kept as it is.
-/

namespace RestQuery
namespace Naming

open Text.Case

/-- Drops each underscore that has a successor and writes the successor in upper case. -/
def camelChars : List Char → List Char
  | [] => []
  | '_' :: c :: rest => upper c ++ camelChars rest
  | c :: rest => c :: camelChars rest

/-- Snake case to camel case: `order_items` becomes `orderItems`. -/
def snakeToCamel (s : String) : String :=
  String.ofList (camelChars s.toList)

/-- Writes the first character in upper case. -/
def capitalizeFirst (s : String) : String :=
  match s.toList with
  | [] => ""
  | c :: rest => String.ofList (upper c ++ rest)

/-- The model name for a route or a path segment: `line_items` becomes `LineItems`. -/
def pascal (s : String) : String :=
  capitalizeFirst (snakeToCamel s)

/-- Whether a character is an ASCII small letter. -/
def isAsciiLower (c : Char) : Bool :=
  'a' ≤ c && c ≤ 'z'

/-- Whether a character is an ASCII capital letter. -/
def isAsciiUpper (c : Char) : Bool :=
  'A' ≤ c && c ≤ 'Z'

/-- Whether a character is an ASCII digit. -/
def isAsciiDigit (c : Char) : Bool :=
  '0' ≤ c && c ≤ '9'

/-- Snake case of the characters `cs`, where `prev` is the character before them. -/
def snakeChars (prev : Option Char) : List Char → List Char
  | [] => []
  | c :: rest =>
    let here :=
      if isAsciiUpper c then
        match prev with
        | some p => if isAsciiLower p || isAsciiDigit p then ['_', c.toLower] else [c.toLower]
        | none => [c.toLower]
      else [c]
    here ++ snakeChars (some c) rest

/-- The stored column name for a requested one: `unitPrice` becomes `unit_price`. -/
def columnCase (s : String) : String :=
  match s.toList with
  | c :: _ => if isAsciiLower c then String.ofList (snakeChars none s.toList) else s
  | [] => s

theorem columnCase_of_not_lower (s : String) (c : Char) (rest : List Char)
    (hs : s.toList = c :: rest) (hc : isAsciiLower c = false) : columnCase s = s := by
  simp [columnCase, hs, hc]

end Naming
end RestQuery
