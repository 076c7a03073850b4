import RestQuery.Number.Shortest

/-!
# JSON values

A JSON value is null, a boolean, an integer, a binary64 number, a string,
an array, or an object whose fields keep the order they were written in (a
name may occur twice; nothing here merges them).

Values are written in the indented form: an array or object that is not
empty puts each element on a line of its own, indented two blanks deeper
than the line of its bracket, elements separated by commas and fields
written `"name": value`; empty ones are `[]` and `{}`.  In a string `"` and
`\` are escaped with a backslash, the control characters backspace, form
feed, newline, return and tab by their letters, and the other control
characters as `\u00XX` with lowercase hexadecimal digits; every other
character stands for itself.

**Results.**
* `quoteChars_plain`: a string of characters that need no escape is written
  as itself between quotes.
-/

namespace RestQuery
namespace Json

/-- A JSON value. -/
inductive Value where
  | null
  | bool (b : Bool)
  | int (i : Int)
  | float (x : Number.Binary64)
  | str (s : String)
  | arr (items : List Value)
  | obj (fields : List (String × Value))
  deriving Repr, Inhabited

/-- A list of strings as an array. -/
def strings (xs : List String) : Value :=
  .arr (xs.map .str)

/-- The text of a string value; other values have the empty text. -/
def Value.text : Value → String
  | .str s => s
  | _ => ""

/-- The texts of an array of strings; other values have none. -/
def Value.texts : Value → List String
  | .arr items => items.map Value.text
  | _ => []

/-- A lowercase hexadecimal digit. -/
def hexDigit (n : Nat) : Char :=
  if n < 10 then Char.ofNat (0x30 + n) else Char.ofNat (0x61 + n - 10)

/-- The escaped form of one character inside a string. -/
def escapeChar (c : Char) : List Char :=
  if c = '"' then ['\\', '"']
  else if c = '\\' then ['\\', '\\']
  else if c = '\n' then ['\\', 'n']
  else if c = '\r' then ['\\', 'r']
  else if c = '\t' then ['\\', 't']
  else if c.toNat = 8 then ['\\', 'b']
  else if c.toNat = 12 then ['\\', 'f']
  else if c.toNat < 0x20 then ['\\', 'u', '0', '0', hexDigit (c.toNat / 16), hexDigit (c.toNat % 16)]
  else [c]

/-- The characters of a string literal, quotes included. -/
def quoteChars (cs : List Char) : List Char :=
  '"' :: cs.flatMap escapeChar ++ ['"']

/-- A string literal. -/
def quote (s : String) : String :=
  String.ofList (quoteChars s.toList)

/-- The indentation of a nesting depth. -/
def indent (depth : Nat) : String :=
  String.ofList (List.replicate (2 * depth) ' ')

mutual

/-- The indented text of a value whose first line stands at `depth`. -/
def Value.pretty (depth : Nat) : Value → String
  | .null => "null"
  | .bool b => if b then "true" else "false"
  | .int i => toString i
  | .float x => x.render
  | .str s => quote s
  | .arr [] => "[]"
  | .arr (v :: vs) =>
    "[\n" ++ prettyItems (depth + 1) (v :: vs) ++ "\n" ++ indent depth ++ "]"
  | .obj [] => "\x7b\x7d"
  | .obj (f :: fs) =>
    "\x7b\n" ++ prettyFields (depth + 1) (f :: fs) ++ "\n" ++ indent depth ++ "\x7d"

/-- The elements of a non-empty array, one a line. -/
def prettyItems (depth : Nat) : List Value → String
  | [] => ""
  | [v] => indent depth ++ v.pretty depth
  | v :: vs => indent depth ++ v.pretty depth ++ ",\n" ++ prettyItems depth vs

/-- The fields of a non-empty object, one a line. -/
def prettyFields (depth : Nat) : List (String × Value) → String
  | [] => ""
  | [(k, v)] => indent depth ++ quote k ++ ": " ++ v.pretty depth
  | (k, v) :: fs => indent depth ++ quote k ++ ": " ++ v.pretty depth ++ ",\n" ++ prettyFields depth fs

end

/-- The indented text of a value. -/
def Value.render (v : Value) : String :=
  v.pretty 0

theorem quoteChars_plain (cs : List Char) (h : ∀ c ∈ cs, escapeChar c = [c]) :
    quoteChars cs = '"' :: cs ++ ['"'] := by
  have : cs.flatMap escapeChar = cs := by
    induction cs with
    | nil => rfl
    | cons c rest ih =>
      simp only [List.flatMap_cons, h c (by simp)]
      rw [ih (fun x hx => h x (by simp [hx]))]
      rfl
  simp [quoteChars, this]

end Json
end RestQuery
