import RestQuery.Json.Decode

/-!
# Documents of any form

A document read without a shape becomes the value it spells.  A number is
an integer when it is written without point and exponent and lies from
`-2 ^ 63` to below `2 ^ 64`, and otherwise a binary64 value read in steps
(`Binary64.scaledDecimal`), so `1e+16` and `-0` are binary64 values.  An
object keeps one field per name, the last one written, and lists its fields
in the order of their names.  Arrays and objects nest at most 127 deep, and
after the document only blanks may follow.

A value is written compactly with no blanks at all: strings are escaped as
in the indented form, and a binary64 value is written in its compact form
(`0.5`, `1.0`, `1e+16`), which reads back as the same value.

**Results.**
* `insertField_new`: a field of a new name goes before the first field of a
  greater name.
-/

namespace RestQuery
namespace Json

/-- The value of a number as it was read. -/
def Unexpected.numberValue : Unexpected → Value
  | .unsigned n => .int n
  | .signed i => .int i
  | .float x => .float x
  | _ => .null

/-- Fields in the order of their names, with a field put in: it replaces the field of the
same name, or goes before the first field of a greater name. -/
def insertField (key : String) (v : Value) : List (String × Value) → List (String × Value)
  | [] => [(key, v)]
  | (k, w) :: rest =>
    if key = k then (key, v) :: rest
    else if key < k then (key, v) :: (k, w) :: rest
    else (k, w) :: insertField key v rest

theorem insertField_new (key k : String) (v w : Value) (rest : List (String × Value))
    (h : key < k) : insertField key v ((k, w) :: rest) = (key, v) :: (k, w) :: rest := by
  have hne : key ≠ k := fun e => by subst e; exact (String.lt_irrefl key) h
  simp [insertField, hne, h]

namespace Reader

mutual

/-- Reads a value of any form; `depth` is how many more brackets may open, plus one. -/
def readAny (depth : Nat) : Reader Value := placed do
  match ← skipBlank with
  | none => failAhead .eofWhileValue
  | some 'n' => do bump; word ['u', 'l', 'l']; pure .null
  | some 't' => do bump; word ['r', 'u', 'e']; pure (.bool true)
  | some 'f' => do bump; word ['a', 'l', 's', 'e']; pure (.bool false)
  | some '-' => do bump; Unexpected.numberValue <$> number true
  | some '"' => do bump; Value.str <$> string
  | some '[' =>
    if h : depth ≤ 1 then failAhead .recursionLimit
    else do
      bump
      let r ← attempt (readAnyItems (depth - 1) true ((← get).rest.length + 1) [])
      let e ← attempt endSeq
      Value.arr <$> settle r e
  | some '\x7b' =>
    if h : depth ≤ 1 then failAhead .recursionLimit
    else do
      bump
      let r ← attempt (readAnyFields (depth - 1) true ((← get).rest.length + 1) [])
      let e ← attempt endMap
      Value.obj <$> settle r e
  | some ch =>
    if Number.isDigit ch then Unexpected.numberValue <$> number false
    else failAhead .expectedValue
termination_by (depth, 0)

/-- Reads the elements of an array; `fuel` bounds their number. -/
def readAnyItems (depth : Nat) (first : Bool) : Nat → List Value → Reader (List Value)
  | 0, _ => failAhead .eofWhileList
  | fuel + 1, acc => do
    if ← hasNext first then
      let v ← readAny depth
      readAnyItems depth false fuel (acc ++ [v])
    else pure acc
termination_by fuel _ => (depth, fuel + 1)

/-- Reads the fields of an object; `fuel` bounds their number. -/
def readAnyFields (depth : Nat) (first : Bool) :
    Nat → List (String × Value) → Reader (List (String × Value))
  | 0, _ => failAhead .eofWhileObject
  | fuel + 1, found => do
    match ← nextKey first with
    | none => pure found
    | some key => do
      colon
      let v ← readAny depth
      readAnyFields depth false fuel (insertField key v found)
termination_by fuel _ => (depth, fuel + 1)

end

end Reader

/-- Reads a document of any form from text. -/
def Value.parse (text : String) : Except Error Value :=
  let whole : Reader Value := do
    let v ← Reader.readAny Reader.depthLimit
    match ← Reader.skipBlank with
    | some _ => Reader.failAhead .trailingCharacters
    | none => pure v
  (whole.run.run { rest := text.toList }).1

/-- The field of an object of the given name, if there is one. -/
def Value.field? (v : Value) (key : String) : Option Value :=
  match v with
  | .obj fields => fields.lookup key
  | _ => none

mutual

/-- The compact text of a value. -/
def Value.compact : Value → String
  | .null => "null"
  | .bool b => if b then "true" else "false"
  | .int i => toString i
  | .float x => x.renderCompact
  | .str s => quote s
  | .arr items => "[" ++ compactItems items ++ "]"
  | .obj fields => "\x7b" ++ compactFields fields ++ "\x7d"

/-- The compact text of the elements of an array, separated by commas. -/
def compactItems : List Value → String
  | [] => ""
  | [v] => v.compact
  | v :: vs => v.compact ++ "," ++ compactItems vs

/-- The compact text of the fields of an object, separated by commas. -/
def compactFields : List (String × Value) → String
  | [] => ""
  | [(k, v)] => quote k ++ ":" ++ v.compact
  | (k, v) :: fs => quote k ++ ":" ++ v.compact ++ "," ++ compactFields fs

end

end Json
end RestQuery
