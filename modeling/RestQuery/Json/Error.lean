import RestQuery.Json.Value
import RestQuery.Text.Quoted

/-!
# Why a JSON document is refused

A document can be refused for its syntax, or for not having the shape a
reader expects of it.  A fault found while reading text carries the line
and column where it was found: lines count from one, and the column is the
number of bytes of the line read so far.  A fault found in a value that is
already parsed carries no position.

The wording follows one pattern per kind: `invalid type: null, expected a
string`, ``missing field `models` ``, ``unknown variant `oracle`, expected
one of `postgres`, `mysql`, `sqlite` ``, and a position is appended as
` at line 1 column 2`.
-/

namespace RestQuery
namespace Json

/-- What was found where something else was expected. -/
inductive Unexpected where
  | null
  | bool (b : Bool)
  | unsigned (n : Nat)
  | signed (i : Int)
  | float (x : Number.Binary64)
  | str (s : String)
  | seq
  | map
  deriving Repr

/-- The wording of what was found. -/
def Unexpected.message : Unexpected → String
  | .null => "null"
  | .bool b => "boolean `" ++ (if b then "true" else "false") ++ "`"
  | .unsigned n => "integer `" ++ toString n ++ "`"
  | .signed i => "integer `" ++ toString i ++ "`"
  | .float x => "floating point `" ++ x.renderCompact ++ "`"
  | .str s => "string " ++ Text.Quoted.quote s
  | .seq => "sequence"
  | .map => "map"

/-- What a value is, for a report. -/
def Value.unexpected : Value → Unexpected
  | .null => .null
  | .bool b => .bool b
  | .int i => if 0 ≤ i then .unsigned i.toNat else .signed i
  | .float x => .float x
  | .str s => .str s
  | .arr _ => .seq
  | .obj _ => .map

/-- A kind of fault. -/
inductive Fault where
  | eofWhileValue
  | eofWhileString
  | eofWhileList
  | eofWhileObject
  | expectedColon
  | expectedListCommaOrEnd
  | expectedObjectCommaOrEnd
  | expectedIdent
  | expectedValue
  | invalidEscape
  | invalidNumber
  | numberOutOfRange
  | invalidUnicodeCodePoint
  | controlCharacter
  | keyMustBeString
  | loneLeadingSurrogate
  | trailingComma
  | trailingCharacters
  | unexpectedEndOfHexEscape
  | recursionLimit
  | invalidType (found : Unexpected) (expected : String)
  | invalidValue (found : Unexpected) (expected : String)
  | invalidLength (length : Nat) (expected : String)
  | unknownVariant (name : String) (expected : List String)
  | missingField (name : String)
  | duplicateField (name : String)
  deriving Repr

/-- Names in backquotes: one, two joined by `or`, more as `one of` a list. -/
def oneOf (names : List String) : String :=
  let tick (n : String) := "`" ++ n ++ "`"
  match names with
  | [a] => tick a
  | [a, b] => tick a ++ " or " ++ tick b
  | _ => "one of " ++ String.intercalate ", " (names.map tick)

/-- The wording of a fault. -/
def Fault.message : Fault → String
  | .eofWhileValue => "EOF while parsing a value"
  | .eofWhileString => "EOF while parsing a string"
  | .eofWhileList => "EOF while parsing a list"
  | .eofWhileObject => "EOF while parsing an object"
  | .expectedColon => "expected `:`"
  | .expectedListCommaOrEnd => "expected `,` or `]`"
  | .expectedObjectCommaOrEnd => "expected `,` or `\x7d`"
  | .expectedIdent => "expected ident"
  | .expectedValue => "expected value"
  | .invalidEscape => "invalid escape"
  | .invalidNumber => "invalid number"
  | .numberOutOfRange => "number out of range"
  | .invalidUnicodeCodePoint => "invalid unicode code point"
  | .controlCharacter => "control character (\\u0000-\\u001F) found while parsing a string"
  | .keyMustBeString => "key must be a string"
  | .loneLeadingSurrogate => "lone leading surrogate in hex escape"
  | .trailingComma => "trailing comma"
  | .trailingCharacters => "trailing characters"
  | .unexpectedEndOfHexEscape => "unexpected end of hex escape"
  | .recursionLimit => "recursion limit exceeded"
  | .invalidType u e => "invalid type: " ++ u.message ++ ", expected " ++ e
  | .invalidValue u e => "invalid value: " ++ u.message ++ ", expected " ++ e
  | .invalidLength n e => "invalid length " ++ toString n ++ ", expected " ++ e
  | .unknownVariant n [] => "unknown variant `" ++ n ++ "`, there are no variants"
  | .unknownVariant n vs => "unknown variant `" ++ n ++ "`, expected " ++ oneOf vs
  | .missingField n => "missing field `" ++ n ++ "`"
  | .duplicateField n => "duplicate field `" ++ n ++ "`"

/-- A place in a text: a line counted from one and a column of bytes. -/
structure Position where
  line : Nat
  column : Nat
  deriving Repr, DecidableEq

/-- A fault, with the place in the text where it was found when there is one. -/
structure Error where
  fault : Fault
  position : Option Position := none
  deriving Repr

/-- The wording of an error. -/
def Error.message (e : Error) : String :=
  match e.position with
  | some p => e.fault.message ++ " at line " ++ toString p.line ++ " column " ++ toString p.column
  | none => e.fault.message

end Json
end RestQuery
