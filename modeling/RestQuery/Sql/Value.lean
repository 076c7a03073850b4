import RestQuery.Number.Literal
import RestQuery.Number.Shortest

/-!
# Bound values

A statement is sent with its values apart: signed and unsigned 64-bit
integers, binary64 numbers, texts and booleans.

A filter operand is bound by what its text looks like (`ofText`): a
zero-padded numeral such as a postal code (longer than one byte, starting
with `0` but not with `0.`) stays text; otherwise a signed 64-bit integer
is bound as one, and a text with a decimal point that reads as a decimal is
bound as its binary64 value.  Everything else is text.

**Results.**
* `ofText_zero_padded`: a zero-padded numeral is bound as text.
-/

namespace RestQuery
namespace Sql

/-- A value bound to a statement. -/
inductive Value where
  | bigint (i : Int)
  | bigunsigned (n : Nat)
  | double (x : Number.Binary64)
  | string (s : String)
  | bool (b : Bool)
  deriving Repr

namespace Value

/-- Whether a text is a numeral kept as text for its leading zero. -/
def zeroPadded (raw : String) : Bool :=
  match raw.toList with
  | '0' :: c :: _ => c != '.'
  | _ => false

/-- The value an operand text is bound as. -/
def ofText (raw : String) : Value :=
  if zeroPadded raw then .string raw
  else
    match Number.parseInt64 raw with
    | some i => .bigint i
    | none =>
      if raw.toList.contains '.' then
        match Number.parseDecimal raw with
        | some x => .double x
        | none => .string raw
      else .string raw

/-- The name of the kind of a value. -/
def kind : Value → String
  | .bigint _ => "bigint"
  | .bigunsigned _ => "bigunsigned"
  | .double _ => "double"
  | .string _ => "string"
  | .bool _ => "bool"

theorem ofText_zero_padded (raw : String) (h : zeroPadded raw = true) : ofText raw = .string raw := by
  simp [ofText, h]

end Value
end Sql
end RestQuery
