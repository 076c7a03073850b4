import RestQuery.Number.Binary64

/-!
# Number literals

Request values are recognised as numbers by three grammars, all on ASCII
characters only and with nothing around the number:

* a 64-bit signed integer: an optional `+` or `-`, then one or more decimal
  digits, in the range from `-2^63` to `2^63 - 1`;
* a 64-bit unsigned integer: an optional `+`, then one or more digits, at
  most `2^64 - 1`;
* a decimal: an optional sign, digits with an optional decimal point (at
  least one digit in all), and an optional exponent `e` or `E` with an
  optional sign and at least one digit.  `1.`, `.5` and `1.e5` are decimals,
  `.` and `1e` are not.  Its value is the nearest binary64 value.

Leading zeros are allowed everywhere: `007` is seven.

**Results.**
* `digitsValue_append_digit`: a digit written after digits multiplies their
  value by ten and adds its own.
-/

namespace RestQuery
namespace Number

/-- Whether a character is an ASCII decimal digit. -/
def isDigit (c : Char) : Bool :=
  '0' ≤ c && c ≤ '9'

/-- The value of a list of digits read as a decimal numeral. -/
def digitsValue (ds : List Char) : Nat :=
  ds.foldl (fun acc c => 10 * acc + (c.toNat - '0'.toNat)) 0

/-- The value of one or more digits and nothing else. -/
def numeral? (ds : List Char) : Option Nat :=
  if ds ≠ [] ∧ ds.all isDigit then some (digitsValue ds) else none

/-- Reads a 64-bit signed integer. -/
def parseInt64 (s : String) : Option Int :=
  let value : Option Int :=
    match s.toList with
    | '+' :: ds => (numeral? ds).map Int.ofNat
    | '-' :: ds => (numeral? ds).map fun n => -(Int.ofNat n)
    | ds => (numeral? ds).map Int.ofNat
  value.bind fun v => if -(Nat.pow 2 63 : Int) ≤ v ∧ v < Nat.pow 2 63 then some v else none

/-- Reads a 64-bit unsigned integer. -/
def parseUInt64 (s : String) : Option Nat :=
  let value :=
    match s.toList with
    | '+' :: ds => numeral? ds
    | ds => numeral? ds
  value.bind fun v => if v < Nat.pow 2 64 then some v else none

/-- The exponent part after `e`: an optional sign and one or more digits. -/
def exponentValue? : List Char → Option Int
  | '+' :: ds => (numeral? ds).map Int.ofNat
  | '-' :: ds => (numeral? ds).map fun n => -(Int.ofNat n)
  | ds => (numeral? ds).map Int.ofNat

/-- Digits, the fraction digits after an optional point, and what follows. -/
def splitMantissa (cs : List Char) : List Char × List Char × List Char :=
  let whole := cs.takeWhile isDigit
  match cs.dropWhile isDigit with
  | '.' :: rest => (whole, rest.takeWhile isDigit, rest.dropWhile isDigit)
  | rest => (whole, [], rest)

/-- Reads an unsigned decimal as its digits and power of ten. -/
def decimalParts? (cs : List Char) : Option (Nat × Int) :=
  let (whole, fraction, rest) := splitMantissa cs
  if whole ++ fraction = [] then none
  else
    let exp? : Option Int :=
      match rest with
      | [] => some 0
      | c :: more => if c = 'e' ∨ c = 'E' then exponentValue? more else none
    exp?.map fun x => (digitsValue (whole ++ fraction), x - fraction.length)

/-- Reads a decimal as the nearest binary64 value. -/
def parseDecimal (s : String) : Option Binary64 :=
  let (negative, cs) :=
    match s.toList with
    | '-' :: rest => (true, rest)
    | '+' :: rest => (false, rest)
    | rest => (false, rest)
  (decimalParts? cs).map fun (d, x) => ofDecimal negative d x

theorem digitsValue_append_digit (ds : List Char) (c : Char) :
    digitsValue (ds ++ [c]) = 10 * digitsValue ds + (c.toNat - '0'.toNat) := by
  simp [digitsValue, List.foldl_append]

end Number
end RestQuery
