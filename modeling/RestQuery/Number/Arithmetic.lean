import RestQuery.Number.Binary64

/-!
# Arithmetic on binary64 magnitudes

A product, quotient or sum of two finite non-negative binary64 values is
the exact result rounded once, to the nearest value with a tie going to the
even mantissa, and infinite past the largest finite magnitude.  A finite
magnitude `m · 2 ^ e` is the fraction `m · 2 ^ max e 0 / 2 ^ max (-e) 0`,
so each operation forms the exact fraction on natural numbers and hands it
to `roundFraction`.  Signs are left to the caller: the operations here take
magnitudes.

**Scaling by powers of ten.**  A decimal `s · 10 ^ k` can be read in
steps instead of at once: `s` is rounded to binary64, and then multiplied by
the binary64 nearest `10 ^ k`, or divided by the one nearest `10 ^ -k`.  Only
powers up to `10 ^ 308` are used: a smaller `k` first divides by `1e308`,
and again, until `k` is within reach or the value is zero.  Each step
rounds, so the result may differ from the nearest value in the last place
(`12345678901234567.0` reads as `12345678901234566`); a product that is
infinite makes the decimal out of range.

**Results.**
* `ofFraction_zero`: the fraction zero is the zero value.
* `roundProduct_zero`: zero times any magnitude is zero.
-/

namespace RestQuery
namespace Number
namespace Binary64

/-- The zero value with a sign. -/
def zero (negative : Bool) : Binary64 :=
  .finite negative 0 minExponent

/-- The value with the other sign. -/
def negate : Binary64 → Binary64
  | .finite negative m e => .finite (!negative) m e
  | .infinite negative => .infinite (!negative)

/-- The value nearest the non-negative fraction `num / den`, for a positive `den`. -/
def ofFraction (num den : Nat) : Binary64 :=
  if num = 0 then zero false
  else
    let (m, e) := roundFraction num den
    if e > maxExponent then .infinite false else .finite false m e

/-- The value nearest a natural number. -/
def ofNat (n : Nat) : Binary64 :=
  ofFraction n 1

/-- The numerator of the magnitude `m · 2 ^ e` as a fraction. -/
def numerator (m : Nat) (e : Int) : Nat :=
  m * Nat.pow 2 (max e 0).toNat

/-- The denominator of the magnitude `m · 2 ^ e` as a fraction. -/
def denominator (e : Int) : Nat :=
  Nat.pow 2 (max (-e) 0).toNat

/-- The rounded product of the magnitudes `m · 2 ^ e` and `n · 2 ^ f`. -/
def roundProduct (m : Nat) (e : Int) (n : Nat) (f : Int) : Binary64 :=
  ofFraction (numerator m e * numerator n f) (denominator e * denominator f)

/-- The rounded quotient of the magnitudes `m · 2 ^ e` and `n · 2 ^ f`; a zero divisor
gives infinity. -/
def roundQuotient (m : Nat) (e : Int) (n : Nat) (f : Int) : Binary64 :=
  if n = 0 then .infinite false
  else ofFraction (numerator m e * denominator f) (denominator e * numerator n f)

/-- The rounded sum of the magnitudes `m · 2 ^ e` and `n · 2 ^ f`. -/
def roundSum (m : Nat) (e : Int) (n : Nat) (f : Int) : Binary64 :=
  ofFraction (numerator m e * denominator f + numerator n f * denominator e)
    (denominator e * denominator f)

/-- Whether the finite magnitude `m · 2 ^ e` is less than `n · 2 ^ f`. -/
def magnitudeLt (m : Nat) (e : Int) (n : Nat) (f : Int) : Bool :=
  decide (numerator m e * denominator f < numerator n f * denominator e)

/-- The sum of two non-negative values, rounded; an infinite operand gives infinity. -/
def addMagnitudes : Binary64 → Binary64 → Binary64
  | .finite _ m e, .finite _ n f => roundSum m e n f
  | _, _ => .infinite false

/-- Whether one non-negative value is less than another. -/
def ltMagnitudes : Binary64 → Binary64 → Bool
  | .finite _ m e, .finite _ n f => magnitudeLt m e n f
  | .finite _ _ _, .infinite _ => true
  | .infinite _, _ => false

/-- The mantissa and exponent of the binary64 value nearest `10 ^ k`, for `k ≤ 308`. -/
def tenPower (k : Nat) : Nat × Int :=
  match ofDecimal false 1 k with
  | .finite _ m e => (m, e)
  | .infinite _ => (0, 0)

/-- The steps of reading `m · 2 ^ e · 10 ^ k`; `fuel` bounds the divisions by `1e308`.  `none`
when a product is infinite or the exponent is too large for a value that is not zero. -/
def scaleByTen (m : Nat) (e : Int) (k : Int) : Nat → Option Binary64
  | 0 => some (zero false)
  | fuel + 1 =>
    if k.natAbs ≤ 308 then
      let (p, q) := tenPower k.natAbs
      if 0 ≤ k then
        match roundProduct m e p q with
        | .infinite _ => none
        | x => some x
      else some (roundQuotient m e p q)
    else if m = 0 then some (.finite false m e)
    else if 0 ≤ k then none
    else
      let (p, q) := tenPower 308
      match roundQuotient m e p q with
      | .finite _ m' e' => scaleByTen m' e' (k + 308) fuel
      | .infinite _ => none

/-- The decimal `± significand · 10 ^ exponent` read in steps; `none` when it is out of range.
Three divisions by `1e308` take any significand below `2 ^ 64` to zero, so eight steps are
enough. -/
def scaledDecimal (negative : Bool) (significand : Nat) (exponent : Int) : Option Binary64 :=
  match ofNat significand with
  | .finite _ m e =>
    (scaleByTen m e exponent 8).map fun x => if negative then x.negate else x
  | .infinite _ => none

theorem ofFraction_zero (den : Nat) : ofFraction 0 den = zero false := by
  simp [ofFraction]

theorem roundProduct_zero (e : Int) (n : Nat) (f : Int) : roundProduct 0 e n f = zero false := by
  simp [roundProduct, numerator, ofFraction]

end Binary64
end Number
end RestQuery
