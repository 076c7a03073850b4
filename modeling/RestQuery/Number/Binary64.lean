/-!
# Binary64 values

A double-precision value is kept by its sign and magnitude: a finite
magnitude is `mantissa · 2 ^ exponent` with `exponent ≥ -1074` and
`mantissa < 2 ^ 53`, normalised so that `mantissa ≥ 2 ^ 52` unless
`exponent = -1074` (the subnormal range and zero); beyond the largest finite
magnitude lie the two infinities.

`ofDecimal` turns `digits · 10 ^ exp10` into the nearest value, a tie going
to the even mantissa; a magnitude past the largest finite one, once rounded,
is infinite.  All arithmetic is exact on natural numbers.

**Results.**
* `ofDecimal_zero`: zero digits give zero, whatever the exponent.
-/

namespace RestQuery
namespace Number

/-- A binary64 value other than a NaN. -/
inductive Binary64 where
  /-- `± mantissa · 2 ^ exponent`. -/
  | finite (negative : Bool) (mantissa : Nat) (exponent : Int)
  /-- `± ∞`. -/
  | infinite (negative : Bool)
  deriving Repr, DecidableEq

/-- The least exponent: the unit of the subnormal range is `2 ^ -1074`. -/
def minExponent : Int := -1074

/-- The greatest exponent of a finite value. -/
def maxExponent : Int := 971

/-- The number of decimal digits of a positive number (one for zero). -/
def decimalLength (n : Nat) : Nat :=
  if h : n < 10 then 1 else decimalLength (n / 10) + 1
termination_by n
decreasing_by omega

/-- `n · 2 ^ k` for an integer `k`, rounded down when `k` is negative. -/
def shiftDown (n : Nat) (k : Int) : Nat :=
  if 0 ≤ k then n * Nat.pow 2 k.toNat else n / Nat.pow 2 (-k).toNat

/-- The quotient `num / den` rounded to the nearest integer, a tie going to the even one. -/
def roundHalfEven (num den : Nat) : Nat :=
  let q := num / den
  let r := num % den
  if 2 * r < den then q
  else if 2 * r > den then q + 1
  else if q % 2 = 0 then q else q + 1

/-- The rounded binary64 magnitude of the positive fraction `num / den`, as mantissa and
exponent, before overflow is considered. -/
def roundFraction (num den : Nat) : Nat × Int :=
  -- first guess of the exponent that puts the quotient in [2^52, 2^53)
  let guess : Int := (num.log2 : Int) - (den.log2 : Int) - 52
  -- the quotient at exponent `e` lies below 2^53 exactly when num < 2^53 · den · 2^e
  let fits (e : Int) : Bool := decide (shiftDown num (-e) < Nat.pow 2 53 * den)
  let e1 : Int := if fits (guess - 1) then guess - 1 else if fits guess then guess else guess + 1
  let e := max e1 minExponent
  let m := roundHalfEven (shiftDown num (max (-e) 0)) (shiftDown den (max e 0))
  if m = Nat.pow 2 53 then (Nat.pow 2 52, e + 1) else (m, e)

/-- The binary64 value nearest to `± digits · 10 ^ exp10`. -/
def ofDecimal (negative : Bool) (digits : Nat) (exp10 : Int) : Binary64 :=
  if digits = 0 then .finite negative 0 minExponent
  else
    let size : Int := decimalLength digits + exp10
    if size > 310 then .infinite negative
    else if size < -324 then .finite negative 0 minExponent
    else
      let num := digits * Nat.pow 10 exp10.toNat
      let den := Nat.pow 10 (-exp10).toNat
      let (m, e) := roundFraction num den
      if e > maxExponent then .infinite negative else .finite negative m e

theorem ofDecimal_zero (negative : Bool) (exp10 : Int) :
    ofDecimal negative 0 exp10 = .finite negative 0 minExponent := by
  simp [ofDecimal]

end Number
end RestQuery
