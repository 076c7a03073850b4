import RestQuery.Number.Binary64

/-!
# Shortest decimal text of a binary64 value

A finite value is written with the fewest significant digits that read back
as the same value, and of those the ones nearest to it; an exact tie between
two such candidates goes to the even last digit.  The digits are written
positionally, never with an exponent: `1500`, `0.0015`, `1` (no `.0`), and
for the largest value all 309 digits.  A negative value, negative zero
included, starts with `-`; the infinities are `inf` and `-inf`.

The values that read back as `m · 2 ^ e` form an interval around it whose
ends lie half way to the neighbouring values; the lower neighbour is nearer
when `m` is the least normal mantissa.  The ends belong to the interval when
`m` is even, since a tie then rounds to `m`.  For one, two, … digits the two
decimal neighbours of the value on that grid are tested in exact arithmetic;
the first grid with a neighbour inside the interval gives the digits.

**Results.**
* `render_infinite`: the texts of the infinities.

`renderCompact` writes the same digits with a point always present and an
exponent for very large and very small values.
-/

namespace RestQuery
namespace Number

/-- Compares `a · 10 ^ t` with `b · 2 ^ f` exactly. -/
def compareScaled (a : Nat) (t : Int) (b : Nat) (f : Int) : Ordering :=
  compare (a * Nat.pow 10 t.toNat * Nat.pow 2 (-f).toNat) (b * Nat.pow 2 f.toNat * Nat.pow 10 (-t).toNat)

/-- The decimal exponent of a positive value `m · 2 ^ e`: the `k` with
`10 ^ k ≤ m · 2 ^ e < 10 ^ (k + 1)`. -/
def decimalExponent (m : Nat) (e : Int) : Int :=
  let d := Nat.pow 2 (-e).toNat
  let n := m * Nat.pow 2 e.toNat
  if n ≥ d then (decimalLength (n / d) : Int) - 1
  else
    -- the least `j` with `n · 10 ^ j ≥ d`
    let c := (d + n - 1) / n
    let j := decimalLength c - 1
    if Nat.pow 10 j = c then -(j : Int) else -((j : Int) + 1)

/-- Whether `a · 10 ^ t` lies in the interval from `lo · 2 ^ f` to `hi · 2 ^ f`, ends included
when `closed` holds. -/
def inInterval (closed : Bool) (a : Nat) (t : Int) (lo hi : Nat) (f : Int) : Bool :=
  let above := compareScaled a t lo f
  let below := compareScaled a t hi f
  if closed then above != .lt && below != .gt else above == .gt && below == .lt

/-- Digits `d` and exponent `t`, meaning `d · 10 ^ t`, of the shortest decimal that reads back
as the positive value `m · 2 ^ e`, searching grids of `p`, `p + 1`, … significant digits. -/
def shortestFrom (m : Nat) (e : Int) (k : Int) : Nat → Nat → Nat × Int
  | 0, _ => (m, 0)
  | fuel + 1, p =>
    -- interval ends and value in units of 2 ^ (e - 2)
    let closed := m % 2 = 0
    let v := 4 * m
    let lo := if m = Nat.pow 2 52 ∧ e > minExponent then v - 1 else v - 2
    let hi := v + 2
    let f := e - 2
    let t : Int := k - (p : Int) + 1
    -- the grid point at or below the value, and the one above it
    let a := if 0 ≤ t then m * Nat.pow 2 e.toNat / (Nat.pow 2 (-e).toNat * Nat.pow 10 t.toNat)
      else m * Nat.pow 2 e.toNat * Nat.pow 10 (-t).toNat / Nat.pow 2 (-e).toNat
    let b := a + 1
    let aIn := inInterval closed a t lo hi f
    let bIn := inInterval closed b t lo hi f
    if aIn && bIn then
      -- the nearer one; a tie goes to the even digit
      match compare (2 * m * Nat.pow 2 e.toNat * Nat.pow 10 (-t).toNat)
          ((a + b) * Nat.pow 10 t.toNat * Nat.pow 2 (-e).toNat) with
      | .lt => (a, t)
      | .gt => (b, t)
      | .eq => if a % 2 = 0 then (a, t) else (b, t)
    else if aIn then (a, t)
    else if bIn then (b, t)
    else shortestFrom m e k fuel (p + 1)

/-- Digits and exponent of the shortest decimal of a positive value `m · 2 ^ e`, with trailing
zeros moved into the exponent. -/
def shortest (m : Nat) (e : Int) : Nat × Int :=
  let (d, t) := shortestFrom m e (decimalExponent m e) 18 1
  stripZeros d t 20
where
  /-- Moves trailing zero digits into the exponent. -/
  stripZeros (d : Nat) (t : Int) : Nat → Nat × Int
    | 0 => (d, t)
    | fuel + 1 => if d ≠ 0 ∧ d % 10 = 0 then stripZeros (d / 10) (t + 1) fuel else (d, t)

/-- `n` zeros. -/
def zeros (n : Nat) : String :=
  String.ofList (List.replicate n '0')

/-- Positional text of `d · 10 ^ t`. -/
def positional (d : Nat) (t : Int) : String :=
  let ds := toString d
  let n := ds.length
  -- the position of the decimal point, counted from the first digit
  let point : Int := (n : Int) + t
  if t ≥ 0 then ds ++ zeros t.toNat
  else if point ≤ 0 then "0." ++ zeros (-point).toNat ++ ds
  else
    let cs := ds.toList
    String.ofList (cs.take point.toNat) ++ "." ++ String.ofList (cs.drop point.toNat)

/-- The text of a binary64 value. -/
def Binary64.render : Binary64 → String
  | .infinite negative => if negative then "-inf" else "inf"
  | .finite negative m e =>
    let sign := if negative then "-" else ""
    if m = 0 then sign ++ "0"
    else
      let (d, t) := shortest m e
      sign ++ positional d t

/-- The compact text of a binary64 value: the shortest digits, written positionally while
the value lies from `1e-5` to below `1e16`, an integral value with `.0` (`1500.0`), and
otherwise as one digit, the others after a point, and the power of ten with its sign
(`1e+30`, `1.234e-7`).  Zero is `0.0`, with its sign. -/
def Binary64.renderCompact : Binary64 → String
  | .infinite negative => if negative then "-inf" else "inf"
  | .finite negative m e =>
    let sign := if negative then "-" else ""
    if m = 0 then sign ++ "0.0"
    else
      let (d, t) := shortest m e
      let cs := (toString d).toList
      let n : Int := cs.length
      -- the position of the decimal point, counted from the first digit
      let point := n + t
      let body :=
        if 0 ≤ t ∧ point ≤ 16 then String.ofList cs ++ zeros t.toNat ++ ".0"
        else if 0 < point ∧ point ≤ 16 then
          String.ofList (cs.take point.toNat) ++ "." ++ String.ofList (cs.drop point.toNat)
        else if -5 < point ∧ point ≤ 0 then "0." ++ zeros (-point).toNat ++ String.ofList cs
        else
          let exp := point - 1
          let mark := if 0 ≤ exp then "e+" else "e"
          if n = 1 then String.ofList cs ++ mark ++ toString exp
          else String.ofList (cs.take 1) ++ "." ++ String.ofList (cs.drop 1) ++ mark ++ toString exp
      sign ++ body

theorem render_infinite :
    (Binary64.infinite false).render = "inf" ∧ (Binary64.infinite true).render = "-inf" := by
  simp [Binary64.render]

end Number
end RestQuery
