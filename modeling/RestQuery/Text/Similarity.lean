import RestQuery.Number.Arithmetic

/-!
# Jaro similarity

The Jaro similarity of two character sequences `a` and `b`, of lengths `n`
and `k`, counts their *matches*: each character of `a`, in order, claims the
first unclaimed equal character of `b` whose position is within
`max n k / 2 - 1` of its own.  With `m` matches, and `t` half the number of
places where the claimed characters of `a` and of `b`, each read in order,
differ, the similarity is `(m / n + m / k + (m - t) / m) / 3`.  It is `1` for
two empty sequences and `0` when only one is empty or nothing matches.

The similarity is a binary64 value: each quotient and each sum is rounded
as it is formed, from left to right, so a similarity that is `7 / 10` in
exact arithmetic may lie on either side of the binary64 value nearest
`0.7`.  A word *resembles* another when their similarity exceeds that value,
and of several candidates the most similar is suggested, the last one on a
tie.

**Results.**
* `similarity_empty`: two empty sequences are as similar as can be.
-/

namespace RestQuery
namespace Text

open Number

/-- The least similarity that does not count as resembling: the binary64 value nearest
`0.7`. -/
def resemblanceBound : Binary64 :=
  ofDecimal false 7 (-1)

/-- Whether a similarity exceeds `resemblanceBound`. -/
def resembles (x : Binary64) : Bool :=
  Binary64.ltMagnitudes resemblanceBound x

/-- The first unclaimed position from `lo` below `hi` that holds `c`. -/
def claimable (c : Char) (b : List Char) (claimed : List Bool) (lo hi : Nat) : Option Nat :=
  (List.range hi).find? fun j => lo ≤ j && b.getD j c == c && j < b.length && !claimed.getD j true

/-- The positions of `a` and of `b` that match, as marks. -/
def matchMarks (a b : List Char) : List Bool × List Bool :=
  let reach := max a.length b.length / 2 - 1
  a.zipIdx.foldl
    (fun (marks : List Bool × List Bool) (ci : Char × Nat) =>
      let (c, i) := ci
      match claimable c b marks.2 (i - reach) (min b.length (i + reach + 1)) with
      | some j => (marks.1.set i true, marks.2.set j true)
      | none => marks)
    (List.replicate a.length false, List.replicate b.length false)

/-- The characters at the marked positions, in order. -/
def marked (cs : List Char) (marks : List Bool) : List Char :=
  (cs.zip marks).filterMap fun (c, m) => if m then some c else none

/-- The Jaro similarity of two character sequences, rounded step by step. -/
def similarity (a b : List Char) : Binary64 :=
  if a.isEmpty && b.isEmpty then Binary64.ofNat 1
  else if a.isEmpty || b.isEmpty then Binary64.zero false
  else
    let (ma, mb) := matchMarks a b
    let xs := marked a ma
    let ys := marked b mb
    let m := xs.length
    if m = 0 then Binary64.zero false
    else
      let t := ((xs.zip ys).filter fun (x, y) => x != y).length / 2
      let total := Binary64.addMagnitudes
        (Binary64.addMagnitudes (Binary64.ofFraction m a.length) (Binary64.ofFraction m b.length))
        (Binary64.ofFraction (m - t) m)
      match total with
      | .finite _ x e => Binary64.roundQuotient x e 3 0
      | .infinite _ => total

/-- The candidate most similar to a word among those that resemble it, the last one on a tie. -/
def mostSimilar (word : String) (candidates : List String) : Option String :=
  let scored := candidates.filterMap fun c =>
    let s := similarity word.toList c.toList
    if resembles s then some (s, c) else none
  (scored.foldl
    (fun (best : Option (Binary64 × String)) (sc : Binary64 × String) =>
      match best with
      | some (s, _) => if Binary64.ltMagnitudes sc.1 s then best else some sc
      | none => some sc)
    none).map (·.2)

theorem similarity_empty : similarity [] [] = Binary64.ofNat 1 := by
  simp [similarity]

end Text
end RestQuery
