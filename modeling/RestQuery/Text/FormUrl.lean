import RestQuery.Text.Split
import RestQuery.Text.Utf8

/-!
# Form-encoded query strings

A query string is a list of pieces separated by `&`; empty pieces are
skipped.  A piece is a name and a value, separated by its first `=`; a
piece without `=` has the empty value.  Both are decoded alike: `+` stands
for a blank, then `%` with two hexadecimal digits stands for the byte they
spell, and any other `%` for itself; the bytes are read as UTF-8, with
replacement characters for what is not.

**Results.**
* `percentDecode_plain`: bytes without `%` decode to themselves.
-/

namespace RestQuery
namespace Text
namespace FormUrl

/-- The value of a hexadecimal digit. -/
def hexValue (b : UInt8) : Option Nat :=
  let n := b.toNat
  if 0x30 ≤ n ∧ n ≤ 0x39 then some (n - 0x30)
  else if 0x41 ≤ n ∧ n ≤ 0x46 then some (n - 0x41 + 10)
  else if 0x61 ≤ n ∧ n ≤ 0x66 then some (n - 0x61 + 10)
  else none

/-- Replaces every `%` followed by two hexadecimal digits with the byte they spell. -/
def percentDecode : List UInt8 → List UInt8
  | [] => []
  | b :: h :: l :: rest =>
    if b = 0x25 then
      match hexValue h, hexValue l with
      | some x, some y => (16 * x + y).toUInt8 :: percentDecode rest
      | _, _ => b :: percentDecode (h :: l :: rest)
    else b :: percentDecode (h :: l :: rest)
  | b :: tail => b :: percentDecode tail
termination_by bs => bs.length

/-- Decodes a name or a value. -/
def decodeComponent (s : String) : String :=
  let bytes := (Utf8.encode s).map fun b => if b = 0x2B then 0x20 else b
  String.ofList (Utf8.decode (percentDecode bytes))

/-- The decoded name and value of each non-empty piece, in order. -/
def pairs (query : String) : List (String × String) :=
  (split query '&').filter (fun piece => !piece.isEmpty) |>.map fun piece =>
    let (name, value) := (splitOnce piece '=').getD (piece, "")
    (decodeComponent name, decodeComponent value)

theorem percentDecode_plain (bs : List UInt8) (h : ∀ b ∈ bs, b ≠ 0x25) : percentDecode bs = bs := by
  induction bs using percentDecode.induct with
  | case1 => simp [percentDecode]
  | case2 => exact absurd rfl (h 37 (by simp))
  | case3 => exact absurd rfl (h 37 (by simp))
  | case4 b x y rest hb ih =>
    rw [percentDecode, if_neg hb, ih (fun z hz => h z (List.mem_cons_of_mem b hz))]
  | case5 b tail hshort ih =>
    have hb : b ≠ 0x25 := h b (by simp)
    cases tail with
    | nil => simp [percentDecode]
    | cons x more =>
      cases more with
      | nil => simp [percentDecode, ih (fun z hz => h z (List.mem_cons_of_mem b hz))]
      | cons y rest => exact absurd rfl (hshort x y rest)

end FormUrl
end Text
end RestQuery
