/-!
# Pagination

A result window is given by an optional number of rows to skip (`offset`) and
an optional number of rows to keep (`limit`).  Applied to a list of rows it
skips `offset` rows, then keeps at most `limit`; an absent bound does nothing.

**Results.**
* `apply_eq_extract`: a window with both bounds drops `offset` rows and then
  takes `limit`.
-/

namespace RestQuery
namespace Request

/-- A window of result rows. -/
structure Pagination where
  limit : Option Nat := none
  offset : Option Nat := none
  deriving Repr, DecidableEq

namespace Pagination

/-- Whether neither bound is given. -/
def isEmpty (p : Pagination) : Bool :=
  p.limit.isNone && p.offset.isNone

/-- The rows inside the window. -/
def apply {α : Type} (p : Pagination) (rows : List α) : List α :=
  let skipped := rows.drop (p.offset.getD 0)
  match p.limit with
  | some l => skipped.take l
  | none => skipped

theorem apply_eq_extract {α : Type} (p : Pagination) (rows : List α) (o l : Nat)
    (ho : p.offset = some o) (hl : p.limit = some l) :
    p.apply rows = (rows.drop o).take l := by
  simp [apply, ho, hl]

end Pagination
end Request
end RestQuery
