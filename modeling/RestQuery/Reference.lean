import RestQuery.Text.Blank
import RestQuery.Text.Split

/-!
# Column references

A request refers to a column of a joined table by a dotted reference: the
path of relation segments, then the column, as in `orders.line_items.qty`.
The reference is trimmed and cut at its last dot: what stands before it is
split at every dot into the path, what stands after it is the column.  A
reference without a dot is a column of the root table.  Path segments are not
trimmed here; resolving them does that.

**Results.**
* `parse_of_no_dot`: a reference without a dot is a bare column.
-/

namespace RestQuery

/-- A column, reached through a path of relation segments from the root table. -/
structure Reference where
  path : List String
  column : String
  deriving Repr, DecidableEq

namespace Reference

/-- Reads a dotted reference such as `orders.line_items.qty`. -/
def parse (s : String) : Reference :=
  let t := Text.trim s
  match Text.splitLast t '.' with
  | some (before, column) => ⟨Text.split before '.', column⟩
  | none => ⟨[], t⟩

theorem parse_of_no_dot (s : String) (h : Text.splitLast (Text.trim s) '.' = none) :
    parse s = ⟨[], Text.trim s⟩ := by
  simp [parse, h]

end Reference
end RestQuery
