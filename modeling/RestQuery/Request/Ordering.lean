import RestQuery.Request.Path
import RestQuery.Reference
import RestQuery.GroupList
import RestQuery.Naming

/-!
# The order of a request

The `order` parameter is a group list; a group is a reference, then
optionally a comma and a direction: `orders.created_at,DESC;name`.  The
direction is read trimmed and in any ASCII case, and is ascending when
empty.  Entries keep the order of their groups.  In a group the column is
checked first, then the path resolved, then the direction read, so a join
made for a group stays even when its direction is refused.
-/

namespace RestQuery
namespace Request

open Plan Schema

/-- Reads a sort direction. -/
def parseDirection (s : String) : Except RequestError Direction :=
  match (Text.trim s).map Char.toUpper with
  | "" | "ASC" => .ok .asc
  | "DESC" => .ok .desc
  | _ => .error (.invalidParameter "order" s .badDirection)

/-- Reads one group of the order parameter. -/
def orderEntry (reg : Registry) (group : String) : Build OrderEntry := do
  let (reference, direction) := (Text.splitOnce group ',').getD (group, "")
  let r := Reference.parse reference
  if r.column.isEmpty then throw (.malformedGroup "order" group)
  let node ← resolveSegments reg 0 r.path
  let path ← chainOf node
  let d ← liftExcept (parseDirection direction)
  return { path, column := Naming.columnCase r.column, direction := d }

/-- Reads the order parameter, entries in the order of their groups. -/
def parseOrder (reg : Registry) (input : String) : Build (List OrderEntry) :=
  (GroupList.split input).mapM (orderEntry reg)

end Request
end RestQuery
