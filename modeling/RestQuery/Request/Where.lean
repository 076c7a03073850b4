import RestQuery.Request.Path
import RestQuery.Plan.Filter

/-!
# The filter of a request

The `where` parameter is read into clauses; the path of every clause is
resolved from the root, joining what it names, and replaced by the alias
chain of the node it reaches.  The conditions are then folded into groups.
The filter is *nested* when some condition lies on a joined table.
-/

namespace RestQuery
namespace Request

open Plan Schema

/-- A filter and whether it reaches into a joined table. -/
structure ParsedFilter where
  filter : FilterTree
  nested : Bool
  deriving Repr, DecidableEq

/-- The condition of a clause, its path resolved from the root. -/
def conditionOf (reg : Registry) (c : Filter.Clause) : Build (Filter.Connective × Condition) := do
  let path ←
    if c.path.isEmpty then pure []
    else do
      let node ← resolveSegments reg 0 c.path
      chainOf node
  return (c.connective, { path, column := c.column, operator := c.operator, value := c.value })

/-- Reads a filter, joining the tables its clauses reach. -/
def parseWhere (reg : Registry) (input : String) : Build ParsedFilter := do
  let clauses ← liftExcept ((Filter.parse input).mapError .malformedFilter)
  note (.clausesParsed clauses.length)
  let entries ← clauses.mapM (conditionOf reg)
  return { filter := FilterTree.fold entries, nested := entries.any fun e => !e.2.path.isEmpty }

end Request
end RestQuery
