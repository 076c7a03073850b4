import RestQuery.Plan.IncludeTree
import RestQuery.Plan.Filter

/-!
# Query plans

A query plan says, independently of any database, what to fetch: the queried
model with its tree of joins, an optional filter, an optional aggregate with
an optional grouping column, the order of the rows, the window of rows, and
three flags (`raw` rows, a row `count`, `logging`).

A column of a joined table is qualified by the path of aliases that reaches
it: `Orders.LineItems.qty`.  An aggregate is written as its function applied
to its qualified column, with `DISTINCT` when asked: `SUM(DISTINCT
Orders.total)`.  A grouping column of the root table is qualified by the
root model's name instead of the empty path: `Customers.id`.
-/

namespace RestQuery
namespace Plan

/-- Joins a path and a column with dots; a column of the root stays bare. -/
def qualify (path : List String) (column : String) : String :=
  if path.isEmpty then column else String.intercalate "." path ++ "." ++ column

/-- An aggregate function applied to one column. -/
structure Aggregate where
  function : String
  sourcePath : List String
  sourceColumn : String
  aliasName : String
  distinct : Bool
  deriving Repr, DecidableEq

namespace Aggregate

/-- The aggregated column, qualified by its path. -/
def qualifiedColumn (a : Aggregate) : String :=
  qualify a.sourcePath a.sourceColumn

/-- The aggregate as an expression: `SUM(DISTINCT Orders.total)`. -/
def expression (a : Aggregate) : String :=
  a.function ++ "(" ++ (if a.distinct then "DISTINCT " else "") ++ a.qualifiedColumn ++ ")"

end Aggregate

/-- The column the aggregate is grouped by. -/
structure GroupBy where
  path : List String
  column : String
  deriving Repr, DecidableEq

/-- The grouping column qualified by its path, or by the root model for a root column. -/
def GroupBy.qualified (g : GroupBy) (rootModel : String) : String :=
  if g.path.isEmpty then rootModel ++ "." ++ g.column else qualify g.path g.column

/-- The direction of an order entry. -/
inductive Direction where
  | asc
  | desc
  deriving Repr, DecidableEq

/-- The keyword of a direction. -/
def Direction.keyword : Direction → String
  | .asc => "ASC"
  | .desc => "DESC"

/-- One column of the row order. -/
structure OrderEntry where
  path : List String
  column : String
  direction : Direction
  deriving Repr, DecidableEq

/-- What to fetch. -/
structure QueryPlan where
  model : String
  tree : IncludeTree
  filter : Option FilterTree := none
  aggregate : Option Aggregate := none
  group : Option GroupBy := none
  order : List OrderEntry := []
  limit : Option Nat := none
  offset : Option Nat := none
  raw : Bool := false
  count : Bool := false
  logging : Bool := false
  deriving Repr, DecidableEq

/-- The columns projected from the root table, if any were asked for. -/
def QueryPlan.attributes (p : QueryPlan) : Option (List String) :=
  p.tree.root.attributes

end Plan
end RestQuery
