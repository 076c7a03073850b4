import RestQuery.Plan.Query
import RestQuery.Json.Value

/-!
# Plans as JSON

The JSON form of a plan is an object with, in this order: `model`; the
`include` list when the root has joins, each entry `{model, as}` followed
by its `attributes` when they were asked for and its own `include` list
when it has joins; `where` when there is a filter; `attributes` when the
root projects columns or there is an aggregate, the columns followed by the
aggregate `{fn, col, as, distinct}`; `group`, the qualified grouping column;
`order` when not empty, each entry its aliases, column and direction in one
array; `limit` and `offset` when set; and always `raw`, `count` and
`logging`.

A filter is `{"$or": [{"$and": [condition…]}…]}` and a condition
`{key: {operator: operand}}`, its key being the column or
`$Path.column$` for a joined table.
-/

namespace RestQuery
namespace Plan

open Json (Value)

/-- The JSON form of an operand: null, a string, or an array of strings. -/
def operandJson : Filter.Operand → Value
  | .null => .null
  | .one v => .str v
  | .many vs => Json.strings vs

/-- The JSON form of a condition. -/
def Condition.toJson (c : Condition) : Value :=
  .obj [(c.fieldKey, .obj [(c.operator, operandJson c.value)])]

/-- The JSON form of a filter. -/
def FilterTree.toJson (f : FilterTree) : Value :=
  .obj [("$or", .arr (f.groups.map fun g => .obj [("$and", .arr (g.map Condition.toJson))]))]

/-- The JSON form of an aggregate. -/
def Aggregate.toJson (a : Aggregate) : Value :=
  .obj [("fn", .str a.function), ("col", .str a.qualifiedColumn), ("as", .str a.aliasName),
    ("distinct", .bool a.distinct)]

/-- The JSON form of an order entry. -/
def OrderEntry.toJson (e : OrderEntry) : Value :=
  Json.strings (e.path ++ [e.column, e.direction.keyword])

/-- The include entries of some nodes; `fuel` bounds the depth. -/
def includeEntries (t : IncludeTree) : Nat → List NodeId → List Value
  | 0, _ => []
  | fuel + 1, ids => ids.map fun id =>
    let n := t.node id
    .obj ([("model", .str n.model), ("as", .str n.aliasName)] ++
      (match n.attributes with
        | some cols => [("attributes", Json.strings cols)]
        | none => []) ++
      (if n.children.isEmpty then [] else [("include", .arr (includeEntries t fuel n.children))]))

/-- The include list of the root. -/
def IncludeTree.includeJson (t : IncludeTree) : Value :=
  .arr (includeEntries t t.length t.root.children)

/-- The JSON form of a plan. -/
def QueryPlan.toJson (p : QueryPlan) : Value :=
  let whenSome {α : Type} (name : String) (o : Option α) (f : α → Value) : List (String × Value) :=
    match o with
    | some a => [(name, f a)]
    | none => []
  .obj ([("model", .str p.model)] ++
    (if p.tree.root.children.isEmpty then [] else [("include", p.tree.includeJson)]) ++
    whenSome "where" p.filter FilterTree.toJson ++
    (if p.attributes.isSome || p.aggregate.isSome then
      [("attributes", .arr ((p.attributes.getD []).map .str ++ (p.aggregate.map Aggregate.toJson).toList))]
     else []) ++
    whenSome "group" p.group (fun g => .str (g.qualified p.model)) ++
    (if p.order.isEmpty then [] else [("order", .arr (p.order.map OrderEntry.toJson))]) ++
    whenSome "limit" p.limit (fun n => .int n) ++
    whenSome "offset" p.offset (fun n => .int n) ++
    [("raw", .bool p.raw), ("count", .bool p.count), ("logging", .bool p.logging)])

end Plan
end RestQuery
