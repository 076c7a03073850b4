import RestQuery.Text.FormUrl

/-!
# Request parameters

A request carries up to nine parameters, each as the raw text the caller
sent: `include`, `where`, `attributes`, the aggregate (named `agregate` or
`aggregate`), `order`, `limit`, `offset`, `count` and `raw`.  Other names
are ignored, and a name given twice keeps its last value.

**Results.**
* `ofPairs_append`: later pairs are applied after earlier ones.
-/

namespace RestQuery
namespace Request

/-- The raw parameters of a request. -/
structure Params where
  includes : Option String := none
  filter : Option String := none
  attributes : Option String := none
  aggregate : Option String := none
  order : Option String := none
  limit : Option String := none
  offset : Option String := none
  count : Option String := none
  raw : Option String := none
  deriving Repr, DecidableEq

namespace Params

/-- Sets the parameter of a name; other names change nothing. -/
def set (p : Params) (name value : String) : Params :=
  match name with
  | "include" => { p with includes := some value }
  | "where" => { p with filter := some value }
  | "attributes" => { p with attributes := some value }
  | "agregate" | "aggregate" => { p with aggregate := some value }
  | "order" => { p with order := some value }
  | "limit" => { p with limit := some value }
  | "offset" => { p with offset := some value }
  | "count" => { p with count := some value }
  | "raw" => { p with raw := some value }
  | _ => p

/-- The parameters of a list of name–value pairs, applied in order. -/
def ofPairs (pairs : List (String × String)) : Params :=
  pairs.foldl (fun p kv => p.set kv.1 kv.2) {}

/-- The parameters of a form-encoded query string, with or without its leading `?`. -/
def ofQuery (query : String) : Params :=
  let body := match query.toList with
    | '?' :: rest => String.ofList rest
    | _ => query
  ofPairs (Text.FormUrl.pairs body)

theorem ofPairs_append (xs ys : List (String × String)) :
    ofPairs (xs ++ ys) = ys.foldl (fun p kv => p.set kv.1 kv.2) (ofPairs xs) := by
  simp [ofPairs, List.foldl_append]

end Params
end Request
end RestQuery
