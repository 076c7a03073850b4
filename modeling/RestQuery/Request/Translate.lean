import RestQuery.Request.Where
import RestQuery.Request.Projection
import RestQuery.Request.Aggregate
import RestQuery.Request.Ordering
import RestQuery.Request.Params
import RestQuery.Request.Pagination
import RestQuery.Schema.Config
import RestQuery.Number.Literal

/-!
# From a request to a plan

A translator holds a registry, the enabled tables and whether filters are
strict.  A request names its model by route and carries its parameters; a
parameter that is absent or blank is not given, and a given one is trimmed.
The parameters are applied in a fixed order, all on one include tree:

1. `include`: comma-separated paths (brackets around the list allowed), each
   resolved from the root;
2. `where`: the filter (a doubled outer bracket allowed); a malformed filter
   is dropped with a note, or refused when filters are strict;
3. `attributes`, 4. the aggregate (brackets allowed), 5. `order`;
6. `limit` and `offset`, unsigned 64-bit integers;
7. `raw` and `count`, `true`, `false`, `1` or `0` in any ASCII case.

The first failure ends the work.  When the filter reaches a joined
table, one model row may come back as several rows, so the window is left
off the plan and handed back as deferred pagination instead.

**Results.**
* `deferredPagination_of_flat`: a filter on the root alone defers nothing.
-/

namespace RestQuery
namespace Request

open Plan Schema

/-- A parameter that is given and not blank, trimmed. -/
def present : Option String → Option String
  | some v => let t := Text.trim v; if t.isEmpty then none else some t
  | none => none

/-- `[a,b]` without its brackets; a value not enclosed in both is kept. -/
def stripBrackets (s : String) : String :=
  match s.toList with
  | '[' :: rest => if rest.getLast? = some ']' then String.ofList rest.dropLast else s
  | _ => s

/-- `[[a]OR[b]]` without its outer brackets; a bare clause list is kept. -/
def stripWrapper (s : String) : String :=
  let cs := s.toList
  if cs.take 2 = ['[', '['] ∧ cs.drop (cs.length - 2) = [']', ']'] then
    String.ofList (cs.drop 1).dropLast
  else s

/-- Reads a row count. -/
def parseCount (name value : String) : Except RequestError Nat :=
  match Number.parseUInt64 value with
  | some n => .ok n
  | none => .error (.invalidParameter name value .notCount)

/-- Reads a switch. -/
def parseSwitch (name value : String) : Except RequestError Bool :=
  match value.map Char.toLower with
  | "true" | "1" => .ok true
  | "false" | "0" => .ok false
  | _ => .error (.invalidParameter name value .notBoolean)

/-- A translated request. -/
structure PlannedRequest where
  plan : QueryPlan
  /-- Whether the filter reaches a joined table. -/
  nested : Bool
  /-- The window asked for, whether or not it is on the plan. -/
  pagination : Pagination
  deriving Repr

/-- The window the caller has to apply to the rows itself. -/
def PlannedRequest.deferredPagination (t : PlannedRequest) : Option Pagination :=
  if t.nested && !t.pagination.isEmpty then some t.pagination else none

/-- What translates requests for a service. -/
structure Translator where
  registry : Registry
  access : EnabledTables
  strictFilters : Bool := false

namespace Translator

/-- The translator of a configuration. -/
def ofConfig (c : ServiceConfig) : Except ConfigError Translator := do
  let registry ← c.registry
  return { registry, access := c.enabledTables, strictFilters := c.strictFilters }

/-- Lets a method through on the table of a route, or says why not. -/
def authorize (tr : Translator) (m : Method) (route : String) : Except RequestError Unit := do
  let model ← tr.registry.modelForRoute route
  tr.access.check m model.table

/-- Resolves the paths of an `include` value. -/
def includePaths (tr : Translator) (value : String) : Build Unit :=
  (Text.split (stripBrackets value) ',').forM fun path => discard (resolve tr.registry 0 (Text.trim path))

/-- Reads the filter; a malformed one is dropped unless filters are strict. -/
def readFilter (tr : Translator) (value : String) : Build (Option ParsedFilter) :=
  tryCatch (some <$> parseWhere tr.registry (stripWrapper value)) fun e =>
    match e with
    | .malformedFilter _ =>
      if tr.strictFilters then throw e else do
        note (.filterIgnored e)
        pure none
    | _ => throw e

/-- Resolves the `include` parameter, when it is given. -/
def includeStep (tr : Translator) (p : Params) : Build Unit :=
  match present p.includes with
  | some value => do
    tr.includePaths value
    note (.includesResolved ((← currentTree).length - 1))
  | none => pure ()

/-- Reads the `where` parameter, when it is given. -/
def filterStep (tr : Translator) (p : Params) : Build (Option ParsedFilter) :=
  match present p.filter with
  | some value => tr.readFilter value
  | none => pure none

/-- Projects the columns of the `attributes` parameter, when it is given. -/
def attributesStep (tr : Translator) (p : Params) : Build Unit :=
  match present p.attributes with
  | some value => parseAttributes tr.registry value
  | none => pure ()

/-- Reads the aggregate parameter, when it is given. -/
def aggregateStep (tr : Translator) (p : Params) : Build (Option (Aggregate × Option GroupBy)) :=
  match present p.aggregate with
  | some value => some <$> parseAggregate tr.registry (stripBrackets value)
  | none => pure none

/-- Reads the `order` parameter, when it is given. -/
def orderStep (tr : Translator) (p : Params) : Build (List OrderEntry) :=
  match present p.order with
  | some value => parseOrder tr.registry value
  | none => pure []

/-- Applies the parameters of a request for a model, in order. -/
def build (tr : Translator) (model : Model) (p : Params) : Build PlannedRequest := do
  tr.includeStep p
  let parsed ← tr.filterStep p
  let nested := parsed.any (·.nested)
  tr.attributesStep p
  let aggregate ← tr.aggregateStep p
  let order ← tr.orderStep p
  let limit ← liftExcept ((present p.limit).mapM (parseCount "limit"))
  let offset ← liftExcept ((present p.offset).mapM (parseCount "offset"))
  let raw ← liftExcept ((present p.raw).mapM (parseSwitch "raw"))
  let count ← liftExcept ((present p.count).mapM (parseSwitch "count"))
  let tree ← currentTree
  note (.translated model.name (tree.length - 1) nested)
  return {
    plan := {
      model := model.name, tree, filter := parsed.map (·.filter),
      aggregate := aggregate.map (·.1), group := aggregate.bind (·.2), order,
      limit := if nested then none else limit, offset := if nested then none else offset,
      raw := raw.getD false, count := count.getD false, logging := true }
    nested, pagination := { limit, offset } }

/-- Translates a request for a route, with the notes taken on the way, also when it fails. -/
def translate (tr : Translator) (route : String) (p : Params) : Except RequestError PlannedRequest × List Note :=
  match tr.registry.modelForRoute route with
  | .error e => (.error e, [])
  | .ok model =>
    let (r, w) := (tr.build model p).run { tree := IncludeTree.new model.name }
    (r, w.notes)

end Translator

theorem deferredPagination_of_flat (t : PlannedRequest) (h : t.nested = false) :
    t.deferredPagination = none := by
  simp [PlannedRequest.deferredPagination, h]

end Request
end RestQuery
