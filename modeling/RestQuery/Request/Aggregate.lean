import RestQuery.Request.Path
import RestQuery.Reference
import RestQuery.Naming

/-!
# The aggregate of a request

The aggregate parameter holds one aggregate as three to five fields
separated by commas, each trimmed:

    source reference, function, alias[, group reference[, flag]]

The function must be a non-empty word of ASCII letters, digits and `_`, and
is kept in upper case; a flag of `1` or `true` aggregates over distinct
values, one of `0`, `false` or nothing over all of them.  The fields are
checked in this order: count, source column, function, alias, flag; then the
source path is resolved, and last the group, if any, is checked and
resolved.
-/

namespace RestQuery
namespace Request

open Plan Schema

/-- The name of the aggregate parameter in error reports. -/
def aggregateParameter : String := "agregate"

/-- A refused aggregate value. -/
def badAggregate (value : String) (reason : Reason) : RequestError :=
  .invalidParameter aggregateParameter value reason

/-- Whether a function name is a plain identifier. -/
def isIdentifier (s : String) : Bool :=
  !s.isEmpty && s.toList.all fun c => c.isAlphanum || c = '_'

/-- Reads the distinct flag. -/
def parseFlag (s : String) : Except RequestError Bool :=
  match s with
  | "" | "0" | "false" => .ok false
  | "1" | "true" => .ok true
  | other => .error (badAggregate other .badFlag)

/-- Resolves the group reference of an aggregate, if one is given. -/
def parseGroup (reg : Registry) : String → Build (Option GroupBy)
  | "" => pure none
  | g => do
    let r := Reference.parse g
    if r.column.isEmpty then throw (badAggregate g .missingGroupColumn)
    let node ← resolveSegments reg 0 r.path
    return some { path := ← chainOf node, column := Naming.columnCase r.column }

/-- Reads an aggregate and its group, joining the tables they reach. -/
def parseAggregate (reg : Registry) (input : String) : Build (Aggregate × Option GroupBy) := do
  let fields := (Text.split input ',').map Text.trim
  if fields.length < 3 || fields.length > 5 then throw (badAggregate input .aggregateShape)
  let source := Reference.parse (fields.getD 0 "")
  if source.column.isEmpty then throw (badAggregate input .missingSourceColumn)
  let function := fields.getD 1 ""
  if !isIdentifier function then throw (badAggregate function .functionNotIdentifier)
  let aliasName := fields.getD 2 ""
  if aliasName.isEmpty then throw (badAggregate input .missingAlias)
  let distinct ← liftExcept (parseFlag (fields.getD 4 ""))
  let node ← resolveSegments reg 0 source.path
  let aggregate : Aggregate :=
    { function := function.map Char.toUpper, sourcePath := ← chainOf node,
      sourceColumn := Naming.columnCase source.column, aliasName, distinct }
  let group ← parseGroup reg (fields.getD 3 "")
  note (.aggregateParsed aggregate.expression group.isSome)
  return (aggregate, group)

end Request
end RestQuery
