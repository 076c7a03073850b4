import RestQuery.Schema.Config
import RestQuery.Json.Decode

/-!
# Configuration documents

A configuration is written as a JSON document of the shape `configShape`:
an object with an optional `dialect` (`postgres`, the default, `mysql` or
`sqlite`), an optional `strict_filters` flag, optional `enabled_tables`
lists per lowercase method name, and the `models`, each with a `name`, a
`table`, an optional `primary_key` and optional `relations`.  A relation
has an `alias`, a `target` model, a `kind` (`belongs_to`, `has_many` or
`has_one`), a `source_key` and a `target_key`.  Unknown fields are
ignored.

A configuration is read either from its text, where faults carry their
place, or from a value parsed already, where they do not.

**Results.**
* `models_ofValue`: the models of a configuration are those of its
  document, in order.
-/

namespace RestQuery
namespace Schema

open Json (Shape Value)

/-- The shape of a relation. -/
def relationShape : Shape :=
  .record "Relation" [("alias", .string, none), ("target", .string, none),
    ("kind", .choice ["belongs_to", "has_many", "has_one"], none),
    ("source_key", .string, none), ("target_key", .string, none)]

/-- The shape of a model. -/
def modelShape : Shape :=
  .record "ModelHandle" [("name", .string, none), ("table", .string, none),
    ("primary_key", .option .string, some .null), ("relations", .seq relationShape, some (.arr []))]

/-- The shape of the enabled tables. -/
def tablesShape : Shape :=
  .record "EnabledTables" [("get", .seq .string, some (.arr [])), ("post", .seq .string, some (.arr [])),
    ("patch", .seq .string, some (.arr [])), ("delete", .seq .string, some (.arr []))]

/-- The enabled tables when none are given. -/
def noTables : Value :=
  .obj [("get", .arr []), ("post", .arr []), ("patch", .arr []), ("delete", .arr [])]

/-- The shape of a configuration. -/
def configShape : Shape :=
  .record "ServiceConfig" [("dialect", .choice ["postgres", "mysql", "sqlite"], some (.str "postgres")),
    ("strict_filters", .boolean, some (.bool false)), ("enabled_tables", tablesShape, some noTables),
    ("models", .seq modelShape, none)]

/-! Reading the normal form.  The shapes guarantee the kinds below; a part of another kind is
read as the default of its place. -/

/-- A field of an object in normal form. -/
def field (v : Value) (name : String) : Value :=
  match v with
  | .obj kvs => (kvs.lookup name).getD .null
  | _ => .null

/-- A relation in normal form. -/
def relationOfValue (v : Value) : Relation :=
  { aliasName := (field v "alias").text, target := (field v "target").text,
    kind := match (field v "kind").text with
      | "has_many" => .hasMany
      | "has_one" => .hasOne
      | _ => .belongsTo,
    sourceKey := (field v "source_key").text, targetKey := (field v "target_key").text }

/-- A model in normal form. -/
def modelOfValue (v : Value) : Model :=
  { name := (field v "name").text, table := (field v "table").text,
    primaryKey := match field v "primary_key" with
      | .str s => some s
      | _ => none,
    relations := match field v "relations" with
      | .arr items => items.map relationOfValue
      | _ => [] }

/-- The enabled tables in normal form. -/
def tablesOfValue (v : Value) : EnabledTables :=
  { get := (field v "get").texts, post := (field v "post").texts,
    patch := (field v "patch").texts, delete := (field v "delete").texts }

namespace ServiceConfig

/-- A configuration in normal form. -/
def ofValue (v : Value) : ServiceConfig :=
  { dialect := ((Dialect.ofName? (field v "dialect").text)).getD .postgres,
    strictFilters := match field v "strict_filters" with
      | .bool b => b
      | _ => false,
    enabledTables := tablesOfValue (field v "enabled_tables"),
    models := match field v "models" with
      | .arr items => items.map modelOfValue
      | _ => [] }

/-- Reads a configuration from its text. -/
def parse (text : String) : Except Json.Error ServiceConfig :=
  (configShape.readText text).map ofValue

/-- Reads a configuration from a parsed value. -/
def decode (v : Value) : Except Json.Error ServiceConfig :=
  match configShape.check v with
  | .ok w => .ok (ofValue w)
  | .error f => .error { fault := f }

theorem models_ofValue (items : List Value) (kvs : List (String × Value))
    (h : kvs.lookup "models" = some (.arr items)) :
    (ofValue (.obj kvs)).models = items.map modelOfValue := by
  simp [ofValue, field, h]

end ServiceConfig
end Schema
end RestQuery
