import RestQuery.Schema.Model
import RestQuery.Schema.Access

/-!
# Service configuration

A service is configured by its SQL dialect, whether malformed filters are
refused (`strictFilters`) or dropped, the tables enabled for each method, and
its models.  Without a configuration file the service runs the built-in shop
of four models — customers, their orders, the line items of an order and the
products of a line item — with reads enabled on all four tables and nothing
else, on PostgreSQL.

The registry is checked when it is made: `registry` reports the first
repeated model name, or else a relation whose target is not registered.
-/

namespace RestQuery
namespace Schema

/-- The SQL dialects the compiler writes. -/
inductive Dialect where
  | postgres
  | mysql
  | sqlite
  deriving Repr, DecidableEq

/-- The configuration name of a dialect. -/
def Dialect.name : Dialect → String
  | .postgres => "postgres"
  | .mysql => "mysql"
  | .sqlite => "sqlite"

/-- The dialect with a configuration name. -/
def Dialect.ofName? : String → Option Dialect
  | "postgres" => some .postgres
  | "mysql" => some .mysql
  | "sqlite" => some .sqlite
  | _ => none

/-- The configuration of a service. -/
structure ServiceConfig where
  dialect : Dialect := .postgres
  strictFilters : Bool := false
  enabledTables : EnabledTables := {}
  models : List Model
  deriving Repr

/-- Why a configuration cannot be used. -/
inductive ConfigError where
  /-- No file at the path. -/
  | notFound (path : String)
  /-- The path names something that cannot be read as text; `reason` says why. -/
  | unreadable (path : String) (reason : String)
  /-- The file is not JSON of a configuration; `detail` says where and why. -/
  | invalidJson (path : String) (detail : String)
  /-- The models make no registry. -/
  | registry (error : RegistryError)
  deriving Repr, DecidableEq

/-- The wording of a configuration error. -/
def ConfigError.message : ConfigError → String
  | .notFound p => "配置文件不存在: " ++ p
  | .unreadable p r => "无法读取配置文件 " ++ p ++ ": " ++ r
  | .invalidJson p d => "无法解析JSON配置文件 " ++ p ++ ": " ++ d
  | .registry (.duplicateModel n) => "模型重复定义: " ++ n
  | .registry (.unknownRelationTarget m a t) =>
    "模型 " ++ m ++ " 的关联 " ++ a ++ " 指向未知模型 " ++ t

/-- The error that caused a configuration error, if it has one: the reason a file could not
be read or parsed. -/
def ConfigError.cause? : ConfigError → Option String
  | .unreadable _ r => some r
  | .invalidJson _ d => some d
  | _ => none

namespace ServiceConfig

/-- The checked registry of the configured models. -/
def registry (c : ServiceConfig) : Except ConfigError Registry :=
  (Registry.ofModels c.models).mapError ConfigError.registry

/-- A relation by its parts. -/
def rel (aliasName target : String) (kind : RelationKind) (sourceKey targetKey : String) : Relation :=
  { aliasName, target, kind, sourceKey, targetKey }

/-- The built-in shop. -/
def builtin : ServiceConfig where
  dialect := .postgres
  strictFilters := false
  enabledTables := { get := ["customers", "orders", "line_items", "products"] }
  models := [
    { name := "Customers", table := "customers", primaryKey := some "id",
      relations := [rel "Orders" "Orders" .hasMany "id" "customer_id"] },
    { name := "Orders", table := "orders", primaryKey := some "id",
      relations := [rel "Customers" "Customers" .belongsTo "customer_id" "id",
        rel "LineItems" "LineItems" .hasMany "id" "order_id"] },
    { name := "LineItems", table := "line_items", primaryKey := some "id",
      relations := [rel "Products" "Products" .belongsTo "product_id" "id"] },
    { name := "Products", table := "products", primaryKey := some "id" }]

end ServiceConfig
end Schema
end RestQuery
