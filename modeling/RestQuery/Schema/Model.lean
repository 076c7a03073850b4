import RestQuery.RequestError
import RestQuery.Naming

/-!
# Models and the registry

A model is a table under a name, with an optional primary key and named
relations to other models.  A relation says how the rows of its target are
found: `belongs_to` and `has_one` give at most one target row per source
row, `has_many` may give several (it fans out).  The registry holds the
models of a service by name; it is valid when no name repeats and every
relation targets a registered model.

A route is mapped to a model by its Pascal-case form: `line_items` names the
model `LineItems`.
-/

namespace RestQuery
namespace Schema

/-- How many target rows a relation gives per source row. -/
inductive RelationKind where
  | belongsTo
  | hasMany
  | hasOne
  deriving Repr, DecidableEq

/-- The configuration name of a relation kind. -/
def RelationKind.name : RelationKind → String
  | .belongsTo => "belongs_to"
  | .hasMany => "has_many"
  | .hasOne => "has_one"

/-- Whether a relation may give several target rows per source row. -/
def RelationKind.fansOut : RelationKind → Bool
  | .hasMany => true
  | _ => false

/-- A named way from one model to another: source rows whose `sourceKey` equals the
target's `targetKey`. -/
structure Relation where
  aliasName : String
  target : String
  kind : RelationKind
  sourceKey : String
  targetKey : String
  deriving Repr, DecidableEq

/-- A registered model. -/
structure Model where
  name : String
  table : String
  primaryKey : Option String := none
  relations : List Relation := []
  deriving Repr, DecidableEq

/-- The first relation of a model with the given alias. -/
def Model.relation (m : Model) (aliasName : String) : Option Relation :=
  m.relations.find? fun r => r.aliasName == aliasName

/-- Why a list of models makes no registry. -/
inductive RegistryError where
  | duplicateModel (name : String)
  | unknownRelationTarget (model aliasName target : String)
  deriving Repr, DecidableEq

/-- The models of a service; names are pairwise distinct and every relation targets one
of them. -/
structure Registry where
  models : List Model
  deriving Repr

namespace Registry

/-- The first model in the list that repeats the name of an earlier one. -/
def firstDuplicate : List String → List Model → Option String
  | _, [] => none
  | seen, m :: ms => if seen.contains m.name then some m.name else firstDuplicate (m.name :: seen) ms

/-- The first relation, in list order, whose target is not among the names. -/
def firstUnknownTarget (names : List String) (ms : List Model) : Option (Model × Relation) :=
  ms.findSome? fun m => (m.relations.find? fun r => !names.contains r.target).map (m, ·)

/-- Checks a list of models and makes the registry. -/
def ofModels (ms : List Model) : Except RegistryError Registry :=
  match firstDuplicate [] ms with
  | some n => .error (.duplicateModel n)
  | none =>
    match firstUnknownTarget (ms.map Model.name) ms with
    | some (m, r) => .error (.unknownRelationTarget m.name r.aliasName r.target)
    | none => .ok ⟨ms⟩

/-- The model with a name. -/
def get (r : Registry) (name : String) : Option Model :=
  r.models.find? fun m => m.name == name

/-- The model a route names. -/
def modelForRoute (r : Registry) (route : String) : Except RequestError Model :=
  let name := Naming.pascal route
  match r.get name with
  | some m => .ok m
  | none => .error (.modelNotFound name)

/-- The number of models. -/
def length (r : Registry) : Nat :=
  r.models.length

end Registry
end Schema
end RestQuery
