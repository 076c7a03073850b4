import RestQuery.Filter.Clause

/-!
# Errors of a request

Every way a request can be refused, as a cause with its data; `message` gives
the wording shown to the client.  A parameter value can be refused for one of
a fixed list of reasons (`Reason`).
-/

namespace RestQuery

/-- Why a parameter value is refused. -/
inductive Reason where
  | notCount
  | notBoolean
  | badDirection
  | aggregateShape
  | missingSourceColumn
  | functionNotIdentifier
  | missingAlias
  | badFlag
  | missingGroupColumn
  | unknownMethod
  deriving Repr, DecidableEq

/-- The wording of a reason. -/
def Reason.message : Reason → String
  | .notCount => "expected a non-negative integer"
  | .notBoolean => "expected true or false"
  | .badDirection => "direction must be ASC or DESC"
  | .aggregateShape => "expected sourcePathCol,function,alias[,groupPathCol[,flag]]"
  | .missingSourceColumn => "missing source column"
  | .functionNotIdentifier => "function must be a plain identifier"
  | .missingAlias => "missing alias"
  | .badFlag => "flag must be 0 or 1"
  | .missingGroupColumn => "missing group column"
  | .unknownMethod => "expected GET, POST, PATCH or DELETE"

/-- Why a request cannot be translated. -/
inductive RequestError where
  /-- The route names no registered model. -/
  | modelNotFound (name : String)
  /-- A segment of a join path is no relation of the model reached so far. -/
  | unknownPath (path segment : String)
  /-- A parameter holds a value it cannot take. -/
  | invalidParameter (name value : String) (reason : Reason)
  /-- The filter text is malformed. -/
  | malformedFilter (fault : Filter.Malformed)
  /-- A group of `attributes` or `order` names no column. -/
  | malformedGroup (parameter group : String)
  /-- The method is not enabled for the table. -/
  | forbidden (method table : String)
  deriving Repr, DecidableEq

/-- The wording of an error. -/
def RequestError.message : RequestError → String
  | .modelNotFound n => "model '" ++ n ++ "' not found"
  | .unknownPath p s =>
    "unknown path '" ++ p ++ "': segment '" ++ s ++ "' does not resolve to a model"
  | .invalidParameter n v r =>
    "invalid value '" ++ v ++ "' for parameter '" ++ n ++ "': " ++ r.message
  | .malformedFilter f =>
    "malformed where clause at byte " ++ toString f.position ++ ": " ++ f.problem.message
  | .malformedGroup p g => "malformed " ++ p ++ " group '" ++ g ++ "'"
  | .forbidden m t => m ++ " is not enabled for table '" ++ t ++ "'"

/-- The name of the kind of an error. -/
def RequestError.kind : RequestError → String
  | .modelNotFound _ => "ModelNotFound"
  | .unknownPath _ _ => "UnknownPath"
  | .invalidParameter _ _ _ => "InvalidParameter"
  | .malformedFilter _ => "MalformedFilter"
  | .malformedGroup _ _ => "MalformedGroup"
  | .forbidden _ _ => "Forbidden"

end RestQuery
