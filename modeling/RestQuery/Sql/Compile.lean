import RestQuery.Sql.Render
import RestQuery.Plan.Query
import RestQuery.Schema.Config
import RestQuery.Text.Case.Lower

/-!
# From a plan to SQL

A plan compiles to a select statement, and to a count statement when it
asks for a row count.  The root table is aliased by the model name and each
joined table by its path (`Orders.LineItems`), so every column of the plan
names its table directly.  A joined table is left-joined on the relation
that made it: the parent's source key equals the joined table's target key.

**Select.**  The items are the columns of each node, root first and then
the joins in creation order: the projected columns (those of a joined table
aliased `path.column`), or, when none were asked for, all columns of the
table, unless the plan aggregates.  Then the aggregate, then the grouping
column aliased by its qualified name.  The filter, the grouping, the order
and the window follow.

**Filter.**  A disjunction of conjunctions of conditions.  When it has at
least as many groups as the threshold (and at least two), and each group is
a single equality with one value on the same column, it becomes one `IN`
list instead.  A condition is compiled by its operator, a leading `$`
ignored; operand texts are bound by `Value.ofText`, patterns as texts.

**Count.**  The same tables and filter, counting the distinct primary keys
of the root when a join may repeat root rows and the root has a primary
key, and all rows otherwise.

**Results.**
* `normalize_dollar`: a leading `$` is dropped from an operator.
-/

namespace RestQuery
namespace Sql

open Plan Schema

/-- Why an operand does not fit its operator. -/
inductive OperandFault where
  | notTruth
  | noValues
  | notTwoValues
  | nullNotAllowed
  | notSingle
  deriving Repr, DecidableEq

/-- The wording of an operand fault. -/
def OperandFault.message : OperandFault → String
  | .notTruth => "expected null, true or false"
  | .noValues => "expected one or more values"
  | .notTwoValues => "expected exactly two values"
  | .nullNotAllowed => "null is only valid with eq, ne, is and not"
  | .notSingle => "expected a single value"

/-- Why a plan does not compile. -/
inductive CompileError where
  | unknownModel (name : String)
  | relationNotFound (model aliasName : String)
  | unsupportedOperator (operator : String)
  | invalidOperand (operator column : String) (fault : OperandFault)
  deriving Repr, DecidableEq

/-- The wording of a compile error. -/
def CompileError.message : CompileError → String
  | .unknownModel m => "model '" ++ m ++ "' is not registered"
  | .relationNotFound m a => "model '" ++ m ++ "' has no relation '" ++ a ++ "'"
  | .unsupportedOperator o => "unsupported operator '" ++ o ++ "'"
  | .invalidOperand o c f => "invalid operand for '" ++ o ++ "' on " ++ c ++ ": " ++ f.message

/-- An optimization the compiler applied. -/
inductive Optimization where
  /-- A disjunction of equalities on `column` became an `IN` list of `count` values. -/
  | orToIn (column : String) (count : Nat)
  deriving Repr, DecidableEq

/-- How a dialect writes statements. -/
def style : Dialect → Style
  | .postgres => { quote := '"', numbered := true, backslashEscapes := true, markEscapes := true }
  | .mysql => { quote := '`', numbered := false, backslashEscapes := true, markEscapes := false }
  | .sqlite => { quote := '"', numbered := false, backslashEscapes := false, markEscapes := false }

/-- An operator without its leading `$`. -/
def normalize (op : String) : String :=
  match op.toList with
  | '$' :: rest => String.ofList rest
  | _ => op

/-- Reads `true` or `false` in any ASCII case. -/
def parseTruth (v : String) : Option Bool :=
  match v.map Char.toLower with
  | "true" => some true
  | "false" => some false
  | _ => none

/-- Whether an operator takes a single value or null. -/
def isScalarOperator (op : String) : Bool :=
  ["eq", "ne", "gt", "gte", "lt", "lte", "like", "notLike", "iLike", "is", "not"].contains op

/-- The alias of the table at a path; the root table's alias is the model name. -/
def tableAlias (p : QueryPlan) (path : String) : String :=
  if path.isEmpty then p.model else path

/-- A column of the table reached by a chain of aliases. -/
def columnAt (p : QueryPlan) (chain : List String) (column : String) : Expr :=
  .column (tableAlias p (String.intercalate "." chain)) (some column)

/-- A bound operand. -/
def operand (v : String) : Expr :=
  .value (Value.ofText v)

/-- The expression of one condition. -/
def compileCondition (p : QueryPlan) (c : Condition) : Except CompileError Expr :=
  let col := columnAt p c.path c.column
  let invalid (f : OperandFault) : Except CompileError Expr := .error (.invalidOperand c.operator c.fieldKey f)
  let truth (op : BinOp) (v : String) : Except CompileError Expr :=
    match parseTruth v with
    | some b => .ok (.binary col op (.value (.bool b)))
    | none => invalid .notTruth
  match normalize c.operator, c.value with
  | "eq", .null | "is", .null => .ok (.binary col .is .null)
  | "ne", .null | "not", .null => .ok (.binary col .isNot .null)
  | "is", .one v => truth .is v
  | "not", .one v => truth .isNot v
  | "in", .null | "notIn", .null => invalid .noValues
  | "in", .one v => .ok (.binary col .isIn (.tuple [operand v]))
  | "in", .many vs => .ok (.binary col .isIn (.tuple (vs.map operand)))
  | "notIn", .one v => .ok (.binary col .notIn (.tuple [operand v]))
  | "notIn", .many vs => .ok (.binary col .notIn (.tuple (vs.map operand)))
  | "between", .many [a, b] => .ok (.binary col .between (.binary (operand a) .and (operand b)))
  | "notBetween", .many [a, b] => .ok (.binary col .notBetween (.binary (operand a) .and (operand b)))
  | "between", _ | "notBetween", _ => invalid .notTwoValues
  | op, .null => if isScalarOperator op then invalid .nullNotAllowed else .error (.unsupportedOperator c.operator)
  | op, .many _ => if isScalarOperator op then invalid .notSingle else .error (.unsupportedOperator c.operator)
  | "eq", .one v => .ok (.binary col .eq (operand v))
  | "ne", .one v => .ok (.binary col .ne (operand v))
  | "gt", .one v => .ok (.binary col .gt (operand v))
  | "gte", .one v => .ok (.binary col .ge (operand v))
  | "lt", .one v => .ok (.binary col .lt (operand v))
  | "lte", .one v => .ok (.binary col .le (operand v))
  | "like", .one v => .ok (.binary col .like (.value (.string v)))
  | "notLike", .one v => .ok (.binary col .notLike (.value (.string v)))
  | "iLike", .one v => .ok (.binary (.call "LOWER" [col]) .like (.value (.string (Text.Case.lowerText v))))
  | _, _ => .error (.unsupportedOperator c.operator)

/-- `a AND b AND …`; the empty conjunction is `TRUE`. -/
def conjunction : List Expr → Expr
  | [] => .constant true
  | e :: rest => rest.foldl (Expr.bin .and) e

/-- `a OR b OR …`; the empty disjunction is `FALSE`. -/
def disjunction : List Expr → Expr
  | [] => .constant false
  | e :: rest => rest.foldl (Expr.bin .or) e

/-- The value of a group that is a single equality with one value. -/
def singleEquality : List Condition → Option (Condition × String)
  | [c] =>
    match c.value with
    | .one v => if normalize c.operator == "eq" then some (c, v) else none
    | _ => none
  | _ => none

/-- Compiles plans against a registry, for a dialect. -/
structure Compiler where
  registry : Registry
  dialect : Dialect
  /-- The least number of equality groups on one column turned into an `IN` list. -/
  orThreshold : Nat := 5

/-- Statements compiled from a plan. -/
structure Compiled where
  select : Select
  count : Option Select
  optimizations : List Optimization
  deriving Repr

namespace Compiler

/-- A registered model. -/
def model (c : Compiler) (name : String) : Except CompileError Model :=
  match c.registry.get name with
  | some m => .ok m
  | none => .error (.unknownModel name)

/-- The parent of a joined node. -/
def parentOf (p : QueryPlan) (n : JoinNode) : JoinNode :=
  match n.parent with
  | some i => p.tree.node i
  | none => p.tree.root

/-- The relation of the parent model that a joined node was made from. -/
def joinRelation (c : Compiler) (p : QueryPlan) (n : JoinNode) : Except CompileError Relation := do
  let parent := parentOf p n
  let m ← c.model parent.model
  match m.relation n.aliasName with
  | some r => .ok r
  | none => .error (.relationNotFound parent.model n.aliasName)

/-- The `IN` list that replaces a disjunction of equalities on one column, if it applies. -/
def inList (c : Compiler) (p : QueryPlan) (f : FilterTree) : Option (Expr × Optimization) :=
  if f.groups.length < max c.orThreshold 2 then none
  else
    match f.groups.mapM singleEquality with
    | some ((first, v) :: rest) =>
      if rest.all (fun e => e.1.fieldKey == first.fieldKey) then
        let values := (v :: rest.map (·.2)).map operand
        some (.binary (columnAt p first.path first.column) .isIn (.tuple values),
          .orToIn first.fieldKey values.length)
      else none
    | _ => none

/-- The expression of a filter, with the optimization applied. -/
def compileFilter (c : Compiler) (p : QueryPlan) (f : FilterTree) :
    Except CompileError (Expr × List Optimization) :=
  match c.inList p f with
  | some (e, opt) => .ok (e, [opt])
  | none => do
    let groups ← f.groups.mapM fun g => g.mapM (compileCondition p)
    return (disjunction (groups.map conjunction), [])

/-- The tables and the filter shared by both statements. -/
def base (c : Compiler) (p : QueryPlan) : Except CompileError (Select × List Optimization) := do
  let root ← c.model p.model
  let joins ← p.tree.joins.mapM fun (_, n) => do
    let parent := parentOf p n
    let r ← c.joinRelation p n
    let target ← c.model n.model
    let on : Expr := .binary (.column (tableAlias p parent.path) (some r.sourceKey)) .eq
      (.column n.path (some r.targetKey))
    return ({ table := target.table, aliasName := n.path, condition := on } : Join)
  let (filter, opts) ← match p.filter with
    | some f => do
      let (e, o) ← c.compileFilter p f
      pure (some e, o)
    | none => pure (none, [])
  return ({ table := root.table, aliasName := p.model, joins, filter }, opts)

/-- The expression of the aggregate. -/
def aggregateExpr (p : QueryPlan) (a : Aggregate) : Expr :=
  let table := tableAlias p (String.intercalate "." a.sourcePath)
  let col : Expr := if a.sourceColumn = "*" then .column table none else .column table (some a.sourceColumn)
  .call a.function [if a.distinct then .distinct col else col]

/-- The selected columns of the nodes, root first. -/
def nodeItems (p : QueryPlan) : List Item :=
  ((0, p.tree.root) :: p.tree.joins).flatMap fun (id, n) =>
    let table := tableAlias p n.path
    match n.attributes with
    | some cols => cols.map fun col =>
      if id = 0 then { expr := .column table (some col) }
      else { expr := .column table (some col), aliasName := some (n.path ++ "." ++ col) }
    | none => if p.aggregate.isSome then [] else [{ expr := .column table none }]

/-- The main statement of a plan. -/
def selectStatement (c : Compiler) (p : QueryPlan) : Except CompileError (Select × List Optimization) := do
  let (s, opts) ← c.base p
  let aggregateItems : List Item := match p.aggregate with
    | some a => [{ expr := aggregateExpr p a, aliasName := some a.aliasName }]
    | none => []
  let groupCol : Option Expr := p.group.map fun g => columnAt p g.path g.column
  let groupItems : List Item := match p.group, groupCol with
    | some g, some col => [{ expr := col, aliasName := some (g.qualified p.model) }]
    | _, _ => []
  let orderBy := p.order.map fun e =>
    (columnAt p e.path e.column, match e.direction with | .asc => Order.asc | .desc => Order.desc)
  let items := nodeItems p ++ aggregateItems ++ groupItems
  let statement : Select :=
    { s with items, groupBy := groupCol.toList, orderBy, limit := p.limit, offset := p.offset }
  return (statement, opts)

/-- The row count statement of a plan. -/
def countStatement (c : Compiler) (p : QueryPlan) : Except CompileError Select := do
  let (s, _) ← c.base p
  let root ← c.model p.model
  let fansOut ← p.tree.joins.mapM fun (_, n) => do
    let r ← c.joinRelation p n
    return r.kind.fansOut
  let counted : Expr := match root.primaryKey with
    | some pk => if fansOut.any id then .distinct (.column p.model (some pk)) else .star
    | none => .star
  return { s with items := [{ expr := .call "COUNT" [counted], aliasName := some "count" }] }

/-- Compiles a plan. -/
def compile (c : Compiler) (p : QueryPlan) : Except CompileError Compiled := do
  let (select, optimizations) ← c.selectStatement p
  let count ← if p.count then some <$> c.countStatement p else pure none
  return { select, count, optimizations }

end Compiler

theorem normalize_dollar (rest : String) : normalize ("$" ++ rest) = rest := by
  simp [normalize]

end Sql
end RestQuery
