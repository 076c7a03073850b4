import RestQuery.Sql.Value

/-!
# Statements

The SQL that plans compile to: expressions over columns and bound values,
and select statements with their joins, filter, grouping, order and window.

A column is written with the alias of its table.  `*` may stand for the
column (all columns of the table), and a bare `*` for all columns of the
row.  Function names are written as given.  `DISTINCT` may stand before the
argument of an aggregate function.

Logical connectives are left-associative: `a AND b AND c` is
`(a AND b) AND c`.
-/

namespace RestQuery
namespace Sql

/-- A binary operator. -/
inductive BinOp where
  | eq
  | ne
  | gt
  | ge
  | lt
  | le
  | like
  | notLike
  | is
  | isNot
  | isIn
  | notIn
  | between
  | notBetween
  | and
  | or
  deriving Repr, DecidableEq

namespace BinOp

/-- The keyword or sign of an operator. -/
def keyword : BinOp → String
  | .eq => "="
  | .ne => "<>"
  | .gt => ">"
  | .ge => ">="
  | .lt => "<"
  | .le => "<="
  | .like => "LIKE"
  | .notLike => "NOT LIKE"
  | .is => "IS"
  | .isNot => "IS NOT"
  | .isIn => "IN"
  | .notIn => "NOT IN"
  | .between => "BETWEEN"
  | .notBetween => "NOT BETWEEN"
  | .and => "AND"
  | .or => "OR"

/-- Whether an operator compares, tests membership, matches a pattern or tests identity:
such an expression binds tighter than the logical connectives. -/
def isPredicate : BinOp → Bool
  | .eq | .ne | .gt | .ge | .lt | .le | .like | .notLike | .is | .isNot | .isIn | .notIn => true
  | _ => false

/-- Whether an operator is a logical connective. -/
def isLogical : BinOp → Bool
  | .and | .or => true
  | _ => false

/-- Whether an operator takes a range. -/
def isRange : BinOp → Bool
  | .between | .notBetween => true
  | _ => false

end BinOp

/-- An expression. -/
inductive Expr where
  /-- A column of the table with an alias; none stands for all its columns. -/
  | column (table : String) (name : Option String)
  /-- All columns of the row. -/
  | star
  /-- A bound value. -/
  | value (v : Value)
  /-- `NULL`. -/
  | null
  /-- A constant truth value, written `TRUE` or `FALSE`. -/
  | constant (b : Bool)
  /-- A parenthesised list. -/
  | tuple (items : List Expr)
  /-- A function applied to arguments. -/
  | call (name : String) (args : List Expr)
  /-- An argument with `DISTINCT` before it. -/
  | distinct (inner : Expr)
  | binary (left : Expr) (op : BinOp) (right : Expr)
  deriving Repr

namespace Expr

/-- `a AND b`, `a OR b` and the like. -/
def bin (op : BinOp) (a b : Expr) : Expr :=
  .binary a op b

/-- The operator of an operation, if it is one. -/
def binOp? : Expr → Option BinOp
  | .binary _ op _ => some op
  | _ => none

/-- Whether an expression needs no parentheses as an operand of `outer`: a single term
never does, and a predicate does not under a connective. -/
def boundTighter (e : Expr) (outer : BinOp) : Bool :=
  match e with
  | .binary _ inner _ => inner.isPredicate && outer.isLogical
  | .distinct _ => false
  | _ => true

end Expr

/-- A selected expression and its alias. -/
structure Item where
  expr : Expr
  aliasName : Option String := none
  deriving Repr

/-- A left join of a table under an alias. -/
structure Join where
  table : String
  aliasName : String
  condition : Expr
  deriving Repr

/-- The sort direction of an order column. -/
inductive Order where
  | asc
  | desc
  deriving Repr, DecidableEq

/-- A select statement. -/
structure Select where
  items : List Item := []
  table : String
  aliasName : String
  joins : List Join := []
  filter : Option Expr := none
  groupBy : List Expr := []
  orderBy : List (Expr × Order) := []
  limit : Option Nat := none
  offset : Option Nat := none
  deriving Repr

end Sql
end RestQuery
