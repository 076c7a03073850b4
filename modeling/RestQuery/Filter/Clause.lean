import RestQuery.Filter.Token
import RestQuery.Naming
import RestQuery.Reference

/-!
# Clauses of a filter

A clause `[path.column,operator,value,...]` compares a column with one or
more values.  Its body is cut at every comma: the first field is a column
reference, the second (trimmed) the operator, the rest the values, kept as
written.  A single value `null`, in any ASCII case, stands for SQL `NULL`.
The column is brought to its stored snake-case form.

A list of tokens is read from left to right.  A connective must be followed
by a clause, and a clause takes the connective written before it (`AND` when
there is none).  The first fault found decides the error, reported with the
byte offset of the token where it was found:

* a connective right after a connective: "expected a clause after the
  connective";
* an unclosed bracket: "clause is missing its closing ']'";
* any other illegal text: "unrecognized connective '…'";
* a connective at the end: "dangling connective at end of input";
* a body with fewer than three fields, an empty column or an empty operator.
-/

namespace RestQuery
namespace Filter

/-- How a clause is joined to the ones before it. -/
inductive Connective where
  | and
  | or
  deriving Repr, DecidableEq

/-- The values a clause compares with. -/
inductive Operand where
  /-- SQL `NULL`, written `null` in any ASCII case. -/
  | null
  /-- One value. -/
  | one (value : String)
  /-- Two or more values. -/
  | many (values : List String)
  deriving Repr, DecidableEq

/-- One clause, as written. -/
structure Clause where
  path : List String
  column : String
  operator : String
  value : Operand
  connective : Connective
  deriving Repr, DecidableEq

/-- What makes a filter text malformed. -/
inductive Problem where
  | clauseExpected
  | unclosedClause
  | unknownConnective (text : String)
  | danglingConnective
  | missingFields (body : String)
  | missingColumn (body : String)
  | missingOperator (body : String)
  deriving Repr, DecidableEq

/-- A malformed filter, with the byte offset where the fault was found. -/
structure Malformed where
  position : Nat
  problem : Problem
  deriving Repr, DecidableEq

/-- The wording of a fault. -/
def Problem.message : Problem → String
  | .clauseExpected => "expected a clause after the connective"
  | .unclosedClause => "clause is missing its closing ']'"
  | .unknownConnective t => "unrecognized connective '" ++ t ++ "'"
  | .danglingConnective => "dangling connective at end of input"
  | .missingFields b => "clause '[" ++ b ++ "]' needs a column, an operator and a value"
  | .missingColumn b => "clause '[" ++ b ++ "]' has no column"
  | .missingOperator b => "clause '[" ++ b ++ "]' has no operator"

/-- Whether two texts are equal once ASCII letters are put in one case. -/
def sameAsciiCase (a b : String) : Bool :=
  a.toList.map Char.toLower == b.toList.map Char.toLower

/-- The operand written by the value fields of a clause. -/
def Operand.ofFields : List String → Operand
  | [v] => if sameAsciiCase v "null" then .null else .one v
  | vs => .many vs

/-- Reads the body of a clause found at byte `position`. -/
def parseClause (body : String) (connective : Connective) (position : Nat) :
    Except Malformed Clause :=
  match Text.split body ',' with
  | first :: op :: v :: vs =>
    let ref := Reference.parse first
    if ref.column.isEmpty then .error ⟨position, .missingColumn body⟩
    else
      let operator := Text.trim op
      if operator.isEmpty then .error ⟨position, .missingOperator body⟩
      else
        .ok { path := ref.path, column := Naming.columnCase ref.column, operator,
              value := Operand.ofFields (v :: vs), connective }
  | _ => .error ⟨position, .missingFields body⟩

/-- Reads clauses from tokens; `pending` is a connective read but not yet used, with its
offset. -/
def parseTokens (pending : Option (Connective × Nat)) : List Token → Except Malformed (List Clause)
  | [] =>
    match pending with
    | some (_, p) => .error ⟨p, .danglingConnective⟩
    | none => .ok []
  | t :: ts =>
    match t.kind with
    | .and | .or =>
      if pending.isSome then .error ⟨t.span.start, .clauseExpected⟩
      else
        let c := if t.kind = .and then Connective.and else Connective.or
        parseTokens (some (c, t.span.start)) ts
    | .clause body => do
      let clause ← parseClause body ((pending.map Prod.fst).getD .and) t.span.start
      let rest ← parseTokens none ts
      pure (clause :: rest)
    | .illegal text =>
      if text.startsWith "[" then .error ⟨t.span.start, .unclosedClause⟩
      else .error ⟨t.span.start, .unknownConnective text⟩

/-- The clauses of a filter text. -/
def parse (s : String) : Except Malformed (List Clause) :=
  parseTokens none (scan s)

end Filter
end RestQuery
