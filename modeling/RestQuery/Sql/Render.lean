import RestQuery.Sql.Syntax

/-!
# Writing statements

A statement is written in one of two modes: *bound*, where every value
stands as a placeholder and is handed over apart, in the order the
placeholders appear; and *inline*, where every value is written as a
literal, for reading.

What differs between databases is a `Style`: the quote around identifiers
(doubled inside one), whether placeholders are numbered (`$1`, `$2`) or all
`?`, and how a text literal is quoted.  A text is quoted either by
doubling its single quotes, or by escaping backslash, both quotes, NUL,
backspace, substitute (as `\z`), newline, return and tab with backslashes, and then,
in some styles, marked with a leading `E` when the escaped text holds a
backslash.

An operand is parenthesised unless it is a single term, a predicate under a
connective, the left operand of the same connective, or the `a AND b` range
of `BETWEEN`.  `DISTINCT` before an argument takes the argument in styles
with numbered placeholders; in the others it is written as `DISTINCT $1`
with no argument.

**Results.**
* `quoteIdent_plain`: an identifier without the quote character is written
  between quotes as it is.
-/

namespace RestQuery
namespace Sql

/-- How one database writes statements. -/
structure Style where
  /-- The quote around identifiers. -/
  quote : Char
  /-- Whether placeholders are numbered. -/
  numbered : Bool
  /-- Whether text literals escape with backslashes; otherwise single quotes are doubled. -/
  backslashEscapes : Bool
  /-- Whether an escaped text literal holding a backslash is marked with `E`. -/
  markEscapes : Bool
  deriving Repr

/-- A written identifier. -/
def quoteIdent (st : Style) (name : String) : String :=
  String.ofList (st.quote :: name.toList.flatMap (fun c => if c = st.quote then [c, c] else [c]) ++ [st.quote])

/-- The backslash escape of one character of a text literal. -/
def escapeChar (c : Char) : List Char :=
  if c = '\\' then ['\\', '\\']
  else if c = '"' then ['\\', '"']
  else if c = '\'' then ['\\', '\'']
  else if c.toNat = 0 then ['\\', '0']
  else if c.toNat = 8 then ['\\', 'b']
  else if c.toNat = 26 then ['\\', 'z']
  else if c = '\n' then ['\\', 'n']
  else if c = '\r' then ['\\', 'r']
  else if c = '\t' then ['\\', 't']
  else [c]

/-- A written text literal. -/
def quoteText (st : Style) (s : String) : String :=
  if st.backslashEscapes then
    let escaped := s.toList.flatMap escapeChar
    let mark := if st.markEscapes && escaped.contains '\\' then "E" else ""
    mark ++ "'" ++ String.ofList escaped ++ "'"
  else "'" ++ String.ofList (s.toList.flatMap fun c => if c = '\'' then [c, c] else [c]) ++ "'"

/-- A value written as a literal. -/
def literal (st : Style) : Value → String
  | .bigint i => toString i
  | .bigunsigned n => toString n
  | .double x => x.render
  | .string s => quoteText st s
  | .bool b => if b then "TRUE" else "FALSE"

/-- A statement being written: its text so far and the values bound so far. -/
structure Output where
  text : String := ""
  values : List Value := []
  deriving Repr

namespace Output

/-- Appends text. -/
def push (o : Output) (s : String) : Output :=
  { o with text := o.text ++ s }

/-- Appends a value: a placeholder when bound, a literal when inline. -/
def pushValue (st : Style) (inline : Bool) (o : Output) (v : Value) : Output :=
  if inline then o.push (literal st v)
  else
    let mark := if st.numbered then "$" ++ toString (o.values.length + 1) else "?"
    { text := o.text ++ mark, values := o.values ++ [v] }

end Output

mutual

/-- Writes an expression. -/
def writeExpr (st : Style) (inline : Bool) : Expr → Output → Output
  | .column t none, o => o.push (quoteIdent st t ++ ".*")
  | .column t (some c), o => o.push (quoteIdent st t ++ "." ++ quoteIdent st c)
  | .star, o => o.push "*"
  | .value v, o => o.pushValue st inline v
  | .null, o => o.push "NULL"
  | .constant b, o => o.push (if b then "TRUE" else "FALSE")
  | .tuple items, o => (writeList st inline items (o.push "(")).push ")"
  | .call name args, o => (writeList st inline args (o.push (name ++ "("))).push ")"
  | .distinct inner, o =>
    if st.numbered then writeExpr st inline inner (o.push "DISTINCT ") else o.push "DISTINCT $1"
  | .binary l op r, o =>
    let leftParens := !(l.boundTighter op) && !(l.binOp? == some op && op.isLogical)
    let rightParens := !(r.boundTighter op) && !(op.isRange && r.binOp? == some .and)
    let o := if leftParens then (writeExpr st inline l (o.push "(")).push ")" else writeExpr st inline l o
    let o := o.push (" " ++ op.keyword ++ " ")
    if rightParens then (writeExpr st inline r (o.push "(")).push ")" else writeExpr st inline r o

/-- Writes expressions separated by commas. -/
def writeList (st : Style) (inline : Bool) : List Expr → Output → Output
  | [], o => o
  | [e], o => writeExpr st inline e o
  | e :: rest, o => writeList st inline rest ((writeExpr st inline e o).push ", ")

end

/-- Writes items one after another, with a separator between them. -/
def writeEach {α : Type} (sep : String) (write : α → Output → Output) : List α → Output → Output
  | [], o => o
  | [a], o => write a o
  | a :: rest, o => writeEach sep write rest ((write a o).push sep)

/-- The clauses of a select statement, each written after those before it: the items, the
tables, the joins, the filter, the grouping, the order and the window. -/
def Select.clauses (st : Style) (inline : Bool) (s : Select) : List (Output → Output) :=
  let expr := writeExpr st inline
  [writeEach ", " (fun (i : Item) o =>
      let o := expr i.expr o
      match i.aliasName with
      | some a => o.push (" AS " ++ quoteIdent st a)
      | none => o) s.items,
    fun o => o.push (" FROM " ++ quoteIdent st s.table ++ " AS " ++ quoteIdent st s.aliasName),
    fun o => s.joins.foldl (fun o j =>
      expr j.condition (o.push (" LEFT JOIN " ++ quoteIdent st j.table ++ " AS " ++
        quoteIdent st j.aliasName ++ " ON "))) o,
    fun o => match s.filter with
      | some f => expr f (o.push " WHERE ")
      | none => o,
    fun o => if s.groupBy.isEmpty then o else writeList st inline s.groupBy (o.push " GROUP BY "),
    fun o => if s.orderBy.isEmpty then o
      else writeEach ", " (fun (e : Expr × Order) o =>
        (expr e.1 o).push (match e.2 with | .asc => " ASC" | .desc => " DESC")) s.orderBy
          (o.push " ORDER BY "),
    fun o => match s.limit with
      | some n => (o.push " LIMIT ").pushValue st inline (.bigunsigned n)
      | none => o,
    fun o => match s.offset with
      | some n => (o.push " OFFSET ").pushValue st inline (.bigunsigned n)
      | none => o]

/-- Writes a select statement. -/
def Select.write (st : Style) (inline : Bool) (s : Select) : Output :=
  (s.clauses st inline).foldl (fun o clause => clause o) { text := "SELECT " }

/-- A statement with placeholders, and its values in placeholder order. -/
def Select.bound (st : Style) (s : Select) : String × List Value :=
  let o := s.write st false
  (o.text, o.values)

/-- A statement with its values written in, for reading. -/
def Select.display (st : Style) (s : Select) : String :=
  (s.write st true).text

theorem flatMap_double_of_not_mem (q : Char) (cs : List Char) (h : q ∉ cs) :
    cs.flatMap (fun c => if c = q then [c, c] else [c]) = cs := by
  induction cs with
  | nil => rfl
  | cons c rest ih =>
    have hc : c ≠ q := by
      intro e
      apply h
      simp [e]
    have hr : q ∉ rest := by
      intro m
      apply h
      simp [m]
    simp [hc, ih hr]

theorem quoteIdent_plain (st : Style) (name : String) (h : st.quote ∉ name.toList) :
    quoteIdent st name = String.ofList (st.quote :: name.toList ++ [st.quote]) := by
  simp [quoteIdent, flatMap_double_of_not_mem st.quote name.toList h]

end Sql
end RestQuery
