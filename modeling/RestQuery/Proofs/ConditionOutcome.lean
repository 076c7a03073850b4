import RestQuery.Proofs.CompileErrors

/-!
# How an operator and its operand decide a condition

A condition is compiled by one table of cases over its operator, a leading
`$` removed, and the shape of its operand.  The order of the cases makes a
range operator check for two values before anything else, the truth tests
`is` and `not` read their one value, and the remaining operators refuse
`NULL` and lists by a guard that only known operators pass; an operator that
no case names is unsupported, whatever its operand.

Read as a whole, the table says three things.  An operator is refused as
unsupported exactly when it is none of the fifteen known ones
(`knownOperators`).  A known operator refuses its operand exactly when the
operand does not fit it (`Misfit`), and compiles otherwise, `NULL` beside
`eq` or `is` giving `IS NULL` and beside `ne` or `not` giving `IS NOT NULL`.
And the operator text itself is read only through its stripped form, apart
from being carried in the errors; since only one `$` is stripped, this makes
`$eq` and `eq` one operator but not `$$eq` and `$eq`.

**Operator classes.**  The known operators fall into four classes by the
operands they take: the comparisons take one value, and `NULL` only beside
`eq` and `ne` (`Comparison`); the truth tests `is` and `not` take `NULL` or
a value that reads as `true` or `false` (`TruthTest`); `in` and `notIn`
take one value or a list (`ListTest`); `between` and `notBetween` take a
list of exactly two values (`RangeTest`).  Each class has its own rows of
the table, and its verdict is proved once.

**Results.**
* `mem_knownOperators`: the known operators are those of the four classes.
* `verdict_of_comparison`, `verdict_of_truthTest`, `verdict_of_listTest`,
  `verdict_of_rangeTest`: the verdict of each class.
* `compileCondition_unknown`: an unknown operator is unsupported.
* `compileCondition_unsupported_iff`, `compileCondition_known`: the two
  verdicts of the table.
* `compileCondition_withOperator`: two operator texts with one stripped form
  give one result, up to the text in the errors.
* `compileCondition_outcome`: all of this together.
* `doubleDollar_unsupported`: `$$eq` is unsupported while `$eq` compiles.
-/

namespace RestQuery
namespace Sql

open Plan

/-- The operators a condition can use, written without their leading `$`. -/
def knownOperators : List String :=
  ["eq", "ne", "gt", "gte", "lt", "lte", "like", "notLike", "iLike", "is", "not", "in", "notIn",
    "between", "notBetween"]

/-- An operand that does not fit a known operator: `NULL` beside an operator other than `eq`, `ne`,
`is` and `not`; a list beside one other than `in`, `notIn` and the two ranges; a range whose operand
is not a list of exactly two values; or a truth test whose one value is neither `true` nor `false`
in any ASCII case. -/
def Misfit (op : String) (v : Filter.Operand) : Prop :=
  (v = .null ∧ op ∉ ["eq", "ne", "is", "not"]) ∨
  ((∃ vs, v = .many vs) ∧ op ∉ ["in", "notIn", "between", "notBetween"]) ∨
  ((op = "between" ∨ op = "notBetween") ∧ ¬ ∃ a b, v = .many [a, b]) ∨
  ((op = "is" ∨ op = "not") ∧ ∃ s, v = .one s ∧ parseTruth s = none)

/-- An error with the operator text it carries replaced by `o`. -/
def CompileError.withOperator (o : String) : CompileError → CompileError
  | .unsupportedOperator _ => .unsupportedOperator o
  | .invalidOperand _ column fault => .invalidOperand o column fault
  | e => e

/-- An operator that does not start with `$` is its own stripped form. -/
theorem normalize_of_head {o : String} (h : o.toList.head? ≠ some '$') : normalize o = o := by
  unfold normalize
  split
  · rename_i rest hrest
    rw [hrest] at h
    exact absurd rfl h
  · rfl

section Classes

/-- The operators that compare the column with one value; `eq` and `ne` also test for `NULL`. -/
inductive Comparison : String → Prop
  | eq : Comparison "eq"
  | ne : Comparison "ne"
  | gt : Comparison "gt"
  | gte : Comparison "gte"
  | lt : Comparison "lt"
  | lte : Comparison "lte"
  | like : Comparison "like"
  | notLike : Comparison "notLike"
  | iLike : Comparison "iLike"

/-- The truth tests, which read their one value as `true` or `false`, or test for `NULL`. -/
inductive TruthTest : String → Prop
  | is : TruthTest "is"
  | not : TruthTest "not"

/-- The list tests, which take one value or a list of them. -/
inductive ListTest : String → Prop
  | isIn : ListTest "in"
  | notIn : ListTest "notIn"

/-- The range tests, which take a list of exactly two values. -/
inductive RangeTest : String → Prop
  | between : RangeTest "between"
  | notBetween : RangeTest "notBetween"

/-- The known operators are those of the four classes. -/
theorem mem_knownOperators {op : String} :
    op ∈ knownOperators ↔ Comparison op ∨ TruthTest op ∨ ListTest op ∨ RangeTest op := by
  constructor
  · intro h
    simp only [knownOperators, List.mem_cons, List.not_mem_nil, or_false] at h
    rcases h with rfl | rfl | rfl | rfl | rfl | rfl | rfl | rfl | rfl | rfl | rfl | rfl | rfl |
      rfl | rfl
    exacts [.inl .eq, .inl .ne, .inl .gt, .inl .gte, .inl .lt, .inl .lte, .inl .like,
      .inl .notLike, .inl .iLike, .inr (.inl .is), .inr (.inl .not), .inr (.inr (.inl .isIn)),
      .inr (.inr (.inl .notIn)), .inr (.inr (.inr .between)), .inr (.inr (.inr .notBetween))]
  · rintro (h | h | h | h) <;> cases h <;> decide

end Classes

variable {P : QueryPlan} {c : Condition}

/-- The verdict of the table on a condition with a known operator: it compiles and its operand
fits, or it is refused as an invalid operand and its operand does not fit. -/
def Verdict (P : QueryPlan) (c : Condition) : Prop :=
  ((∃ e, compileCondition P c = .ok e) ∧ ¬ Misfit (normalize c.operator) c.value) ∨
    ((∃ f, compileCondition P c = .error (.invalidOperand c.operator c.fieldKey f)) ∧
      Misfit (normalize c.operator) c.value)

/-- A comparison compiles one value, and `NULL` beside `eq` or `ne`; it refuses a list, and
`NULL` beside the others. -/
theorem verdict_of_comparison (hop : Comparison (normalize c.operator)) : Verdict P c := by
  unfold Verdict compileCondition
  generalize normalize c.operator = op at hop ⊢
  cases hv : c.value with
  | null => cases hop <;> simp [Misfit, isScalarOperator]
  | one s => cases hop <;> simp [Misfit]
  | many vs => cases hop <;> simp [Misfit, isScalarOperator]

/-- A truth test compiles `NULL` and a value that reads as `true` or `false`, and refuses any
other value and a list. -/
theorem verdict_of_truthTest (hop : TruthTest (normalize c.operator)) : Verdict P c := by
  unfold Verdict compileCondition
  generalize normalize c.operator = op at hop ⊢
  cases hv : c.value with
  | null => cases hop <;> simp [Misfit]
  | one s =>
    -- the value is read before the row is decided
    cases ht : parseTruth s <;> cases hop <;> simp [Misfit, ht]
  | many vs => cases hop <;> simp [Misfit, isScalarOperator]

/-- A list test compiles one value and a list, and refuses `NULL`. -/
theorem verdict_of_listTest (hop : ListTest (normalize c.operator)) : Verdict P c := by
  unfold Verdict compileCondition
  generalize normalize c.operator = op at hop ⊢
  cases hv : c.value with
  | null => cases hop <;> simp [Misfit]
  | one s => cases hop <;> simp [Misfit]
  | many vs => cases hop <;> simp [Misfit]

/-- A range test compiles a list of exactly two values and refuses every other operand. -/
theorem verdict_of_rangeTest (hop : RangeTest (normalize c.operator)) : Verdict P c := by
  unfold Verdict compileCondition
  generalize normalize c.operator = op at hop ⊢
  cases hv : c.value with
  | null => cases hop <;> simp [Misfit]
  | one s => cases hop <;> simp [Misfit]
  | many vs =>
    -- the row of a range names the list of two values; every other length falls to its refusal
    rcases vs with _ | ⟨a, _ | ⟨b, _ | ⟨d, rest⟩⟩⟩ <;> cases hop <;> simp [Misfit]

/-- The operators that take one value, the comparisons and the truth tests, are known ones. -/
theorem mem_knownOperators_of_isScalar {op : String} (h : isScalarOperator op = true) :
    op ∈ knownOperators := by
  rw [isScalarOperator, List.contains_iff_mem] at h
  exact List.mem_append_left ["in", "notIn", "between", "notBetween"] h

/-- An operator that is no known one is refused as unsupported, whatever its operand: each row of
the table that names an operator is out of its reach, and the rows left refuse it. -/
theorem compileCondition_unknown (hop : normalize c.operator ∉ knownOperators) :
    compileCondition P c = .error (.unsupportedOperator c.operator) := by
  have hscalar : isScalarOperator (normalize c.operator) = false :=
    Bool.eq_false_iff.mpr fun h => hop (mem_knownOperators_of_isScalar h)
  unfold compileCondition
  generalize normalize c.operator = op at hop hscalar ⊢
  split <;> simp [knownOperators, hscalar] at hop ⊢

/-- A known operator compiles exactly the operands that fit it and refuses the others as invalid
operands. -/
theorem compileCondition_known (hop : normalize c.operator ∈ knownOperators) :
    ((∃ e, compileCondition P c = .ok e) ∧ ¬ Misfit (normalize c.operator) c.value) ∨
    ((∃ f, compileCondition P c = .error (.invalidOperand c.operator c.fieldKey f)) ∧
      Misfit (normalize c.operator) c.value) := by
  rcases mem_knownOperators.mp hop with hcmp | htruth | hlist | hrange
  · exact verdict_of_comparison hcmp
  · exact verdict_of_truthTest htruth
  · exact verdict_of_listTest hlist
  · exact verdict_of_rangeTest hrange

/-- An operator is refused as unsupported exactly when it is not a known one, and then whatever its
operand is. -/
theorem compileCondition_unsupported_iff :
    compileCondition P c = .error (.unsupportedOperator c.operator) ↔
      normalize c.operator ∉ knownOperators := by
  constructor
  · -- a known operator compiles or is refused as an invalid operand
    intro h hop
    rcases compileCondition_known (P := P) hop with ⟨⟨e, he⟩, -⟩ | ⟨⟨f, hf⟩, -⟩
    · rw [he] at h
      cases h
    · rw [hf] at h
      cases h
  · exact compileCondition_unknown

theorem compileCondition_misfit_iff (hop : normalize c.operator ∈ knownOperators) :
    (∃ f, compileCondition P c = .error (.invalidOperand c.operator c.fieldKey f)) ↔
      Misfit (normalize c.operator) c.value := by
  rcases compileCondition_known (P := P) hop with ⟨⟨e, he⟩, hfit⟩ | ⟨herr, hmis⟩
  · refine ⟨fun ⟨f, hf⟩ => ?_, fun hmis => absurd hmis hfit⟩
    rw [he] at hf
    cases hf
  · exact ⟨fun _ => hmis, fun _ => herr⟩

theorem compileCondition_ok_iff (hop : normalize c.operator ∈ knownOperators) :
    (∃ e, compileCondition P c = .ok e) ↔ ¬ Misfit (normalize c.operator) c.value := by
  rcases compileCondition_known (P := P) hop with ⟨hok, hfit⟩ | ⟨⟨f, hf⟩, hmis⟩
  · exact ⟨fun _ => hfit, fun _ => hok⟩
  · refine ⟨fun ⟨e, he⟩ => ?_, fun hfit => absurd hmis hfit⟩
    rw [hf] at he
    cases he

/-- `NULL` beside `eq` or `is` asks for `IS NULL`. -/
theorem compileCondition_isNull (hv : c.value = .null)
    (hop : normalize c.operator = "eq" ∨ normalize c.operator = "is") :
    compileCondition P c = .ok (.binary (columnAt P c.path c.column) .is .null) := by
  rcases hop with hop | hop <;> simp [compileCondition, hop, hv]

/-- `NULL` beside `ne` or `not` asks for `IS NOT NULL`. -/
theorem compileCondition_isNotNull (hv : c.value = .null)
    (hop : normalize c.operator = "ne" ∨ normalize c.operator = "not") :
    compileCondition P c = .ok (.binary (columnAt P c.path c.column) .isNot .null) := by
  rcases hop with hop | hop <;> simp [compileCondition, hop, hv]

/-- The operator text is read only through its stripped form: another text with the same stripped
form gives the same expression, and the same error carrying the other text. -/
theorem compileCondition_withOperator {o : String} (h : normalize o = normalize c.operator) :
    compileCondition P { c with operator := o } =
      (compileCondition P c).mapError (·.withOperator o) := by
  by_cases hk : normalize c.operator ∈ knownOperators
  · -- the rows of a known operator read only its stripped form and the operand, so both sides
    -- build one expression or report one fault
    have hkey : ({ c with operator := o } : Condition).fieldKey = c.fieldKey := rfl
    unfold compileCondition
    dsimp only
    rw [h, hkey]
    generalize normalize c.operator = op at hk ⊢
    rcases mem_knownOperators.mp hk with hop | hop | hop | hop
    · -- comparisons
      cases hop <;> cases c.value <;> rfl
    · -- truth tests, which read their one value first
      cases hv : c.value with
      | null => cases hop <;> rfl
      | one s =>
        cases ht : parseTruth s <;> cases hop <;>
          simp [ht, Except.mapError, CompileError.withOperator]
      | many vs => cases hop <;> rfl
    · -- list tests
      cases hop <;> cases c.value <;> rfl
    · -- range tests, whose row names a list of two values
      cases hop <;> rcases c.value with _ | _ | (_ | ⟨a, _ | ⟨b, _ | ⟨d, rest⟩⟩⟩) <;> rfl
  · -- an unknown operator is refused on both sides, each error carrying its own text
    have hk' : normalize ({ c with operator := o } : Condition).operator ∉ knownOperators := by
      rw [show ({ c with operator := o } : Condition).operator = o from rfl, h]
      exact hk
    rw [compileCondition_unknown hk', compileCondition_unknown hk]
    rfl

end Sql

open Plan Sql in
/-- A condition is refused as unsupported exactly when its operator, one leading `$` removed, is
not a known operator.  With a known operator it is refused as an invalid operand exactly when the
operand does not fit, and compiles otherwise, `NULL` beside `eq` or `is` giving `IS NULL` and beside
`ne` or `not` giving `IS NOT NULL`.  When the operator with its `$` removed does not itself start
with `$`, compiling the condition with that stripped operator gives the same result, apart from the
operator text the errors carry. -/
theorem compileCondition_outcome (P : QueryPlan) (c : Condition) :
    (compileCondition P c = .error (.unsupportedOperator c.operator) ↔
      normalize c.operator ∉ knownOperators) ∧
    (normalize c.operator ∈ knownOperators →
      ((∃ f, compileCondition P c = .error (.invalidOperand c.operator c.fieldKey f)) ↔
        Misfit (normalize c.operator) c.value) ∧
      ((∃ e, compileCondition P c = .ok e) ↔ ¬ Misfit (normalize c.operator) c.value)) ∧
    (c.value = .null → (normalize c.operator = "eq" ∨ normalize c.operator = "is") →
      compileCondition P c = .ok (.binary (columnAt P c.path c.column) .is .null)) ∧
    (c.value = .null → (normalize c.operator = "ne" ∨ normalize c.operator = "not") →
      compileCondition P c = .ok (.binary (columnAt P c.path c.column) .isNot .null)) ∧
    ((normalize c.operator).toList.head? ≠ some '$' →
      compileCondition P { c with operator := normalize c.operator } =
        (compileCondition P c).mapError (·.withOperator (normalize c.operator))) :=
  ⟨compileCondition_unsupported_iff,
    fun hop => ⟨compileCondition_misfit_iff hop, compileCondition_ok_iff hop⟩,
    compileCondition_isNull, compileCondition_isNotNull,
    fun hhead => compileCondition_withOperator (normalize_of_head hhead)⟩

open Plan Sql in
/-- Only one `$` is stripped: `$$eq` is refused as an unsupported operator, while `$eq`, which is
`$$eq` with one `$` removed, compiles to an equality. -/
theorem doubleDollar_unsupported :
    normalize "$$eq" = "$eq" ∧
    compileCondition { model := "Customers", tree := IncludeTree.new "Customers" }
        ⟨[], "id", "$$eq", .one "1"⟩ = .error (.unsupportedOperator "$$eq") ∧
    compileCondition { model := "Customers", tree := IncludeTree.new "Customers" }
        ⟨[], "id", "$eq", .one "1"⟩ =
      .ok (.binary (columnAt { model := "Customers", tree := IncludeTree.new "Customers" } [] "id")
        .eq (operand "1")) :=
  ⟨rfl, rfl, rfl⟩

end RestQuery
