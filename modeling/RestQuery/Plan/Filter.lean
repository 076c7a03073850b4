import RestQuery.Filter.Clause

/-!
# Filters of a plan

A plan filters rows by a disjunction of conjunctions: a list of groups, each a
list of conditions, where a row passes when every condition of some group
holds.  A condition compares a column, reached through a path of aliases
from the root, with its operand.

Clauses are folded into groups from left to right: a clause joined by `OR`
opens a new group, unless the open group is still empty; any other clause
joins the open group.  The fold starts from one empty group.

**Results.**
* `conditions_fold`: folding loses and repeats no condition: the groups,
  concatenated, are the conditions in order.
-/

namespace RestQuery
namespace Plan

open RestQuery.Filter (Connective Operand)

/-- A comparison of one column with an operand. -/
structure Condition where
  path : List String
  column : String
  operator : String
  value : Operand
  deriving Repr, DecidableEq

/-- The key under which a condition is reported: the column, or `$path.column$` for a
column of a joined table. -/
def Condition.fieldKey (c : Condition) : String :=
  if c.path.isEmpty then c.column
  else "$" ++ String.intercalate "." c.path ++ "." ++ c.column ++ "$"

/-- A disjunction of conjunctions of conditions. -/
structure FilterTree where
  groups : List (List Condition)
  deriving Repr, DecidableEq

/-- Adds one clause to the groups built so far (the open group last). -/
def foldStep (groups : List (List Condition)) (entry : Connective × Condition) :
    List (List Condition) :=
  match groups.getLast? with
  | some last =>
    if entry.1 = .or ∧ last ≠ [] then groups ++ [[entry.2]]
    else groups.dropLast ++ [last ++ [entry.2]]
  | none => [[entry.2]]

namespace FilterTree

/-- Groups conditions by the connectives written before them. -/
def fold (entries : List (Connective × Condition)) : FilterTree :=
  ⟨entries.foldl foldStep [[]]⟩

/-- All conditions, group after group. -/
def conditions (f : FilterTree) : List Condition :=
  f.groups.flatten

end FilterTree

theorem flatten_foldStep (groups : List (List Condition)) (entry : Connective × Condition) :
    (foldStep groups entry).flatten = groups.flatten ++ [entry.2] := by
  unfold foldStep
  cases h : groups.getLast? with
  | none =>
    rw [List.getLast?_eq_none_iff] at h
    simp [h]
  | some last =>
    have hg : groups = groups.dropLast ++ [last] := by
      rw [List.getLast?_eq_some_iff] at h
      obtain ⟨ys, rfl⟩ := h
      simp
    simp only
    split
    · simp
    · conv => rhs; rw [hg]
      simp

theorem conditions_fold (entries : List (Connective × Condition)) :
    (FilterTree.fold entries).conditions = entries.map Prod.snd := by
  unfold FilterTree.fold FilterTree.conditions
  suffices h : ∀ (acc : List (List Condition)),
      (entries.foldl foldStep acc).flatten = acc.flatten ++ entries.map Prod.snd by
    simpa using h [[]]
  induction entries with
  | nil => simp
  | cons e rest ih =>
    intro acc
    simp [List.foldl_cons, ih, flatten_foldStep]

end Plan
end RestQuery
