import RestQuery.Plan.Query
import RestQuery.RequestError

/-!
# Building a plan

A request is translated step by step on a workspace: the include tree grown
so far and the notes taken about the work, in order.  A step may fail; the
workspace then keeps what the steps before the failure did, so a join made
before a fault stays in the tree.  `Build` is the monad of such steps.

The notes are what the service logs about translating a request; they never change
its result.
-/

namespace RestQuery
namespace Request

open Plan

/-- What the translator reports while it works. -/
inductive Note where
  /-- The paths of `include` were resolved; the tree now has `joins` joined nodes. -/
  | includesResolved (joins : Nat)
  /-- A malformed filter was dropped. -/
  | filterIgnored (error : RequestError)
  /-- The filter text was read into `count` clauses. -/
  | clausesParsed (count : Nat)
  /-- A group of `attributes` projected columns from the node at `path`. -/
  | columnsProjected (path : String) (columns : List String)
  /-- The aggregate was read. -/
  | aggregateParsed (expression : String) (grouped : Bool)
  /-- The request was translated. -/
  | translated (model : String) (joins : Nat) (nestedFilter : Bool)
  deriving Repr, DecidableEq

/-- The state a request is translated in. -/
structure Workspace where
  tree : IncludeTree
  notes : List Note := []
  deriving Repr

/-- A step of translating: it may fail, and it keeps the workspace either way. -/
abbrev Build := ExceptT RequestError (StateM Workspace)

/-- Runs a step on a workspace. -/
def Build.run {α : Type} (b : Build α) (w : Workspace) : Except RequestError α × Workspace :=
  (ExceptT.run b).run w

/-- Records a note. -/
def note (n : Note) : Build Unit :=
  modify fun w => { w with notes := w.notes ++ [n] }

/-- The include tree so far. -/
def currentTree : Build IncludeTree := do
  return (← get).tree

/-- Changes the include tree. -/
def updateTree (f : IncludeTree → IncludeTree) : Build Unit :=
  modify fun w => { w with tree := f w.tree }

/-- Fails unless a step outside the workspace succeeded. -/
def liftExcept {α : Type} : Except RequestError α → Build α
  | .ok a => pure a
  | .error e => throw e

end Request
end RestQuery
