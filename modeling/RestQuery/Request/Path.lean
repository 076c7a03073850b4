import RestQuery.Request.Build
import RestQuery.Schema.Model
import RestQuery.Text.Split

/-!
# Join paths

A join path is a list of segments, written with dots: `orders.line_items`.
A segment is trimmed and names a relation of the model reached so far by its
Pascal-case form; the part before its first `:` names the target model, so
`orders:billing` is the relation `Orders:billing` and must target `Orders`.
Resolving a path walks the include tree from a node, reusing the child with
the same alias or adding a new one, and ends at the node of the last segment.
A segment that names no such relation fails with the whole path as written.
Joins made for the segments before it stay in the tree.
-/

namespace RestQuery
namespace Request

open Plan Schema

/-- Whether a segment names a relation of the model at `current`; gives its alias and model. -/
def segmentTarget (reg : Registry) (t : IncludeTree) (current : NodeId) (segment : String) :
    Option (String × String) :=
  let table := (Text.split segment ':').headD ""
  let model := Naming.pascal table
  let aliasName := Naming.pascal segment
  let related :=
    match reg.get (t.node current).model with
    | some parent =>
      match parent.relation aliasName with
      | some r => r.target == model
      | none => false
    | none => false
  if table.isEmpty || !related then none else some (aliasName, model)

/-- Takes one segment from `current`: the child under the segment's alias, joined when it is
missing; `segments` is the whole path, for the error. -/
def resolveStep (reg : Registry) (segments : List String) (current : NodeId) (seg : String) :
    Build NodeId := do
  let s := Text.trim seg
  let t ← currentTree
  match segmentTarget reg t current s with
  | none => throw (.unknownPath (String.intercalate "." segments) s)
  | some (aliasName, model) =>
    match t.childByAlias current aliasName with
    | some child => pure child
    | none =>
      let (t', child) := t.addChild current model aliasName
      updateTree fun _ => t'
      pure child

/-- Walks `rest` from `current`; `segments` is the whole path, for the error. -/
def resolveFrom (reg : Registry) (segments : List String) (current : NodeId) :
    List String → Build NodeId
  | [] => pure current
  | seg :: rest => do
    let next ← resolveStep reg segments current seg
    resolveFrom reg segments next rest

/-- The node reached from `start` by a list of segments, joining what is missing. -/
def resolveSegments (reg : Registry) (start : NodeId) (segments : List String) : Build NodeId :=
  resolveFrom reg segments start segments

/-- The node reached from `start` by a dotted path; the empty path stays at `start`. -/
def resolve (reg : Registry) (start : NodeId) (dotted : String) : Build NodeId :=
  if dotted.isEmpty then pure start else resolveSegments reg start (Text.split dotted '.')

/-- The alias chain of a node of the current tree. -/
def chainOf (n : NodeId) : Build (List String) := do
  return (← currentTree).aliasChain n

end Request
end RestQuery
