/-!
# Include trees

The joins of a query form a tree rooted at the queried model.  Every node
names a model and the alias under which it is joined; its path is the chain
of aliases from the root, joined with dots (`Orders.LineItems`), and is the
name of its table in SQL.  The root's alias is its model and its path is
empty.  Nodes are numbered in the order they are created, the root being
node `0`; a node lists its children in creation order and may carry the
columns projected from it.

**Results.**
* `length_addChild`: adding a child adds exactly one node.
* `aliasChain_root`: the root's alias chain is empty.
-/

namespace RestQuery
namespace Plan

/-- The number of a node: its position in creation order. -/
abbrev NodeId := Nat

/-- A joined model. -/
structure JoinNode where
  model : String
  aliasName : String
  path : String
  parent : Option NodeId
  children : List NodeId
  attributes : Option (List String)
  deriving Repr, DecidableEq

/-- The joins of a query, nodes in creation order. -/
structure IncludeTree where
  nodes : List JoinNode
  deriving Repr, DecidableEq

namespace IncludeTree

/-- The tree of a single root model. -/
def new (model : String) : IncludeTree :=
  ⟨[{ model, aliasName := model, path := "", parent := none, children := [], attributes := none }]⟩

/-- The node stand-in for a number that names no node. -/
def blank : JoinNode :=
  { model := "", aliasName := "", path := "", parent := none, children := [], attributes := none }

/-- The node with a number. -/
def node (t : IncludeTree) (id : NodeId) : JoinNode :=
  t.nodes.getD id blank

/-- The root node. -/
def root (t : IncludeTree) : JoinNode :=
  t.node 0

/-- The number of nodes, root included. -/
def length (t : IncludeTree) : Nat :=
  t.nodes.length

/-- Whether the tree has no node besides the root. -/
def isEmpty (t : IncludeTree) : Bool :=
  t.length == 1

/-- Changes one node. -/
def modify (t : IncludeTree) (id : NodeId) (f : JoinNode → JoinNode) : IncludeTree :=
  ⟨t.nodes.modify id f⟩

/-- The first child of a node with the given alias. -/
def childByAlias (t : IncludeTree) (parent : NodeId) (aliasName : String) : Option NodeId :=
  (t.node parent).children.find? fun c => (t.node c).aliasName == aliasName

/-- Adds a node under `parent`; it receives the next number. -/
def addChild (t : IncludeTree) (parent : NodeId) (model aliasName : String) : IncludeTree × NodeId :=
  let parentPath := (t.node parent).path
  let path := if parentPath.isEmpty then aliasName else parentPath ++ "." ++ aliasName
  let id := t.length
  let grown : IncludeTree :=
    ⟨t.nodes ++ [{ model, aliasName, path, parent := some parent, children := [], attributes := none }]⟩
  (grown.modify parent fun n => { n with children := n.children ++ [id] }, id)

/-- The aliases from below the root down to a node; `fuel` bounds the climb. -/
def aliasChainAux (t : IncludeTree) : Nat → NodeId → List String → List String
  | 0, _, acc => acc
  | fuel + 1, id, acc =>
    if id = 0 then acc
    else
      let n := t.node id
      match n.parent with
      | some p => aliasChainAux t fuel p (n.aliasName :: acc)
      | none => n.aliasName :: acc

/-- The aliases from below the root down to a node. -/
def aliasChain (t : IncludeTree) (id : NodeId) : List String :=
  aliasChainAux t t.length id []

/-- The non-root nodes with their numbers, in creation order. -/
def joins (t : IncludeTree) : List (NodeId × JoinNode) :=
  ((List.range t.length).zip t.nodes).drop 1

theorem length_addChild (t : IncludeTree) (parent : NodeId) (model aliasName : String) :
    (t.addChild parent model aliasName).1.length = t.length + 1 := by
  simp [addChild, modify, length]

theorem aliasChain_root (t : IncludeTree) : t.aliasChain 0 = [] := by
  unfold aliasChain
  cases t.length <;> simp [aliasChainAux]

end IncludeTree
end Plan
end RestQuery
