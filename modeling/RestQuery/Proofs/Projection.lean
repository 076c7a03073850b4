import RestQuery.Proofs.PathWalk
import RestQuery.Proofs.FailedParse

/-!
# Projected columns

The `attributes` parameter asks for columns: each of its groups names a
path, resolved from the root, and the columns to project from the node it
reaches.  Groups that reach one node add their columns to those it already
projects; a group with a path and no column still marks its node as
projected, with nothing added.  The parsers of `where`, the aggregate and
`order`, and plain path resolution, share the include tree but only add
nodes to it, whether they succeed or fail, and never change what a node
projects.

So, over any run of calls on one tree, what a node projects is determined
by the text of the groups alone: the columns of every group whose path
spells the node's alias chain, call after call and group after group, added
to what it projected before the first call (`accumulate`).  Two spellings
of one path reach one node.

**Steps that only grow.**  `Grows` says of a step that every run of it, from
a linked tree with a root and whatever its outcome, leaves a linked tree
grown by new nodes only (`Grown`); resolving paths and the parsers of
`where`, the aggregate and `order` are such steps.

**The invariant.**  `Projects t₀ groups t`: `t` is a linked tree grown from
`t₀`, every group of `groups` reaches a node of `t`, and every node of `t`
projects what `t₀` had it project with the columns of the groups on its
chain added.  A growing step keeps it, and a group of `attributes` that
succeeds extends it by itself.

**Results.**
* `Grows.bind`, `Grows.sequential`, `Grows.tryCatch`: steps put together
  from growing steps grow.
* `parseWhere_grows`, `parseAggregate_grows`, `parseOrder_grows`: the parsers
  that do not project only grow the tree.
* `parseAttributes_projects`: a call of `attributes` that succeeds adds the
  columns of its groups to the nodes their paths reach.
* `session_projections`: over every run of calls on one tree, what each node
  projects.
-/

namespace RestQuery
namespace Request

open Plan Schema IncludeTree

/-! ## Steps that only add nodes -/

/-- Every run of `b` from a linked tree with a root, whether it succeeds or fails, leaves the tree
linked and grown by new nodes only: the nodes it had keep their model, alias, parent and
projected columns. -/
def Grows {α : Type} (reg : Registry) (b : Build α) : Prop :=
  ∀ w : Workspace, Linked reg w.tree → 0 < w.tree.length →
    Linked reg (b.run w).2.tree ∧ ∃ new, Grown w.tree (b.run w).2.tree new

namespace Grows

variable {α β γ : Type} {reg : Registry}

/-- A step that leaves the tree as it was grows it by nothing. -/
theorem of_tree_eq {b : Build α} (h : ∀ w : Workspace, (b.run w).2.tree = w.tree) : Grows reg b := by
  intro w hL _
  rw [h w]
  exact ⟨hL, [], Grown.refl _⟩

theorem pure (a : α) : Grows reg (Pure.pure a : Build α) :=
  of_tree_eq fun _ => rfl

theorem throw (e : RequestError) : Grows reg (MonadExcept.throw e : Build α) :=
  of_tree_eq fun _ => rfl

theorem note (n : Note) : Grows reg (Request.note n) :=
  of_tree_eq fun _ => rfl

theorem liftExcept (x : Except RequestError α) : Grows reg (Request.liftExcept x) :=
  of_tree_eq fun w => by rw [Build.run_liftExcept]

theorem chainOf (n : NodeId) : Grows reg (Request.chainOf n) :=
  of_tree_eq fun w => by rw [chainOf_run]

theorem bind {x : Build α} {f : α → Build β} (hx : Grows reg x) (hf : ∀ a, Grows reg (f a)) :
    Grows reg (x >>= f) := by
  intro w hL h0
  obtain ⟨hL₁, new₁, hg₁⟩ := hx w hL h0
  rw [Build.run_bind]
  rcases hrun : x.run w with ⟨_ | a, w₁⟩
  · rw [hrun] at hL₁ hg₁
    exact ⟨hL₁, new₁, hg₁⟩
  · rw [hrun] at hL₁ hg₁
    -- the rest runs on the grown tree, which still has its root
    obtain ⟨hL₂, new₂, hg₂⟩ := hf a w₁ hL₁ (Nat.lt_of_lt_of_le h0 hg₁.length_le)
    exact ⟨hL₂, new₁ ++ new₂, hg₁.trans hg₂ hL₁.parents_below hL₂.parents_below⟩

theorem sequential : Sequential fun {α} => @Grows α reg :=
  ⟨pure, bind⟩

/-- A check that fails unless its condition is false. -/
theorem check {p : Prop} [Decidable p] {e : RequestError} {k : PUnit → Build α} (hk : Grows reg (k ())) :
    Grows reg (if p then MonadExcept.throw e >>= k else k ()) :=
  Sequential.ite (Φ := fun {α} => @Grows α reg) (bind (throw e) fun _ => hk) hk

theorem tryCatch {x : Build α} {h : RequestError → Build α} (hx : Grows reg x)
    (hh : ∀ e, Grows reg (h e)) : Grows reg (tryCatch x h) := by
  intro w hL h0
  obtain ⟨hL₁, new₁, hg₁⟩ := hx w hL h0
  rw [Build.run_tryCatch]
  rcases hrun : x.run w with ⟨e | a, w₁⟩
  · rw [hrun] at hL₁ hg₁
    -- the handler runs on what the failed step left
    obtain ⟨hL₂, new₂, hg₂⟩ := hh e w₁ hL₁ (Nat.lt_of_lt_of_le h0 hg₁.length_le)
    exact ⟨hL₂, new₁ ++ new₂, hg₁.trans hg₂ hL₁.parents_below hL₂.parents_below⟩
  · rw [hrun] at hL₁ hg₁
    exact ⟨hL₁, new₁, hg₁⟩

end Grows

variable {reg : Registry}

/-- A walk from a node of a linked tree, whether it succeeds or fails, only grows the tree. -/
theorem resolveSegments_grown {w : Workspace} {start : NodeId} (hL : Linked reg w.tree)
    (hs : start < w.tree.length) (ss : List String) :
    Linked reg ((resolveSegments reg start ss).run w).2.tree ∧
      ∃ new, Grown w.tree ((resolveSegments reg start ss).run w).2.tree new := by
  rcases hrun : (resolveSegments reg start ss).run w with ⟨e | n, w'⟩
  · obtain ⟨_, _, -, -, -, _, hR⟩ := resolveFrom_error ss ss hL hs hrun
    exact ⟨hR.linked, _, hR.grown⟩
  · obtain ⟨-, hR⟩ := resolveFrom_ok ss ss hL hs hrun
    exact ⟨hR.linked, _, hR.grown⟩

theorem resolve_grown {w : Workspace} {start : NodeId} (hL : Linked reg w.tree)
    (hs : start < w.tree.length) (dotted : String) :
    Linked reg ((resolve reg start dotted).run w).2.tree ∧
      ∃ new, Grown w.tree ((resolve reg start dotted).run w).2.tree new := by
  rw [resolve_eq]
  exact resolveSegments_grown hL hs _

theorem resolveSegments_grows (ss : List String) : Grows reg (resolveSegments reg 0 ss) :=
  fun _ hL h0 => resolveSegments_grown hL h0 ss

theorem resolve_grows (dotted : String) : Grows reg (resolve reg 0 dotted) :=
  fun _ hL h0 => resolve_grown hL h0 dotted

theorem conditionOf_grows (c : Filter.Clause) : Grows reg (conditionOf reg c) := by
  unfold conditionOf
  dsimp only
  split
  · exact Grows.bind (Grows.pure _) fun _ => Grows.pure _
  · exact Grows.bind (resolveSegments_grows _) fun node =>
      Grows.bind (Grows.chainOf node) fun _ => Grows.pure _

theorem parseWhere_grows (input : String) : Grows reg (parseWhere reg input) := by
  unfold parseWhere
  exact Grows.bind (Grows.liftExcept _) fun _ => Grows.bind (Grows.note _) fun _ =>
    Grows.bind (Grows.sequential.mapM conditionOf_grows _) fun _ => Grows.pure _

theorem parseGroup_grows (g : String) : Grows reg (parseGroup reg g) := by
  unfold parseGroup
  split
  · exact Grows.pure _
  · dsimp only
    exact Grows.check <| Grows.bind (resolveSegments_grows _) fun node =>
      Grows.bind (Grows.chainOf node) fun _ => Grows.pure _

theorem parseAggregate_grows (input : String) : Grows reg (parseAggregate reg input) := by
  unfold parseAggregate
  dsimp only
  refine Grows.check <| Grows.check <| Grows.check <| Grows.check ?_
  refine Grows.bind (Grows.liftExcept _) fun _ => ?_
  refine Grows.bind (resolveSegments_grows _) fun node => ?_
  refine Grows.bind (Grows.chainOf node) fun _ => ?_
  exact Grows.bind (parseGroup_grows _) fun _ => Grows.bind (Grows.note _) fun _ => Grows.pure _

theorem orderEntry_grows (group : String) : Grows reg (orderEntry reg group) := by
  unfold orderEntry
  split
  dsimp only
  refine Grows.check ?_
  exact Grows.bind (resolveSegments_grows _) fun node => Grows.bind (Grows.chainOf node) fun _ =>
    Grows.bind (Grows.liftExcept _) fun _ => Grows.pure _

theorem parseOrder_grows (input : String) : Grows reg (parseOrder reg input) :=
  Grows.sequential.mapM orderEntry_grows _

end Request

namespace Plan
namespace IncludeTree

open Schema

variable {reg : Registry}

/-- Changing what a node projects keeps a tree linked. -/
theorem Linked.modify {t : IncludeTree} (hL : Linked reg t) {id : Nat} {f : JoinNode → JoinNode}
    (hid : id < t.length)
    (hf : ∀ n, (f n).model = n.model ∧ (f n).aliasName = n.aliasName ∧ (f n).parent = n.parent ∧
      (f n).children = n.children) :
    Linked reg (t.modify id f) := by
  have hnode : ∀ i, ((t.modify id f).node i).model = (t.node i).model ∧
      ((t.modify id f).node i).aliasName = (t.node i).aliasName ∧
      ((t.modify id f).node i).parent = (t.node i).parent ∧
      ((t.modify id f).node i).children = (t.node i).children :=
    node_modify_rel t hid (fun a b => a.model = b.model ∧ a.aliasName = b.aliasName ∧
      a.parent = b.parent ∧ a.children = b.children) (fun _ => ⟨rfl, rfl, rfl, rfl⟩) hf
  have hlen := length_modify t id f
  refine ⟨?_, ?_, ?_, ?_⟩ <;>
    simp only [ParentsBelow, ChildrenListed, SiblingsDistinct, Related, hlen,
      fun i => (hnode i).1, fun i => (hnode i).2.1, fun i => (hnode i).2.2.1, fun i => (hnode i).2.2.2]
  · exact hL.parents_below
  · exact hL.children_listed
  · exact hL.siblings_distinct
  · exact hL.related

end IncludeTree
end Plan

namespace Request

open Plan Schema IncludeTree

variable {reg : Registry}

/-! ## What nodes project -/

/-- The alias chain of the node a group of `attributes` projects from: the aliases of its path. -/
def groupChain (group : String) : List String :=
  aliasPath (dottedSegments (attributePath group))

/-- The columns a group of `attributes` projects: the fields after its path, each trimmed and in
column case. -/
def groupColumnsOf (group : String) : List String :=
  ((Text.split group ',').drop 1).map fun col => Naming.columnCase (Text.trim col)

/-- The columns that `groups` project from the node with alias chain `chain`, group by group. -/
def projections (groups : List String) (chain : List String) : List (List String) :=
  (groups.filter fun g => groupChain g == chain).map groupColumnsOf

/-- What a node projects once lists of columns were added, in order, to what it projected: the
first addition turns nothing into a projection, even of no column. -/
def accumulate (init : Option (List String)) (added : List (List String)) : Option (List String) :=
  added.foldl (fun acc cols => some (acc.getD [] ++ cols)) init

@[simp] theorem accumulate_nil (init : Option (List String)) : accumulate init [] = init := rfl

theorem accumulate_concat (init : Option (List String)) (added : List (List String))
    (cols : List String) :
    accumulate init (added ++ [cols]) = some ((accumulate init added).getD [] ++ cols) := by
  simp [accumulate, List.foldl_append]

theorem accumulate_some (a : List String) (added : List (List String)) :
    accumulate (some a) added = some (a ++ added.flatten) := by
  induction added generalizing a with
  | nil => simp
  | cons cols rest ih =>
    rw [accumulate, List.foldl_cons, ← accumulate, Option.getD_some, ih]
    simp

/-- From nothing, the columns added make a projection exactly when something was added. -/
theorem accumulate_none (added : List (List String)) :
    accumulate none added = if added = [] then none else some added.flatten := by
  cases added with
  | nil => rfl
  | cons cols rest =>
    rw [accumulate, List.foldl_cons, ← accumulate, Option.getD_none, accumulate_some]
    simp

@[simp] theorem projections_nil (chain : List String) : projections [] chain = [] := rfl

theorem projections_append (G H : List String) (chain : List String) :
    projections (G ++ H) chain = projections G chain ++ projections H chain := by
  simp [projections, List.filter_append]

theorem projections_singleton (g : String) (chain : List String) :
    projections [g] chain = if groupChain g = chain then [groupColumnsOf g] else [] := by
  by_cases h : groupChain g = chain <;> simp [projections, h]

theorem projections_eq_nil {G : List String} {chain : List String}
    (h : ∀ g ∈ G, groupChain g ≠ chain) : projections G chain = [] := by
  simp only [projections, List.map_eq_nil_iff, List.filter_eq_nil_iff, beq_iff_eq]
  exact h

/-- The columns of a group that reads are its fields, trimmed and in column case. -/
theorem groupColumns_eq_ok {group : String} {cols cs : List String}
    (h : groupColumns group cols = .ok cs) :
    cs = cols.map fun col => Naming.columnCase (Text.trim col) := by
  have hall := Sql.mapM_eq_ok_iff.mp h
  rw [eq_comm, ← List.forall₂_eq_eq_eq, List.forall₂_map_left_iff]
  refine hall.imp fun col c hc => ?_
  dsimp only at hc
  split at hc
  · cases hc
  · exact Except.ok.inj hc

/-- `t` is a linked tree with a root, grown from `t₀`; every group of `groups` reaches one of its
nodes, and every node projects what it projected in `t₀`, nothing for a node `t₀` lacks, with
the columns of the groups on its chain added. -/
structure Projects (reg : Registry) (t₀ : IncludeTree) (groups : List String) (t : IncludeTree) :
    Prop where
  linked : Linked reg t
  root : 0 < t.length
  length_le : t₀.length ≤ t.length
  reached : ∀ g ∈ groups, t.HasChain (groupChain g)
  attributes : ∀ i < t.length,
    (t.node i).attributes = accumulate (t₀.node i).attributes (projections groups (t.aliasChain i))

namespace Projects

variable {t₀ t t' : IncludeTree} {G : List String}

theorem start (hL : Linked reg t) (h0 : 0 < t.length) : Projects reg t [] t :=
  ⟨hL, h0, le_refl _, fun _ hg => absurd hg List.not_mem_nil, fun _ _ => rfl⟩

/-- Growing the tree keeps the invariant: old nodes keep their chains and columns, and a new node
has a chain no group reached before, and projects nothing. -/
theorem grown (h : Projects reg t₀ G t) (hL' : Linked reg t') {new : List (List String)}
    (hg : Grown t t' new) : Projects reg t₀ G t' := by
  have hP := h.linked.parents_below
  have hP' := hL'.parents_below
  refine ⟨hL', Nat.lt_of_lt_of_le h.root hg.length_le, le_trans h.length_le hg.length_le,
    fun g hmem => (hg.hasChain_iff hP hP' _).mpr (.inl (h.reached g hmem)), fun i hi => ?_⟩
  by_cases hold : i < t.length
  · rw [hg.node_old i hold, hg.aliasChain_old hP hP' hold]
    exact h.attributes i hold
  · -- a new node: its chain is no old node's, so no group of `G` is on it
    have hfresh : ∀ g ∈ G, groupChain g ≠ t'.aliasChain i := by
      intro g hmem heq
      obtain ⟨j, hj, hjc⟩ := h.reached g hmem
      have hsame : t'.aliasChain j = t'.aliasChain i := by
        rw [hg.aliasChain_old hP hP' hj, hjc, heq]
      exact hold (hL'.aliasChain_injective (Nat.lt_of_lt_of_le hj hg.length_le) hi hsame ▸ hj)
    have hblank : t₀.node i = blank := by
      have hle : t₀.length ≤ i := by have := h.length_le; omega
      simp only [node, List.getD_eq_getElem?_getD, List.getElem?_eq_none hle, Option.getD_none]
    rw [hg.attributes_new i (by omega) hi, projections_eq_nil hfresh, hblank]
    rfl

theorem of_grows {α : Type} {b : Build α} (hb : Grows reg b) {w : Workspace}
    (h : Projects reg t₀ G w.tree) : Projects reg t₀ G (b.run w).2.tree := by
  obtain ⟨hL', new, hg⟩ := hb w h.linked h.root
  exact h.grown hL' hg

/-- Adding a group's columns to the node on its chain extends the invariant by the group. -/
theorem project (h : Projects reg t₀ G t) {n : Nat} (hn : n < t.length) {g : String}
    (hc : t.aliasChain n = groupChain g) :
    Projects reg t₀ (G ++ [g])
      (t.modify n fun x => { x with attributes := some (x.attributes.getD [] ++ groupColumnsOf g) }) := by
  have hP := h.linked.parents_below
  have hkeep : ∀ x : JoinNode,
      ({ x with attributes := some (x.attributes.getD [] ++ groupColumnsOf g) } : JoinNode).aliasName =
        x.aliasName ∧
      ({ x with attributes := some (x.attributes.getD [] ++ groupColumnsOf g) } : JoinNode).parent =
        x.parent := fun _ => ⟨rfl, rfl⟩
  have hlen := length_modify t n fun x => { x with attributes := some (x.attributes.getD [] ++ groupColumnsOf g) }
  refine ⟨h.linked.modify hn fun _ => ⟨rfl, rfl, rfl, rfl⟩, hlen ▸ h.root, hlen ▸ h.length_le,
    fun g' hmem => ?_, fun i hi => ?_⟩
  · rw [hasChain_modify hP hn hkeep]
    rcases List.mem_append.mp hmem with hmem | hmem
    · exact h.reached g' hmem
    · rw [List.mem_singleton.mp hmem]
      exact ⟨n, hn, hc⟩
  · rw [hlen] at hi
    rw [aliasChain_modify hP hn hkeep hi, node_modify t _ i hn, projections_append,
      projections_singleton]
    split
    · -- the node of the group gains its columns
      rename_i hin
      subst hin
      rw [if_pos hc.symm, accumulate_concat, ← h.attributes i hi]
    · -- any other node has another chain, so the group is not on it
      rename_i hin
      have hne : groupChain g ≠ t.aliasChain i := fun heq =>
        hin (h.linked.aliasChain_injective hi hn (heq.symm.trans hc.symm))
      rw [if_neg hne, List.append_nil]
      exact h.attributes i hi

end Projects

/-- Resolving a path from the root keeps the invariant and reaches the node of its chain. -/
theorem resolve_projects {t₀ : IncludeTree} {G : List String} (dotted : String) :
    Triple (fun w => Projects reg t₀ G w.tree) (resolve reg 0 dotted)
      (fun n w => Projects reg t₀ G w.tree ∧ n < w.tree.length ∧
        w.tree.aliasChain n = aliasPath (dottedSegments dotted)) := by
  intro w h n w' hrun
  rw [resolve_eq] at hrun
  obtain ⟨-, hR⟩ := resolveFrom_ok _ _ h.linked h.root hrun
  refine ⟨h.grown hR.linked hR.grown, hR.lt, ?_⟩
  rw [hR.chain, aliasChain_root, List.nil_append]

/-- A group that succeeds adds its columns to the node its path reaches. -/
theorem projectGroup_projects {t₀ : IncludeTree} {G : List String} (g : String) :
    Triple (fun w => Projects reg t₀ G w.tree) (projectGroup reg g)
      (fun _ w => Projects reg t₀ (G ++ [g]) w.tree) := by
  unfold projectGroup
  refine Triple.bind (Triple.liftExcept _) fun cols => ?_
  refine Triple.bind (Triple.frame (resolve_projects (attributePath g))) fun node => ?_
  refine Triple.bind (Triple.note _ (fun t => (Projects reg t₀ G t ∧ node < t.length ∧
    t.aliasChain node = groupChain g) ∧ groupColumns g ((Text.split g ',').drop 1) = .ok cols))
    fun _ => ?_
  refine Triple.conseq (Triple.updateTree _ (Projects reg t₀ (G ++ [g]))) (fun w h => ?_)
    fun _ w h => h
  obtain ⟨⟨hP, hn, hc⟩, hcols⟩ := h
  rw [groupColumns_eq_ok hcols]
  exact hP.project hn hc

/-- A call of `attributes` that succeeds adds the columns of its groups, in order. -/
theorem parseAttributes_projects {t₀ : IncludeTree} {G : List String} (input : String) :
    Triple (fun w => Projects reg t₀ G w.tree) (parseAttributes reg input)
      (fun _ w => Projects reg t₀ (G ++ GroupList.split input) w.tree) := by
  have hloop := Triple.forM (f := projectGroup reg) (fun pre w => Projects reg t₀ (G ++ pre) w.tree)
    (fun pre g => Triple.conseq (projectGroup_projects g) (fun w h => h)
      fun _ w h => by rwa [List.append_assoc] at h) (GroupList.split input) []
  exact Triple.conseq hloop (fun w h => by rwa [List.append_nil]) fun _ w h => h

/-! ## Calls on one tree -/

/-- A call that resolves paths on an include tree: plain resolution of a dotted path from a node,
or one of the parsers of `where`, `attributes`, the aggregate and `order`. -/
inductive TreeCall where
  | resolve (start : NodeId) (dotted : String)
  | filter (input : String)
  | attributes (input : String)
  | aggregate (input : String)
  | order (input : String)
  deriving Repr, DecidableEq

namespace TreeCall

/-- A call as a step, its result dropped. -/
def run (reg : Registry) : TreeCall → Build Unit
  | .resolve start dotted => discard (Request.resolve reg start dotted)
  | .filter input => discard (parseWhere reg input)
  | .attributes input => parseAttributes reg input
  | .aggregate input => discard (parseAggregate reg input)
  | .order input => discard (parseOrder reg input)

/-- Calls one after the other, each on the workspace the one before left, whether it succeeded or
failed. -/
def runAll (reg : Registry) : List TreeCall → Workspace → Workspace
  | [], w => w
  | c :: cs, w => runAll reg cs ((c.run reg).run w).2

/-- The groups of `attributes` a call projects. -/
def groups : TreeCall → List String
  | .attributes input => GroupList.split input
  | .resolve _ _ | .filter _ | .aggregate _ | .order _ => []

/-- What a call asks of the workspace it runs on: a call of `attributes` succeeds there, and a
resolution starts at a node of the tree. -/
def Admissible (reg : Registry) (w : Workspace) : TreeCall → Prop
  | .resolve start _ => start < w.tree.length
  | .attributes input => ((parseAttributes reg input).run w).1 = .ok ()
  | _ => True

/-- Every call of a list is admissible on the workspace the calls before it left. -/
def AdmissibleList (reg : Registry) : List TreeCall → Workspace → Prop
  | [], _ => True
  | c :: cs, w => c.Admissible reg w ∧ AdmissibleList reg cs ((c.run reg).run w).2

end TreeCall

/-- One admissible call keeps the invariant, extended by the groups it projects. -/
theorem TreeCall.run_projects {t₀ : IncludeTree} {G : List String} {w : Workspace} (c : TreeCall)
    (h : Projects reg t₀ G w.tree) (hc : c.Admissible reg w) :
    Projects reg t₀ (G ++ c.groups) ((c.run reg).run w).2.tree := by
  cases c with
  | resolve start dotted =>
    -- discarding the node keeps the tree the resolution left
    have hrun : ((TreeCall.resolve start dotted).run reg).run w =
        ((fun _ => ()) <$> Request.resolve reg start dotted).run w := rfl
    rw [hrun, Build.run_map, groups, List.append_nil]
    obtain ⟨hL', new, hg⟩ := resolve_grown h.linked hc dotted
    rcases hres : (Request.resolve reg start dotted).run w with ⟨_ | _, w'⟩ <;>
      rw [hres] at hL' hg <;> exact h.grown hL' hg
  | filter input =>
    rw [groups, List.append_nil]
    exact h.of_grows (Grows.sequential.map (parseWhere_grows input))
  | attributes input =>
    have hrun : (parseAttributes reg input).run w = (.ok (), ((parseAttributes reg input).run w).2) :=
      Prod.ext hc rfl
    exact parseAttributes_projects input w h () _ hrun
  | aggregate input =>
    rw [groups, List.append_nil]
    exact h.of_grows (Grows.sequential.map (parseAggregate_grows input))
  | order input =>
    rw [groups, List.append_nil]
    exact h.of_grows (Grows.sequential.map (parseOrder_grows input))

/-- A run of admissible calls keeps the invariant, extended by all the groups projected. -/
theorem TreeCall.runAll_projects {t₀ : IncludeTree} :
    ∀ (calls : List TreeCall) (G : List String) (w : Workspace), Projects reg t₀ G w.tree →
      TreeCall.AdmissibleList reg calls w →
      Projects reg t₀ (G ++ calls.flatMap TreeCall.groups) (TreeCall.runAll reg calls w).tree
  | [], G, w, h, _ => by simpa [TreeCall.runAll] using h
  | c :: cs, G, w, h, ⟨hc, hcs⟩ => by
    have hrest := TreeCall.runAll_projects cs _ _ (c.run_projects h hc) hcs
    rwa [List.append_assoc, ← List.flatMap_cons] at hrest

/-- **Projected columns over a run of calls.**  Start from any linked tree with a root and run
calls of plain resolution and of the parsers of `where`, `attributes`, the aggregate and `order`
on it, one after the other, the calls of `attributes` succeeding, the others ending either way.
Every node then projects what it projected before, with the columns of the groups whose path
spells its alias chain added, call after call and group after group, each column trimmed and in
column case.  So a node that projected nothing before projects nothing exactly when no group
reached it, and otherwise the columns of those groups in order; a group with no column still
marks its node as projected. -/
theorem session_projections {w w' : Workspace} {calls : List TreeCall}
    (hL : Linked reg w.tree) (h0 : 0 < w.tree.length) (hadm : TreeCall.AdmissibleList reg calls w)
    (hrun : TreeCall.runAll reg calls w = w') {i : NodeId} (hi : i < w'.tree.length) :
    (w'.tree.node i).attributes =
        accumulate (w.tree.node i).attributes
          (projections (calls.flatMap TreeCall.groups) (w'.tree.aliasChain i)) ∧
      ((w.tree.node i).attributes = none →
        ((w'.tree.node i).attributes = none ↔
            projections (calls.flatMap TreeCall.groups) (w'.tree.aliasChain i) = []) ∧
          (projections (calls.flatMap TreeCall.groups) (w'.tree.aliasChain i) ≠ [] →
            (w'.tree.node i).attributes =
              some (projections (calls.flatMap TreeCall.groups) (w'.tree.aliasChain i)).flatten)) := by
  have h := TreeCall.runAll_projects calls [] w (Projects.start hL h0) hadm
  rw [hrun, List.nil_append] at h
  have hattr := h.attributes i hi
  refine ⟨hattr, fun hnone => ?_⟩
  rw [hattr, hnone, accumulate_none]
  split_ifs with hp <;> simp [hp]

/-! ## Translated requests -/

/-- A growing step keeps the invariant whenever it succeeds. -/
theorem Grows.projects {α : Type} {b : Build α} (hb : Grows reg b) {t₀ : IncludeTree} {G : List String} :
    Triple (fun w => Projects reg t₀ G w.tree) b (fun _ w => Projects reg t₀ G w.tree) := by
  intro w h a w' hrun
  have hw := h.of_grows hb
  rwa [hrun] at hw

theorem Grows.currentTree : Grows reg Request.currentTree :=
  Grows.of_tree_eq fun w => by rw [Build.run_currentTree]

theorem includeStep_grows (tr : Translator) (p : Params) : Grows tr.registry (tr.includeStep p) := by
  unfold Translator.includeStep
  split
  · refine Grows.bind ?_ fun _ => Grows.bind Grows.currentTree fun _ => Grows.note _
    exact Grows.sequential.forM (fun path => Grows.sequential.map (resolve_grows _)) _
  · exact Grows.pure _

theorem filterStep_grows (tr : Translator) (p : Params) : Grows tr.registry (tr.filterStep p) := by
  unfold Translator.filterStep Translator.readFilter
  split
  · refine Grows.tryCatch (Grows.sequential.map (parseWhere_grows _)) fun e => ?_
    -- a malformed filter is refused or dropped with a note; other faults pass through
    split
    · exact Sequential.ite (Φ := fun {α} => @Grows α tr.registry) (Grows.throw _)
        (Grows.bind (Grows.note _) fun _ => Grows.pure _)
    · exact Grows.throw _
  · exact Grows.pure _

theorem aggregateStep_grows (tr : Translator) (p : Params) : Grows tr.registry (tr.aggregateStep p) := by
  unfold Translator.aggregateStep
  split
  · exact Grows.sequential.map (parseAggregate_grows _)
  · exact Grows.pure _

theorem orderStep_grows (tr : Translator) (p : Params) : Grows tr.registry (tr.orderStep p) := by
  unfold Translator.orderStep
  split
  · exact parseOrder_grows _
  · exact Grows.pure _

/-- The groups of the `attributes` parameter of a request, none when it is not given. -/
def attributeGroups (p : Params) : List String :=
  ((present p.attributes).map GroupList.split).getD []

theorem attributesStep_projects (tr : Translator) (p : Params) {t₀ : IncludeTree} {G : List String} :
    Triple (fun w => Projects tr.registry t₀ G w.tree) (tr.attributesStep p)
      (fun _ w => Projects tr.registry t₀ (G ++ attributeGroups p) w.tree) := by
  unfold Translator.attributesStep attributeGroups
  split
  · rename_i value hv
    rw [hv]
    exact parseAttributes_projects value
  · rename_i hv
    rw [hv]
    exact Triple.pure _ fun w h => by simpa using h

theorem attributes_new (model : String) (i : NodeId) : ((IncludeTree.new model).node i).attributes = none := by
  cases i with
  | zero => rfl
  | succ i => simp [IncludeTree.new, node, blank]

/-- In a translated plan, every node projects the columns of the groups of `attributes` whose path
spells its chain, group by group, and nothing when there is none. -/
theorem build_projections (tr : Translator) (model : Model) (p : Params) :
    Triple (fun w => w.tree = IncludeTree.new model.name) (tr.build model p)
      (fun r _ => ∀ i < r.plan.tree.length, (r.plan.tree.node i).attributes =
        accumulate none (projections (attributeGroups p) (r.plan.tree.aliasChain i))) := by
  let t₀ := IncludeTree.new model.name
  unfold Translator.build
  have hinclude : Triple (fun w => Projects tr.registry t₀ [] w.tree) (tr.includeStep p)
      (fun _ w => Projects tr.registry t₀ [] w.tree) :=
    Grows.projects (includeStep_grows tr p)
  refine Triple.bind (Triple.conseq hinclude (fun w h => ?_) fun _ _ h => h) fun _ => ?_
  · rw [h]
    exact Projects.start (linked_new _) (wellFormed_new tr.registry _).length_pos
  refine Triple.bind (Grows.projects (filterStep_grows tr p)) fun parsed => ?_
  refine Triple.bind (attributesStep_projects tr p) fun _ => ?_
  refine Triple.bind (Grows.projects (aggregateStep_grows tr p)) fun aggregate => ?_
  refine Triple.bind (Grows.projects (orderStep_grows tr p)) fun order => ?_
  refine Triple.bind (Grows.projects (Grows.liftExcept _)) fun limit => ?_
  refine Triple.bind (Grows.projects (Grows.liftExcept _)) fun offset => ?_
  refine Triple.bind (Grows.projects (Grows.liftExcept _)) fun raw => ?_
  refine Triple.bind (Grows.projects (Grows.liftExcept _)) fun count => ?_
  refine Triple.bind Triple.currentTree fun tree => ?_
  refine Triple.bind (Triple.note_tree _) fun _ => Triple.pure _ ?_
  rintro w ⟨w₀, ⟨h, rfl⟩, -⟩
  intro i hi
  rw [h.attributes i hi, List.nil_append, attributes_new]

theorem translate_projections {tr : Translator} {route : String} {p : Params} {r : PlannedRequest}
    (h : (tr.translate route p).1 = .ok r) :
    ∀ i < r.plan.tree.length, (r.plan.tree.node i).attributes =
      accumulate none (projections (attributeGroups p) (r.plan.tree.aliasChain i)) := by
  unfold Translator.translate at h
  split at h
  · cases h
  · rename_i model _
    rcases hrun : (tr.build model p).run { tree := IncludeTree.new model.name } with ⟨res, w⟩
    rw [hrun] at h
    cases h
    exact build_projections tr model p _ rfl r w hrun

/-- Three calls on the root `Customers` of the shop: `attributes` with `,id;orders,total`, `order`
with `orders.line_items.qty,DESC`, and `attributes` with `,name;[orders.line_items,qty]`. -/
def shopCalls : List TreeCall :=
  [.attributes ",id;orders,total", .order "orders.line_items.qty,DESC",
    .attributes ",name;[orders.line_items,qty]"]

theorem shop_sessionProjections :
    let w : Workspace := { tree := IncludeTree.new "Customers" }
    let w' := TreeCall.runAll shopRegistry shopCalls w
    Linked shopRegistry w.tree ∧ 0 < w.tree.length ∧ TreeCall.AdmissibleList shopRegistry shopCalls w ∧
    1 < w'.tree.length ∧
    ((w'.tree.node 1).attributes =
        accumulate (w.tree.node 1).attributes
          (projections (shopCalls.flatMap TreeCall.groups) (w'.tree.aliasChain 1)) ∧
      ((w.tree.node 1).attributes = none →
        ((w'.tree.node 1).attributes = none ↔
            projections (shopCalls.flatMap TreeCall.groups) (w'.tree.aliasChain 1) = []) ∧
          (projections (shopCalls.flatMap TreeCall.groups) (w'.tree.aliasChain 1) ≠ [] →
            (w'.tree.node 1).attributes =
              some (projections (shopCalls.flatMap TreeCall.groups) (w'.tree.aliasChain 1)).flatten))) := by
  intro w w'
  have hadm : TreeCall.AdmissibleList shopRegistry shopCalls w := by
    refine ⟨?_, trivial, ?_, trivial⟩ <;> simp only [TreeCall.Admissible] <;> decide +kernel
  have hi : 1 < w'.tree.length := by decide +kernel
  exact ⟨linked_new "Customers", by decide, hadm, hi,
    session_projections (linked_new "Customers") (by decide) hadm rfl hi⟩

end Request
end RestQuery
