import RestQuery.Plan.Json
import RestQuery.Json.Document
import RestQuery.Proofs.TreeShape
import Mathlib.Logic.Relation
import Mathlib.Data.List.Forall2

/-!
# The include list of a plan

The JSON form of a plan carries its joins as a nested `include` list: one
entry per child of the root, each entry carrying its own `include` list of
the node's children, and so on down.  The list is rendered by recursion over
children lists with the number of nodes as fuel.  This module shows that for
every tree a query can build the rendering is complete and faithful: the list
is there exactly when the root has a join, and read in document order its
entries are the non-root nodes, each once, the `as` texts from the top down
to an entry spelling the node's alias chain, siblings in the order they were
added, and each entry carrying `model`, `as`, `attributes` exactly when the
node projects columns, and `include` exactly when it has children.

**Arenas.**  A tree is built from a root by adding children under nodes that
exist and by setting the columns a node projects (`Built`).  Such a tree is an
`Arena`: parents come before their children, the children lists are the
parent links read downwards, and every node lists its children in increasing
order.  In an arena the nodes below a node are those from which climbing
parent links reaches it (`Under`), and two siblings have no node below both.

**Reading the list.**  `includeOutline` reads an include list in document
order, pairing every entry with the `as` texts of the entries it is nested
in and its own.  The rendering lists the nodes in depth-first order
(`preorder`), which in an arena holds every non-root node once, and keeps
siblings in increasing order.

**Results.**
* `Built.arena`: the trees a query builds are arenas.
* `preorder_perm`, `preorder_siblings`: depth-first order lists each non-root
  node once and keeps siblings in creation order.
* `entriesOutline_includeEntries`: the rendering reads back as the
  depth-first order of the nodes, with their alias chains and entries.
* `toJson_includeList`: the include list of a plan.
-/

namespace RestQuery
namespace Plan

open Json (Value)

namespace IncludeTree

/-! ## Trees built by adding children -/

/-- The trees a query builds: the root alone, then children added under nodes that exist and
columns projected from nodes that exist. -/
inductive Built : IncludeTree → Prop
  | new (model : String) : Built (IncludeTree.new model)
  | addChild {t : IncludeTree} {parent : Nat} (model aliasName : String) :
      Built t → parent < t.length → Built (t.addChild parent model aliasName).1
  | project {t : IncludeTree} {id : Nat} (cols : Option (List String)) :
      Built t → id < t.length → Built (t.modify id fun n => { n with attributes := cols })

/-- What the include list relies on: node `0` is a root, parents come before their children, the
children lists are the parent links read downwards, and each lists its children in increasing
order. -/
structure Arena (t : IncludeTree) : Prop where
  length_pos : 0 < t.length
  root_parent : (t.node 0).parent = none
  parents_below : ParentsBelow t
  children_listed : ChildrenListed t
  children_sorted : ∀ j, (t.node j).children.Pairwise (· < ·)

variable {t : IncludeTree}

theorem node_of_length_le {x : Nat} (h : t.length ≤ x) : t.node x = blank := by
  simp [node, List.getD_eq_getElem?_getD, List.getElem?_eq_none (show t.nodes.length ≤ x from h)]

/-- Only nodes of the tree have a parent. -/
theorem lt_length_of_parent {x p : Nat} (h : (t.node x).parent = some p) : x < t.length := by
  by_contra hx
  rw [node_of_length_le (Nat.le_of_not_lt hx)] at h
  cases h

theorem arena_new (model : String) : Arena (IncludeTree.new model) where
  length_pos := by simp [IncludeTree.new, length]
  root_parent := rfl
  parents_below := fun i hi hl => absurd hl (by simp [IncludeTree.new, length]; omega)
  children_listed := by
    intro j c hj
    have hj0 : j = 0 := by simpa [IncludeTree.new, length] using hj
    subst hj0
    simp [IncludeTree.new, node, length]
    omega
  children_sorted := by
    intro j
    cases j <;> simp [IncludeTree.new, node, blank]

namespace Arena

variable (ha : Arena t)
include ha

theorem addChild {parent : Nat} (model aliasName : String) (hp : parent < t.length) :
    Arena (t.addChild parent model aliasName).1 where
  length_pos := by
    rw [length_addChild]
    omega
  root_parent := by
    rw [parent_addChild hp, if_pos ha.length_pos]
    exact ha.root_parent
  parents_below := parentsBelow_addChild ha.parents_below hp
  children_listed := childrenListed_addChild ha.parents_below ha.children_listed hp
  children_sorted := by
    intro j
    rw [children_addChild hp]
    split_ifs with hj hl
    · -- the new node goes last, after every child the parent had
      subst hj
      refine List.pairwise_append.mpr ⟨ha.children_sorted j, List.pairwise_singleton _ _, ?_⟩
      intro c hc d hd
      rw [List.mem_singleton.mp hd]
      exact ((ha.children_listed j c hp).mp hc).2.1
    · exact ha.children_sorted j
    · exact List.Pairwise.nil

theorem project {id : Nat} (cols : Option (List String)) (hid : id < t.length) :
    Arena (t.modify id fun n => { n with attributes := cols }) := by
  have hnode : ∀ i, ((t.modify id fun n => { n with attributes := cols }).node i).parent =
      (t.node i).parent ∧
      ((t.modify id fun n => { n with attributes := cols }).node i).children = (t.node i).children :=
    node_modify_rel t hid (fun a b => a.parent = b.parent ∧ a.children = b.children)
      (fun _ => ⟨rfl, rfl⟩) (fun _ => ⟨rfl, rfl⟩)
  have hlen := length_modify t id fun n => { n with attributes := cols }
  refine ⟨?_, ?_, ?_, ?_, ?_⟩ <;>
    simp only [ParentsBelow, ChildrenListed, hlen, fun i => (hnode i).1, fun i => (hnode i).2]
  · exact ha.length_pos
  · exact ha.root_parent
  · exact ha.parents_below
  · exact ha.children_listed
  · exact ha.children_sorted

theorem pos_of_parent {x p : Nat} (h : (t.node x).parent = some p) : 0 < x := by
  refine Nat.pos_of_ne_zero fun hx => ?_
  rw [hx, ha.root_parent] at h
  cases h

theorem parent_lt {x p : Nat} (h : (t.node x).parent = some p) : p < x :=
  ha.parents_below.parent_lt (ha.pos_of_parent h) (lt_length_of_parent h) h

/-- A node lists exactly the nodes whose parent it is. -/
theorem mem_children_iff {i c : Nat} : c ∈ (t.node i).children ↔ (t.node c).parent = some i := by
  constructor
  · intro hc
    by_cases hi : i < t.length
    · exact ((ha.children_listed i c hi).mp hc).2.2
    · rw [node_of_length_le (Nat.le_of_not_lt hi)] at hc
      cases hc
  · intro hp
    have hc := lt_length_of_parent hp
    have hi : i < t.length := Nat.lt_trans (ha.parent_lt hp) hc
    exact (ha.children_listed i c hi).mpr ⟨ha.pos_of_parent hp, hc, hp⟩

/-- A child has a larger number than its parent. -/
theorem lt_of_mem_children {i c : Nat} (hc : c ∈ (t.node i).children) : i < c :=
  ha.parent_lt (ha.mem_children_iff.mp hc)

/-- A child's alias chain is its parent's followed by its own alias. -/
theorem aliasChain_of_mem_children {i c : Nat} (hc : c ∈ (t.node i).children) :
    t.aliasChain c = t.aliasChain i ++ [(t.node c).aliasName] := by
  have hpc := ha.mem_children_iff.mp hc
  exact aliasChain_of_parent ha.parents_below (ha.pos_of_parent hpc) (lt_length_of_parent hpc) hpc

end Arena

/-- The trees a query builds are arenas. -/
theorem Built.arena (h : Built t) : Arena t := by
  induction h with
  | new model => exact arena_new model
  | addChild model aliasName _ hp ih => exact ih.addChild model aliasName hp
  | project cols _ hid ih => exact ih.project cols hid

/-! ## Nodes below a node -/

/-- `Under t a x`: climbing parent links from `x` reaches `a`, so `x` is `a` or lies below it. -/
def Under (t : IncludeTree) : Nat → Nat → Prop :=
  Relation.ReflTransGen fun p c => (t.node c).parent = some p

theorem Under.lt_length {a x : Nat} (hal : a < t.length) (h : Under t a x) : x < t.length := by
  rcases Relation.ReflTransGen.cases_tail h with rfl | ⟨_, _, hpx⟩
  · exact hal
  · exact lt_length_of_parent hpx

namespace Arena

variable (ha : Arena t)
include ha

theorem Under.le {a x : Nat} (h : Under t a x) : a ≤ x := by
  induction h with
  | refl => exact Nat.le_refl a
  | tail _ hpc ih => exact Nat.le_of_lt (Nat.lt_of_le_of_lt ih (ha.parent_lt hpc))

/-- A node does not lie below its parent. -/
theorem not_under_parent {b j : Nat} (hb : (t.node b).parent = some j) : ¬ Under t b j :=
  fun h => Nat.lt_irrefl b (Nat.lt_of_le_of_lt (Under.le ha h) (ha.parent_lt hb))

/-- Of two siblings, at most one lies above a given node. -/
theorem Under.unique {a b x j : Nat} (hax : Under t a x) (hbx : Under t b x)
    (ha' : (t.node a).parent = some j) (hb' : (t.node b).parent = some j) : a = b := by
  induction hax generalizing b with
  | refl =>
    -- `b` lies above `a`, so it is `a` or lies above the parent `j` they share
    rcases Relation.ReflTransGen.cases_tail hbx with hab | ⟨q, hbq, hq⟩
    · exact hab
    · rw [ha', Option.some.injEq] at hq
      subst hq
      exact absurd hbq (not_under_parent ha hb')
  | tail hap hpx ih =>
    rcases Relation.ReflTransGen.cases_tail hbx with hxb | ⟨q, hbq, hq⟩
    · subst hxb
      rw [hb', Option.some.injEq] at hpx
      subst hpx
      exact absurd hap (not_under_parent ha ha')
    · rw [hpx, Option.some.injEq] at hq
      subst hq
      exact ih hbq hb'

/-- Below two siblings, two nodes with one parent come in the order of the siblings. -/
theorem Under.lt_of_siblings {a₁ a₂ x y j : Nat} (h₁ : (t.node a₁).parent = some j)
    (h₂ : (t.node a₂).parent = some j) (hlt : a₁ < a₂) (hx : Under t a₁ x) (hy : Under t a₂ y)
    (hxy : (t.node x).parent = (t.node y).parent) : x < y := by
  rcases Relation.ReflTransGen.cases_tail hx with rfl | ⟨p, hap, hpx⟩ <;>
    rcases Relation.ReflTransGen.cases_tail hy with rfl | ⟨q, haq, hqy⟩
  · exact hlt
  · -- `y` has the parent `j` of `a₁`, which would lie below `a₂`
    rw [h₁, hqy, Option.some.injEq] at hxy
    subst hxy
    exact absurd haq (not_under_parent ha h₂)
  · rw [h₂, hpx, Option.some.injEq] at hxy
    subst hxy
    exact absurd hap (not_under_parent ha h₁)
  · -- `x` and `y` share their parent, which lies below both siblings
    rw [hpx, hqy, Option.some.injEq] at hxy
    subst hxy
    exact absurd (Under.unique ha hap haq h₁ h₂) (Nat.ne_of_lt hlt)

/-- The nodes below `i` are `i` and those below its children. -/
theorem under_iff_children {i x : Nat} :
    Under t i x ↔ i = x ∨ ∃ c ∈ (t.node i).children, Under t c x := by
  unfold Under
  rw [Relation.ReflTransGen.cases_head_iff]
  simp only [ha.mem_children_iff]

/-- Every node lies below the root. -/
theorem under_root {x : Nat} (hx : x < t.length) : Under t 0 x := by
  induction x using Nat.strongRecOn with
  | ind x ih =>
    rcases Nat.eq_zero_or_pos x with rfl | hpos
    · exact Relation.ReflTransGen.refl
    · obtain ⟨p, hp, hpx⟩ := ha.parents_below x hpos hx
      exact Relation.ReflTransGen.tail (ih p hpx (Nat.lt_trans hpx hx)) hp

end Arena

/-! ## Depth-first order -/

/-- The nodes from `ids` down, depth first: each node, then the nodes below it, then the next;
`fuel` bounds the depth, as in `includeEntries`. -/
def preorder (t : IncludeTree) : Nat → List Nat → List Nat
  | 0, _ => []
  | fuel + 1, ids => ids.flatMap fun i => i :: preorder t fuel (t.node i).children

@[simp] theorem preorder_nil (fuel : Nat) : preorder t fuel [] = [] := by
  cases fuel <;> rfl

theorem preorder_succ_cons (fuel : Nat) (i : Nat) (ids : List Nat) :
    preorder t (fuel + 1) (i :: ids) =
      (i :: preorder t fuel (t.node i).children) ++ preorder t (fuel + 1) ids := by
  simp [preorder]

namespace Arena

variable (ha : Arena t)
include ha

/-- Whatever the fuel, a node listed from `ids` down lies below one of them. -/
theorem under_of_mem_preorder {fuel : Nat} {ids : List Nat} {x : Nat}
    (h : x ∈ preorder t fuel ids) : ∃ i ∈ ids, Under t i x := by
  induction fuel generalizing ids with
  | zero => simp [preorder] at h
  | succ fuel ih =>
    simp only [preorder, List.mem_flatMap, List.mem_cons] at h
    obtain ⟨i, hi, rfl | hx⟩ := h
    · exact ⟨x, hi, Relation.ReflTransGen.refl⟩
    · obtain ⟨c, hc, hcx⟩ := ih hx
      exact ⟨i, hi, Relation.ReflTransGen.head (ha.mem_children_iff.mp hc) hcx⟩

/-- With fuel beyond the number of nodes, every node below `ids` is listed. -/
theorem mem_preorder_of_under {fuel : Nat} {ids : List Nat} {i x : Nat}
    (hids : ∀ i ∈ ids, i < t.length ∧ t.length < fuel + i) (hi : i ∈ ids) (hix : Under t i x) :
    x ∈ preorder t fuel ids := by
  induction fuel generalizing ids i with
  | zero =>
    obtain ⟨hil, hfuel⟩ := hids i hi
    omega
  | succ fuel ih =>
    simp only [preorder, List.mem_flatMap, List.mem_cons]
    refine ⟨i, hi, ?_⟩
    rcases (under_iff_children ha).mp hix with rfl | ⟨c, hc, hcx⟩
    · exact Or.inl rfl
    · -- a child has a larger number, so the fuel left still reaches past the last node
      obtain ⟨hil, hfuel⟩ := hids i hi
      refine Or.inr (ih (fun c' hc' => ⟨lt_length_of_parent (ha.mem_children_iff.mp hc'), ?_⟩) hc hcx)
      have hic' := ha.lt_of_mem_children hc'
      omega

/-- A node listed in the block of `a`, `a` followed by the nodes listed below its children, lies
below `a`. -/
theorem under_of_mem_block {fuel : Nat} {a x : Nat}
    (hx : x ∈ a :: preorder t fuel (t.node a).children) : Under t a x := by
  rcases List.mem_cons.mp hx with rfl | hx
  · exact Relation.ReflTransGen.refl
  · obtain ⟨c, hc, hcx⟩ := under_of_mem_preorder ha hx
    exact Relation.ReflTransGen.head (ha.mem_children_iff.mp hc) hcx

/-- Siblings listed without repeats are listed, with all below them, without repeats. -/
theorem preorder_nodup {fuel : Nat} {ids : List Nat} {j : Nat} (hids : ids.Nodup)
    (hpar : ∀ i ∈ ids, (t.node i).parent = some j) : (preorder t fuel ids).Nodup := by
  induction fuel generalizing ids j with
  | zero => exact List.nodup_nil
  | succ fuel ih =>
    refine List.nodup_flatMap.mpr ⟨fun i _ => ?_, hids.imp_of_mem fun {a b} ha' hb' hab => ?_⟩
    · -- a node is not listed again below itself, where every node has a larger number
      refine List.nodup_cons.mpr ⟨fun hi => ?_, ?_⟩
      · obtain ⟨c, hc, hci⟩ := under_of_mem_preorder ha hi
        exact absurd (Under.le ha hci) (Nat.not_le_of_lt (ha.lt_of_mem_children hc))
      · exact ih ((ha.children_sorted i).imp Nat.ne_of_lt) fun c => ha.mem_children_iff.mp
    · -- two siblings have no node below both
      refine List.disjoint_left.mpr fun x hxa hxb => ?_
      exact hab (Under.unique ha (under_of_mem_block ha hxa) (under_of_mem_block ha hxb)
        (hpar a ha') (hpar b hb'))

/-- Siblings listed in increasing order are listed, with all below them, so that any two nodes with
one parent come in increasing order. -/
theorem preorder_siblings {fuel : Nat} {ids : List Nat} {j : Nat}
    (hids : ids.Pairwise (· < ·)) (hpar : ∀ i ∈ ids, (t.node i).parent = some j) :
    (preorder t fuel ids).Pairwise fun x y => (t.node x).parent = (t.node y).parent → x < y := by
  induction fuel generalizing ids j with
  | zero => exact List.Pairwise.nil
  | succ fuel ih =>
    refine List.pairwise_flatMap.mpr ⟨fun i _ => ?_, hids.imp_of_mem fun {a b} ha' hb' hab => ?_⟩
    · -- below a node every number is larger than its own
      refine List.pairwise_cons.mpr ⟨fun y hy _ => ?_, ?_⟩
      · obtain ⟨c, hc, hcy⟩ := under_of_mem_preorder ha hy
        exact Nat.lt_of_lt_of_le (ha.lt_of_mem_children hc) (Under.le ha hcy)
      · exact ih (ha.children_sorted i) fun c => ha.mem_children_iff.mp
    · intro x hx y hy hxy
      exact Under.lt_of_siblings ha (hpar a ha') (hpar b hb') hab (under_of_mem_block ha hx)
        (under_of_mem_block ha hy) hxy

/-- Depth first from the children of the root, with the number of nodes as fuel, every node but
the root is listed once. -/
theorem preorder_perm :
    (preorder t t.length (t.node 0).children).Perm (List.range' 1 (t.length - 1)) := by
  have hroot : ∀ i ∈ (t.node 0).children, (t.node i).parent = some 0 :=
    fun i => ha.mem_children_iff.mp
  rw [List.perm_ext_iff_of_nodup (preorder_nodup ha ((ha.children_sorted 0).imp Nat.ne_of_lt) hroot)
    List.nodup_range']
  intro x
  rw [List.mem_range'_1]
  constructor
  · intro hx
    obtain ⟨i, hi, hix⟩ := under_of_mem_preorder ha hx
    have hpos := ha.pos_of_parent (hroot i hi)
    have hil := lt_length_of_parent (hroot i hi)
    have hle := Under.le ha hix
    have hxl := Under.lt_length hil hix
    omega
  · rintro ⟨hpos, hx⟩
    -- the root reaches `x` through one of its children
    rcases (under_iff_children ha).mp (under_root ha (show x < t.length by omega)) with h0 | ⟨c, hc, hcx⟩
    · omega
    · refine mem_preorder_of_under ha (fun i hi => ⟨lt_length_of_parent (hroot i hi), ?_⟩) hc hcx
      have := ha.pos_of_parent (hroot i hi)
      omega

end Arena

end IncludeTree

/-! ## Reading an include list -/

/-- The `as` text of an include entry. -/
def entryAlias (e : Value) : String :=
  ((e.field? "as").map Value.text).getD ""

mutual

/-- The entries of an include list and of the lists nested in them, in document order, each paired
with the `as` texts from the top level down to it, its own last. -/
def includeOutline (chain : List String) : Value → List (List String × Value)
  | .arr entries => entriesOutline chain entries
  | _ => []

/-- The outline of the entries of one include list, each entry followed by those nested in it. -/
def entriesOutline (chain : List String) : List Value → List (List String × Value)
  | [] => []
  | e :: es =>
    ((chain ++ [entryAlias e], e) :: nestedOutline (chain ++ [entryAlias e]) e) ++
      entriesOutline chain es

/-- The outline of the include list inside an entry. -/
def nestedOutline (chain : List String) : Value → List (List String × Value)
  | .obj fields => fieldsOutline chain fields
  | _ => []

/-- The outline of the include lists among the fields of an entry. -/
def fieldsOutline (chain : List String) : List (String × Value) → List (List String × Value)
  | [] => []
  | (k, v) :: fields =>
    (if k = "include" then includeOutline chain v else []) ++ fieldsOutline chain fields

end

/-- An include entry for a node: an object with the keys `model` and `as`, then `attributes`
exactly when the node projects columns and `include` exactly when it has children, holding the
node's model, alias and columns. -/
def EntryFor (n : JoinNode) (e : Value) : Prop :=
  ∃ fields, e = .obj fields ∧
    fields.map Prod.fst = ["model", "as"] ++ (if n.attributes.isSome then ["attributes"] else []) ++
      (if n.children.isEmpty then [] else ["include"]) ∧
    e.field? "model" = some (.str n.model) ∧ e.field? "as" = some (.str n.aliasName) ∧
    e.field? "attributes" = n.attributes.map Json.strings

/-- An item of an outline stands for node `i` of `t`: it sits under the node's alias chain and its
entry describes the node. -/
def ListsNode (t : IncludeTree) (i : Nat) (item : List String × Value) : Prop :=
  item.1 = t.aliasChain i ∧ EntryFor (t.node i) item.2

variable {t : IncludeTree}

/-- The entry rendered for a node describes it under its alias, and what is nested in it is the
rendering of its children, when it has any. -/
theorem includeEntries_single (t : IncludeTree) (fuel i : Nat) (chain : List String) :
    ∃ e, includeEntries t (fuel + 1) [i] = [e] ∧ EntryFor (t.node i) e ∧
      entryAlias e = (t.node i).aliasName ∧
      nestedOutline chain e = if (t.node i).children.isEmpty then []
        else entriesOutline chain (includeEntries t fuel (t.node i).children) := by
  refine ⟨_, rfl, ?_, ?_, ?_⟩
  · -- the keys follow from what the node projects and whether it has children
    refine ⟨_, rfl, ?_, ?_, ?_, ?_⟩ <;>
      rcases hattr : (t.node i).attributes with _ | cols <;>
      by_cases hch : (t.node i).children = [] <;>
      simp [Value.field?, List.lookup_cons, List.lookup_nil, hattr, hch]
  · simp [entryAlias, Value.field?, List.lookup_cons, Value.text]
  · rcases hattr : (t.node i).attributes with _ | cols <;>
      by_cases hch : (t.node i).children = [] <;>
      simp [nestedOutline, fieldsOutline, includeOutline, hattr, hch]

namespace IncludeTree
namespace Arena

variable (ha : Arena t)
include ha

/-- Rendering the entries of `ids`, each under an alias chain that extends `chain`, reads back as
the nodes from `ids` down in depth-first order, every entry under the alias chain of its node and
describing it. -/
theorem entriesOutline_includeEntries (fuel : Nat) {ids : List Nat} {chain : List String}
    (hids : ∀ i ∈ ids, t.aliasChain i = chain ++ [(t.node i).aliasName]) :
    List.Forall₂ (ListsNode t) (t.preorder fuel ids) (entriesOutline chain (includeEntries t fuel ids)) := by
  induction fuel generalizing ids chain with
  | zero => simp [preorder, includeEntries, entriesOutline]
  | succ fuel ih =>
    induction ids with
    | nil => simp [includeEntries, entriesOutline]
    | cons i ids ihs =>
      obtain ⟨e, he, hentry, halias, hnested⟩ :=
        includeEntries_single t fuel i (chain ++ [(t.node i).aliasName])
      have hsplit : includeEntries t (fuel + 1) (i :: ids) = e :: includeEntries t (fuel + 1) ids := by
        rw [show i :: ids = [i] ++ ids from rfl, includeEntries, List.map_append, ← includeEntries, he]
        rfl
      have hchain := hids i List.mem_cons_self
      rw [hsplit, preorder_succ_cons]
      simp only [entriesOutline, halias, hnested]
      refine List.rel_append (List.Forall₂.cons ⟨hchain.symm, hentry⟩ ?_)
        (ihs fun j hj => hids j (List.mem_cons_of_mem i hj))
      split
      · -- a node without children has nothing nested in its entry
        rename_i hch
        rw [List.isEmpty_iff.mp hch, preorder_nil]
        exact List.Forall₂.nil
      · -- the children extend the chain of `i` by their own aliases
        rw [← hchain]
        exact ih fun c => ha.aliasChain_of_mem_children

/-- Read in document order, the include list of an arena lists its nodes depth first from the
children of the root. -/
theorem includeOutline_includeJson :
    List.Forall₂ (ListsNode t) (t.preorder t.length (t.node 0).children)
      (includeOutline [] t.includeJson) := by
  rw [IncludeTree.includeJson, includeOutline]
  refine entriesOutline_includeEntries ha t.length fun c hc => ?_
  -- a child of the root has its own alias as its chain
  rw [ha.aliasChain_of_mem_children hc, aliasChain_root]

/-- The root has no join exactly when it is the only node. -/
theorem root_children_eq_nil_iff : (t.node 0).children = [] ↔ t.length = 1 := by
  constructor
  · intro h
    by_contra hne
    -- node `1` exists, and its parent can only be the root
    obtain ⟨p, hp, hp1⟩ := ha.parents_below 1 Nat.one_pos (by have := ha.length_pos; omega)
    rw [Nat.lt_one_iff.mp hp1] at hp
    have hmem := ha.mem_children_iff.mpr hp
    rw [h] at hmem
    cases hmem
  · intro h
    refine List.eq_nil_iff_forall_not_mem.mpr fun c hc => ?_
    have hpc := ha.mem_children_iff.mp hc
    have := ha.pos_of_parent hpc
    have := lt_length_of_parent hpc
    omega

end Arena
end IncludeTree

/-- The include entry of a plan's JSON form is the include list of its tree, there when the root
has joins. -/
theorem toJson_field_include (p : QueryPlan) :
    p.toJson.field? "include" =
      if p.tree.root.children.isEmpty then none else some p.tree.includeJson := by
  unfold QueryPlan.toJson
  -- no other field is named `include`, whichever of them are there
  rcases p.filter with _ | _ <;> rcases p.group with _ | _ <;> rcases p.limit with _ | _ <;>
    rcases p.offset with _ | _ <;> by_cases h : p.tree.root.children.isEmpty <;>
    simp [h, Value.field?, List.lookup_cons] <;>
    · intro a b hab hk
      subst hk
      simp at hab

/-- The include list of a plan whose tree was built by adding children: absent exactly when the
tree is the root alone; otherwise, read in document order, it holds every node but the root once,
each entry under the alias chain of its node and describing it, and siblings in the order they were
added. -/
theorem toJson_includeList (p : QueryPlan) (hb : p.tree.Built) :
    (p.toJson.field? "include" = none ↔ p.tree.length = 1) ∧
    ∀ v, p.toJson.field? "include" = some v →
      ∃ order : List Nat, order.Perm (List.range' 1 (p.tree.length - 1)) ∧
        order.Pairwise (fun i j => (p.tree.node i).parent = (p.tree.node j).parent → i < j) ∧
        List.Forall₂ (ListsNode p.tree) order (includeOutline [] v) := by
  have ha := hb.arena
  have hroot : ∀ i ∈ (p.tree.node 0).children, (p.tree.node i).parent = some 0 :=
    fun i => ha.mem_children_iff.mp
  rw [toJson_field_include, IncludeTree.root]
  refine ⟨?_, fun v hv => ?_⟩
  · rw [← ha.root_children_eq_nil_iff, ← List.isEmpty_iff]
    cases (p.tree.node 0).children.isEmpty <;> simp
  · split at hv
    · cases hv
    · cases hv
      exact ⟨_, ha.preorder_perm, ha.preorder_siblings (ha.children_sorted 0) hroot,
        ha.includeOutline_includeJson⟩

/-- Orders joined to their customer and to their line items, the line items projecting two
columns. -/
def orderLines : QueryPlan where
  model := "Orders"
  tree := ((((IncludeTree.new "Orders").addChild 0 "Customers" "customer").1.addChild 0 "LineItems"
    "line_items").1.modify 2 fun n => { n with attributes := some ["sku", "qty"] })

theorem orderLines_includeList :
    orderLines.tree.Built ∧
    ((orderLines.toJson.field? "include" = none ↔ orderLines.tree.length = 1) ∧
    ∀ v, orderLines.toJson.field? "include" = some v →
      ∃ order : List Nat, order.Perm (List.range' 1 (orderLines.tree.length - 1)) ∧
        order.Pairwise (fun i j =>
          (orderLines.tree.node i).parent = (orderLines.tree.node j).parent → i < j) ∧
        List.Forall₂ (ListsNode orderLines.tree) order (includeOutline [] v)) :=
  have hb : orderLines.tree.Built :=
    .project _ (.addChild _ _ (.addChild _ _ (.new _) (by decide)) (by decide)) (by decide)
  ⟨hb, toJson_includeList orderLines hb⟩

end Plan
end RestQuery
