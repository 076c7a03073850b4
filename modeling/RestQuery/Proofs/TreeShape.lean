import RestQuery.Plan.IncludeTree
import RestQuery.Schema.Model
import Mathlib.Data.List.Nodup

/-!
# The shape of include trees

An include tree is an arena: nodes are numbered in creation order and point
to their parents by number.  This module states when such an arena is the
tree the translator means (`WellFormed`) and shows that the two ways a tree
changes keep it so: adding a child for a relation of the parent's model
that no sibling uses yet, and changing the projected columns of a node.

**Invariant.**  Node `0` is the root: the queried model, no parent, the
empty path.  Every other node has a parent with a smaller number, which
lists it among its children, once; no other node lists it.  Siblings have
pairwise distinct aliases, no alias is empty, a node's path is its parent's
path followed by its alias, and a node's alias names a relation of its
parent's registered model whose target is the node's model.

The part of the invariant that walking a join path relies on, whatever the
root and the paths, is `Linked`: parent links, children lists, distinct
sibling aliases and relations.  `WellFormed` adds the root and the spelling
of paths, and its lemmas about chains are those of `Linked`.

**Alias chains.**  The alias chain of a node is the list of aliases from
below the root down to it; it is read by climbing parent links, with the
number of nodes as fuel.  In a well-formed tree the chain of a node is the
chain of its parent followed by its alias, so the chains are closed under
prefixes, no two nodes share one, and the path of a node is its chain
joined by dots.

**Results.**
* `aliasChain_of_parent`: the chain of a node extends its parent's chain.
* `Linked.addChild`, `WellFormed.addChild`, `WellFormed.modify`: the
  changes keep the invariants.
* `hasChain_addChild`: adding a child adds exactly its chain.
* `aliasChain_injective`: one node per alias chain.
* `hasChain_prefix_closed`: the chains of a tree are closed under prefixes.
* `Spelled.addChild`: a child under a non-empty alias keeps paths spelled
  from aliases.
* `path_eq_intercalate`: a node's path is its alias chain joined by dots.
* `count_children`: a node is listed once, by its parent only.
-/

namespace RestQuery
namespace Plan
namespace IncludeTree

open Schema

section Nodes

variable (t : IncludeTree)

theorem length_modify (id : Nat) (f : JoinNode → JoinNode) :
    (t.modify id f).length = t.length := by
  simp [modify, length]

theorem node_modify {id : Nat} (f : JoinNode → JoinNode) (i : Nat)
    (h : id < t.length) :
    (t.modify id f).node i = if i = id then f (t.node i) else t.node i := by
  simp only [node, modify, List.getD_eq_getElem?_getD, List.getElem?_modify]
  by_cases hi : i = id
  · subst hi
    have hl : i < t.nodes.length := h
    simp [List.getElem?_eq_getElem hl]
  · simp [Ne.symm hi, hi]

/-- A relation that holds between each node and itself, and between each node and its change,
holds between every node of the changed tree and the node it was. -/
theorem node_modify_rel {id : Nat} {f : JoinNode → JoinNode} (h : id < t.length)
    (R : JoinNode → JoinNode → Prop) (hrefl : ∀ n, R n n) (hf : ∀ n, R (f n) n) (i : Nat) :
    R ((t.modify id f).node i) (t.node i) := by
  rw [node_modify t f i h]
  split
  · exact hf _
  · exact hrefl _

/-- The joins are the nodes after the root, each with its number. -/
theorem joins_eq : t.joins = (List.range' 1 (t.length - 1)).map fun i => (i, t.node i) := by
  apply List.ext_getElem
  · simp [joins, length]
  · intro k h₁ h₂
    have hk : k + 1 < t.nodes.length := by
      simp [joins] at h₁
      omega
    simp [joins, node, List.getD_eq_getElem?_getD, List.getElem?_eq_getElem hk, Nat.add_comm]

/-- The node that `addChild` appends. -/
def freshNode (parent : Nat) (model aliasName : String) : JoinNode :=
  { model, aliasName,
    path := if (t.node parent).path.isEmpty then aliasName
      else (t.node parent).path ++ "." ++ aliasName,
    parent := some parent, children := [], attributes := none }

theorem addChild_snd (parent : Nat) (model aliasName : String) :
    (t.addChild parent model aliasName).2 = t.length := rfl

theorem node_addChild {parent : Nat} (model aliasName : String) (i : Nat)
    (hp : parent < t.length) :
    (t.addChild parent model aliasName).1.node i =
      if i = parent then { t.node i with children := (t.node i).children ++ [t.length] }
      else if i < t.length then t.node i
      else if i = t.length then t.freshNode parent model aliasName
      else blank := by
  let grown : IncludeTree := ⟨t.nodes ++ [t.freshNode parent model aliasName]⟩
  have hgrown : ∀ j : Nat, grown.node j =
      if j < t.length then t.node j
      else if j = t.length then t.freshNode parent model aliasName else blank := by
    intro j
    have hlen : t.length = t.nodes.length := rfl
    simp only [grown, node, List.getD_eq_getElem?_getD]
    by_cases hj : j < t.length
    · have hl : j < t.nodes.length := hj
      simp [hj, List.getElem?_append_left hl]
    · have hl : t.nodes.length ≤ j := by omega
      rw [List.getElem?_append_right hl]
      by_cases he : j = t.length
      · subst he
        simp [hlen]
      · have hk : j - t.nodes.length ≠ 0 := by omega
        simp [hj, he, hk]
  have hpg : parent < grown.length := by
    simp only [grown, length, List.length_append, List.length_singleton]
    exact Nat.lt_succ_of_lt hp
  show (grown.modify parent _).node i = _
  rw [node_modify grown _ i hpg, hgrown i]
  by_cases hi : i = parent
  · subst hi
    simp [hp]
  · simp [hi]

end Nodes

section Fields

variable {t : IncludeTree} {parent : Nat} {model aliasName : String}

theorem parent_addChild (hp : parent < t.length) (i : Nat) :
    ((t.addChild parent model aliasName).1.node i).parent =
      if i < t.length then (t.node i).parent else if i = t.length then some parent else none := by
  rw [node_addChild t model aliasName i hp]
  by_cases hi : i = parent
  · simp [hi, hp]
  · by_cases hl : i < t.length
    · simp [hi, hl]
    · by_cases he : i = t.length
      · subst he
        simp [Nat.ne_of_gt hp, freshNode]
      · simp [hi, hl, he, blank]

theorem children_addChild (hp : parent < t.length) (i : Nat) :
    ((t.addChild parent model aliasName).1.node i).children =
      if i = parent then (t.node i).children ++ [t.length]
      else if i < t.length then (t.node i).children else [] := by
  rw [node_addChild t model aliasName i hp]
  by_cases hi : i = parent
  · simp [hi]
  · by_cases hl : i < t.length
    · simp [hi, hl]
    · by_cases he : i = t.length
      · subst he
        simp [Nat.ne_of_gt hp, freshNode]
      · simp [hi, hl, he, blank]

/-- The nodes that were there keep their model, alias and path. -/
theorem addChild_node_lt (hp : parent < t.length) {i : Nat} (hi : i < t.length) :
    ((t.addChild parent model aliasName).1.node i).model = (t.node i).model ∧
      ((t.addChild parent model aliasName).1.node i).aliasName = (t.node i).aliasName ∧
      ((t.addChild parent model aliasName).1.node i).path = (t.node i).path := by
  rw [node_addChild t model aliasName i hp]
  by_cases h : i = parent <;> simp [h, hi]

theorem addChild_node_fresh (hp : parent < t.length) :
    (t.addChild parent model aliasName).1.node t.length = t.freshNode parent model aliasName := by
  rw [node_addChild t model aliasName t.length hp]
  simp [Nat.ne_of_gt hp]

end Fields


section Chains

/-- Every node but the root has a parent with a smaller number. -/
def ParentsBelow (t : IncludeTree) : Prop :=
  ∀ i : Nat, 0 < i → i < t.length → ∃ p : Nat, (t.node i).parent = some p ∧ p < i

/-- A tree has a node whose alias chain is `c`. -/
def HasChain (t : IncludeTree) (c : List String) : Prop :=
  ∃ i : Nat, i < t.length ∧ t.aliasChain i = c

variable {t : IncludeTree}

theorem aliasChainAux_append (t : IncludeTree) :
    ∀ (fuel : Nat) (i : Nat) (acc : List String),
      t.aliasChainAux fuel i acc = t.aliasChainAux fuel i [] ++ acc
  | 0, _, acc => by simp [aliasChainAux]
  | fuel + 1, i, acc => by
      by_cases h0 : i = 0
      · simp [aliasChainAux, h0]
      · cases hp : (t.node i).parent with
        | none => simp [aliasChainAux, h0, hp]
        | some p =>
            simp only [aliasChainAux, h0, if_false, hp]
            rw [aliasChainAux_append t fuel p (_ :: acc), aliasChainAux_append t fuel p [_]]
            simp

theorem aliasChainAux_succ (h : ParentsBelow t) :
    ∀ (fuel : Nat) (i : Nat) (acc : List String), i < fuel → i < t.length →
      t.aliasChainAux (fuel + 1) i acc = t.aliasChainAux fuel i acc
  | 0, _, _, hf, _ => absurd hf (Nat.not_lt_zero _)
  | fuel + 1, i, acc, hf, hl => by
      by_cases h0 : i = 0
      · simp [aliasChainAux, h0]
      · obtain ⟨p, hp, hpi⟩ := h i (Nat.pos_of_ne_zero h0) hl
        have hpf : p < fuel := by omega
        have hpl : p < t.length := by omega
        simp only [aliasChainAux, h0, if_false, hp]
        exact aliasChainAux_succ h fuel p _ hpf hpl

theorem aliasChainAux_stable (h : ParentsBelow t) {i : Nat} (acc : List String)
    (hl : i < t.length) :
    ∀ k, t.aliasChainAux (i + 1 + k) i acc = t.aliasChainAux (i + 1) i acc
  | 0 => rfl
  | k + 1 => by
      rw [← Nat.add_assoc, aliasChainAux_succ h _ i acc (by omega) hl,
        aliasChainAux_stable h acc hl k]

theorem aliasChain_eq_aux (h : ParentsBelow t) {i : Nat} (hl : i < t.length) :
    t.aliasChain i = t.aliasChainAux (i + 1) i [] := by
  have hk : t.length = i + 1 + (t.length - (i + 1)) := by omega
  rw [aliasChain, hk, aliasChainAux_stable h [] hl]

theorem aliasChain_of_parent (h : ParentsBelow t) {i p : Nat} (hi : 0 < i)
    (hl : i < t.length) (hp : (t.node i).parent = some p) :
    t.aliasChain i = t.aliasChain p ++ [(t.node i).aliasName] := by
  obtain ⟨q, hq, hqi⟩ := h i hi hl
  have hpq : p = q := Option.some.inj (hp.symm.trans hq)
  subst hpq
  have hpl : p < t.length := by omega
  have hstep : t.aliasChainAux (i + 1) i [] = t.aliasChainAux i p [(t.node i).aliasName] := by
    simp only [aliasChainAux, Nat.ne_of_gt hi, if_false, hp]
  have hfuel : t.aliasChainAux i p [] = t.aliasChainAux (p + 1) p [] := by
    have hk := aliasChainAux_stable h [] hpl (i - (p + 1))
    rwa [show p + 1 + (i - (p + 1)) = i by omega] at hk
  rw [aliasChain_eq_aux h hl, aliasChain_eq_aux h hpl, hstep, aliasChainAux_append, hfuel]

/-- The alias chain reads only aliases and parent links, so a change that keeps them on the
nodes of a tree keeps its chains. -/
theorem aliasChainAux_congr {t' : IncludeTree} (h : ParentsBelow t)
    (hsame : ∀ j : Nat, j < t.length →
      (t'.node j).aliasName = (t.node j).aliasName ∧ (t'.node j).parent = (t.node j).parent) :
    ∀ (fuel : Nat) (i : Nat) (acc : List String), i < t.length →
      t'.aliasChainAux fuel i acc = t.aliasChainAux fuel i acc
  | 0, _, _, _ => rfl
  | fuel + 1, i, acc, hl => by
      by_cases h0 : i = 0
      · simp [aliasChainAux, h0]
      · obtain ⟨p, hp, hpi⟩ := h i (Nat.pos_of_ne_zero h0) hl
        have hpl : p < t.length := by omega
        simp only [aliasChainAux, h0, if_false, (hsame i hl).1, (hsame i hl).2, hp]
        exact aliasChainAux_congr h hsame fuel p _ hpl

theorem aliasChain_congr {t' : IncludeTree} (h : ParentsBelow t) (h' : ParentsBelow t')
    (hlen : t.length ≤ t'.length)
    (hsame : ∀ j : Nat, j < t.length →
      (t'.node j).aliasName = (t.node j).aliasName ∧ (t'.node j).parent = (t.node j).parent)
    {i : Nat} (hl : i < t.length) :
    t'.aliasChain i = t.aliasChain i := by
  rw [aliasChain_eq_aux h hl, aliasChain_eq_aux h' (by omega)]
  exact aliasChainAux_congr h hsame _ i [] hl

end Chains

section Growth

variable {t : IncludeTree} {parent : Nat} {m a : String}

theorem parentsBelow_addChild (h : ParentsBelow t) (hp : parent < t.length) :
    ParentsBelow (t.addChild parent m a).1 := by
  intro i hi hl
  rw [length_addChild] at hl
  rw [parent_addChild hp]
  by_cases hil : i < t.length
  · simpa [hil] using h i hi hil
  · have he : i = t.length := by omega
    exact ⟨parent, by simp [he], by omega⟩

theorem aliasChain_addChild_of_lt (h : ParentsBelow t) (hp : parent < t.length) {i : Nat}
    (hi : i < t.length) : (t.addChild parent m a).1.aliasChain i = t.aliasChain i :=
  aliasChain_congr h (parentsBelow_addChild h hp) (by rw [length_addChild]; omega)
    (fun j hj => ⟨(addChild_node_lt hp hj).2.1, by rw [parent_addChild hp, if_pos hj]⟩) hi

theorem aliasChain_addChild_fresh (h : ParentsBelow t) (hp : parent < t.length) :
    (t.addChild parent m a).1.aliasChain t.length = t.aliasChain parent ++ [a] := by
  have hpar : ((t.addChild parent m a).1.node t.length).parent = some parent := by
    simp [parent_addChild hp]
  rw [aliasChain_of_parent (parentsBelow_addChild h hp) (by omega)
      (by rw [length_addChild]; omega) hpar,
    aliasChain_addChild_of_lt h hp hp, addChild_node_fresh hp]
  rfl

/-- Adding a child adds its chain and keeps the others. -/
theorem hasChain_addChild (h : ParentsBelow t) (hp : parent < t.length) (c : List String) :
    (t.addChild parent m a).1.HasChain c ↔ t.HasChain c ∨ c = t.aliasChain parent ++ [a] := by
  constructor
  · rintro ⟨i, hl, rfl⟩
    rw [length_addChild] at hl
    by_cases hi : i < t.length
    · exact Or.inl ⟨i, hi, (aliasChain_addChild_of_lt h hp hi).symm⟩
    · have he : i = t.length := by omega
      subst he
      exact Or.inr (aliasChain_addChild_fresh h hp)
  · rintro (⟨i, hl, rfl⟩ | rfl)
    · exact ⟨i, by rw [length_addChild]; omega, aliasChain_addChild_of_lt h hp hl⟩
    · exact ⟨t.length, by rw [length_addChild]; omega, aliasChain_addChild_fresh h hp⟩

theorem parentsBelow_modify (h : ParentsBelow t) {id : Nat} {f : JoinNode → JoinNode}
    (hid : id < t.length) (hf : ∀ n, (f n).parent = n.parent) : ParentsBelow (t.modify id f) := by
  intro i hi hl
  rw [length_modify] at hl
  rw [node_modify_rel t hid (fun a b => a.parent = b.parent) (fun _ => rfl) hf i]
  exact h i hi hl

/-- Changing a node without touching its alias and parent keeps every alias chain. -/
theorem aliasChain_modify (h : ParentsBelow t) {id : Nat} {f : JoinNode → JoinNode}
    (hid : id < t.length) (hf : ∀ n, (f n).aliasName = n.aliasName ∧ (f n).parent = n.parent)
    {i : Nat} (hi : i < t.length) : (t.modify id f).aliasChain i = t.aliasChain i :=
  aliasChain_congr h (parentsBelow_modify h hid fun n => (hf n).2)
    (Nat.le_of_eq (length_modify t id f).symm)
    (fun j _ => node_modify_rel t hid (fun a b => a.aliasName = b.aliasName ∧ a.parent = b.parent)
      (fun _ => ⟨rfl, rfl⟩) hf j) hi

/-- Changing a node without touching its alias and parent keeps every chain. -/
theorem hasChain_modify (h : ParentsBelow t) {id : Nat} {f : JoinNode → JoinNode}
    (hid : id < t.length) (hf : ∀ n, (f n).aliasName = n.aliasName ∧ (f n).parent = n.parent)
    (c : List String) : (t.modify id f).HasChain c ↔ t.HasChain c := by
  constructor
  · rintro ⟨i, hl, rfl⟩
    rw [length_modify] at hl
    exact ⟨i, hl, (aliasChain_modify h hid hf hl).symm⟩
  · rintro ⟨i, hl, rfl⟩
    exact ⟨i, by rw [length_modify]; exact hl, aliasChain_modify h hid hf hl⟩

end Growth

section Links

/-- The children lists of a tree are its parent links read downwards: a node lists exactly the
nodes whose parent it is. -/
def ChildrenListed (t : IncludeTree) : Prop :=
  ∀ j c : Nat, j < t.length →
    (c ∈ (t.node j).children ↔ 0 < c ∧ c < t.length ∧ (t.node c).parent = some j)

/-- No two children of one node share an alias. -/
def SiblingsDistinct (t : IncludeTree) : Prop :=
  ∀ i j : Nat, 0 < i → i < t.length → 0 < j → j < t.length →
    (t.node i).parent = (t.node j).parent → (t.node i).aliasName = (t.node j).aliasName → i = j

/-- Every join follows a relation of its parent's registered model to the node's own model. -/
def Related (reg : Registry) (t : IncludeTree) : Prop :=
  ∀ i p : Nat, 0 < i → i < t.length → (t.node i).parent = some p →
    ∃ m r, reg.get (t.node p).model = some m ∧ m.relation (t.node i).aliasName = some r ∧
      r.target = (t.node i).model

/-- What walking a join path needs of a tree, whatever its root: parents come before their
children, the children lists agree with the parent links, siblings differ in alias, and every join
follows a relation of `reg`. -/
structure Linked (reg : Registry) (t : IncludeTree) : Prop where
  parents_below : ParentsBelow t
  children_listed : ChildrenListed t
  siblings_distinct : SiblingsDistinct t
  related : Related reg t

variable {reg : Registry} {t : IncludeTree} {parent : Nat} {m a : String}

theorem ParentsBelow.parent_lt (h : ParentsBelow t) {i p : Nat} (hi : 0 < i) (hl : i < t.length)
    (hp : (t.node i).parent = some p) : p < i := by
  obtain ⟨q, hq, hqi⟩ := h i hi hl
  rw [hp] at hq
  cases hq
  exact hqi

theorem ParentsBelow.aliasChain_ne_nil (h : ParentsBelow t) {i : Nat} (hi : 0 < i)
    (hl : i < t.length) : t.aliasChain i ≠ [] := by
  obtain ⟨p, hp, _⟩ := h i hi hl
  rw [aliasChain_of_parent h hi hl hp]
  simp

theorem ParentsBelow.aliasChain_eq_nil_iff (h : ParentsBelow t) {i : Nat} (hl : i < t.length) :
    t.aliasChain i = [] ↔ i = 0 := by
  constructor
  · intro he
    by_contra h0
    exact h.aliasChain_ne_nil (Nat.pos_of_ne_zero h0) hl he
  · rintro rfl
    exact aliasChain_root t

/-- The chains of a tree are closed under prefixes: the chain of every ancestor is there. -/
theorem ParentsBelow.hasChain_prefix_closed (h : ParentsBelow t) {c c' : List String}
    (hc : t.HasChain c) (hp : c' <+: c) : t.HasChain c' := by
  obtain ⟨i, hl, rfl⟩ := hc
  induction i using Nat.strongRecOn with
  | ind i ih =>
    by_cases he : c' = t.aliasChain i
    · exact ⟨i, hl, he.symm⟩
    · by_cases hi0 : i = 0
      · subst hi0
        rw [aliasChain_root, List.prefix_nil] at hp
        exact absurd (by rw [hp, aliasChain_root]) he
      · obtain ⟨q, hq, hqi⟩ := h i (Nat.pos_of_ne_zero hi0) hl
        rw [aliasChain_of_parent h (Nat.pos_of_ne_zero hi0) hl hq] at hp he
        rcases List.prefix_concat_iff.mp hp with h' | h'
        · exact absurd h' he
        · exact ih q hqi (by omega) h'

/-- No two nodes share an alias chain: siblings differ in alias, and chains are built from the
parent's chain. -/
theorem aliasChain_injective_of (h : ParentsBelow t) (hs : SiblingsDistinct t) {i j : Nat}
    (hi : i < t.length) (hj : j < t.length) (he : t.aliasChain i = t.aliasChain j) : i = j := by
  induction i using Nat.strongRecOn generalizing j with
  | ind i ih =>
    by_cases hi0 : i = 0
    · subst hi0
      rw [aliasChain_root, eq_comm, h.aliasChain_eq_nil_iff hj] at he
      exact he.symm
    · by_cases hj0 : j = 0
      · subst hj0
        rw [aliasChain_root, h.aliasChain_eq_nil_iff hi] at he
        exact he
      · obtain ⟨p, hp, hpi⟩ := h i (Nat.pos_of_ne_zero hi0) hi
        obtain ⟨q, hq, hqj⟩ := h j (Nat.pos_of_ne_zero hj0) hj
        rw [aliasChain_of_parent h (Nat.pos_of_ne_zero hi0) hi hp,
          aliasChain_of_parent h (Nat.pos_of_ne_zero hj0) hj hq] at he
        obtain ⟨hpq, hal⟩ := List.append_inj' he rfl
        have hpq' : p = q := ih p hpi (by omega) (by omega) hpq
        have hal' : (t.node i).aliasName = (t.node j).aliasName := by
          simpa using hal
        exact hs i j (Nat.pos_of_ne_zero hi0) hi (Nat.pos_of_ne_zero hj0) hj
          (by rw [hp, hq, hpq']) hal'

theorem childrenListed_addChild (h : ParentsBelow t) (hc : ChildrenListed t)
    (hp : parent < t.length) : ChildrenListed (t.addChild parent m a).1 := by
  intro j c hj
  rw [length_addChild] at hj ⊢
  rw [children_addChild hp, parent_addChild hp]
  by_cases hjl : j < t.length
  · have hmem := hc j c hjl
    by_cases hjp : j = parent
    · subst hjp
      simp only [if_true, List.mem_append, List.mem_singleton, hmem]
      constructor
      · rintro (⟨hc0, hcl, hcp⟩ | rfl)
        · exact ⟨hc0, by omega, by simp [hcl, hcp]⟩
        · exact ⟨by omega, by omega, by simp⟩
      · rintro ⟨hc0, hcl, hcp⟩
        by_cases hcl' : c < t.length
        · exact Or.inl ⟨hc0, hcl', by simpa [hcl'] using hcp⟩
        · exact Or.inr (by omega)
    · simp only [hjp, if_false, hjl, if_true, hmem]
      constructor
      · rintro ⟨hc0, hcl, hcp⟩
        exact ⟨hc0, by omega, by simp [hcl, hcp]⟩
      · rintro ⟨hc0, hcl, hcp⟩
        by_cases hcl' : c < t.length
        · exact ⟨hc0, hcl', by simpa [hcl'] using hcp⟩
        · have hce : c = t.length := by omega
          simp [hce] at hcp
          exact absurd hcp.symm hjp
  · -- the fresh node has no children yet, and no node has it as parent
    have hje : j = t.length := by omega
    subst hje
    simp only [Nat.ne_of_gt hp, Nat.lt_irrefl, if_false, List.not_mem_nil, false_iff]
    rintro ⟨hc0, hcl, hcp⟩
    by_cases hcl' : c < t.length
    · obtain ⟨q, hq, hqc⟩ := h c hc0 hcl'
      simp only [hcl', if_true, hq, Option.some.injEq] at hcp
      omega
    · have hce : c = t.length := by omega
      simp only [hce, Nat.lt_irrefl, if_false, if_true, Option.some.injEq] at hcp
      have hpe : parent = t.length := hcp
      omega

theorem siblingsDistinct_addChild (hc : ChildrenListed t) (hs : SiblingsDistinct t)
    (hp : parent < t.length) (hfresh : ∀ c ∈ (t.node parent).children, (t.node c).aliasName ≠ a) :
    SiblingsDistinct (t.addChild parent m a).1 := by
  intro i j hi hil hj hjl hpar hal
  rw [length_addChild] at hil hjl
  rw [parent_addChild hp, parent_addChild hp] at hpar
  -- an old node with the fresh node's parent is a sibling of it, so its alias differs
  have hold : ∀ k, 0 < k → k < t.length → (t.node k).parent = some parent →
      (t.node k).aliasName ≠ a := by
    intro k hk hkl hkp
    exact hfresh k ((hc parent k hp).mpr ⟨hk, hkl, hkp⟩)
  by_cases hi' : i < t.length <;> by_cases hj' : j < t.length
  · rw [(addChild_node_lt hp hi').2.1, (addChild_node_lt hp hj').2.1] at hal
    simp only [hi', hj', if_true] at hpar
    exact hs i j hi hi' hj hj' hpar hal
  · have hje : j = t.length := by omega
    subst hje
    simp only [hi', if_true, Nat.lt_irrefl, if_false] at hpar
    rw [(addChild_node_lt hp hi').2.1, addChild_node_fresh hp] at hal
    exact absurd hal (hold i hi hi' hpar)
  · have hie : i = t.length := by omega
    subst hie
    simp only [hj', if_true, Nat.lt_irrefl, if_false] at hpar
    rw [(addChild_node_lt hp hj').2.1, addChild_node_fresh hp] at hal
    exact absurd hal.symm (hold j hj hj' hpar.symm)
  · omega

theorem related_addChild (h : ParentsBelow t) (hr : Related reg t) (hp : parent < t.length)
    (hrel : ∃ pm r, reg.get (t.node parent).model = some pm ∧ pm.relation a = some r ∧
      r.target = m) :
    Related reg (t.addChild parent m a).1 := by
  intro i q hi hl hq
  rw [length_addChild] at hl
  rw [parent_addChild hp] at hq
  by_cases hil : i < t.length
  · simp only [hil, if_true] at hq
    have hql : q < t.length := by
      have := h.parent_lt hi hil hq
      omega
    rw [(addChild_node_lt hp hil).1, (addChild_node_lt hp hil).2.1,
      (addChild_node_lt hp hql).1]
    exact hr i q hi hil hq
  · have he : i = t.length := by omega
    subst he
    simp only [Nat.lt_irrefl, if_false, if_true, Option.some.injEq] at hq
    subst hq
    rw [addChild_node_fresh hp, (addChild_node_lt hp hp).1]
    exact hrel

/-- Adding a child for a relation of the parent's model, under an alias no sibling has, keeps a
tree linked. -/
theorem Linked.addChild (hL : Linked reg t) (hp : parent < t.length)
    (hrel : ∃ pm r, reg.get (t.node parent).model = some pm ∧ pm.relation a = some r ∧
      r.target = m)
    (hfresh : ∀ c ∈ (t.node parent).children, (t.node c).aliasName ≠ a) :
    Linked reg (t.addChild parent m a).1 where
  parents_below := parentsBelow_addChild hL.parents_below hp
  children_listed := childrenListed_addChild hL.parents_below hL.children_listed hp
  siblings_distinct := siblingsDistinct_addChild hL.children_listed hL.siblings_distinct hp hfresh
  related := related_addChild hL.parents_below hL.related hp hrel

theorem Linked.aliasChain_injective (hL : Linked reg t) {i j : Nat} (hi : i < t.length)
    (hj : j < t.length) (he : t.aliasChain i = t.aliasChain j) : i = j :=
  aliasChain_injective_of hL.parents_below hL.siblings_distinct hi hj he

end Links

section Spelling

/-- How paths are spelled: the root's path is empty, no alias below the root is empty, and the
path of every other node is its parent's path, a dot and its alias, the dot left out under an
empty path. -/
structure Spelled (t : IncludeTree) : Prop where
  root_path : (t.node 0).path = ""
  parents_below : ParentsBelow t
  alias_ne : ∀ i : Nat, 0 < i → i < t.length → (t.node i).aliasName ≠ ""
  path_child : ∀ i p : Nat, 0 < i → i < t.length → (t.node i).parent = some p →
    (t.node i).path = if (t.node p).path.isEmpty then (t.node i).aliasName
      else (t.node p).path ++ "." ++ (t.node i).aliasName

theorem spelled_new (model : String) : Spelled (IncludeTree.new model) where
  root_path := rfl
  parents_below := fun i hi hl => absurd hl (by simp [IncludeTree.new, length]; omega)
  alias_ne := fun i hi hl => absurd hl (by simp [IncludeTree.new, length]; omega)
  path_child := fun i _ hi hl => absurd hl (by simp [IncludeTree.new, length]; omega)

namespace Spelled

variable {t : IncludeTree} (hs : Spelled t)
include hs

/-- Adding a child under a non-empty alias spells its path from its parent's. -/
theorem addChild {parent : Nat} {m a : String} (hp : parent < t.length) (ha : a ≠ "") :
    Spelled (t.addChild parent m a).1 where
  root_path := by
    rw [(addChild_node_lt hp (Nat.lt_of_le_of_lt (Nat.zero_le _) hp)).2.2]
    exact hs.root_path
  parents_below := parentsBelow_addChild hs.parents_below hp
  alias_ne := by
    intro i hi hl
    rw [length_addChild] at hl
    by_cases hil : i < t.length
    · rw [(addChild_node_lt hp hil).2.1]
      exact hs.alias_ne i hi hil
    · have he : i = t.length := by omega
      subst he
      rw [addChild_node_fresh hp]
      exact ha
  path_child := by
    intro i q hi hl hq
    rw [length_addChild] at hl
    rw [parent_addChild hp] at hq
    by_cases hil : i < t.length
    · simp only [hil, if_true] at hq
      have hql : q < t.length := by
        have := hs.parents_below.parent_lt hi hil hq
        omega
      rw [(addChild_node_lt hp hil).2.2, (addChild_node_lt hp hil).2.1,
        (addChild_node_lt hp hql).2.2]
      exact hs.path_child i q hi hil hq
    · have he : i = t.length := by omega
      subst he
      simp only [Nat.lt_irrefl, if_false, if_true, Option.some.injEq] at hq
      subst hq
      rw [addChild_node_fresh hp, (addChild_node_lt hp hp).2.2]
      rfl

/-- Changing a node without touching its alias, path and parent keeps paths spelled. -/
theorem modify {id : Nat} {f : JoinNode → JoinNode} (hid : id < t.length)
    (hf : ∀ n, (f n).aliasName = n.aliasName ∧ (f n).path = n.path ∧ (f n).parent = n.parent) :
    Spelled (t.modify id f) := by
  have hnode : ∀ i, ((t.modify id f).node i).aliasName = (t.node i).aliasName ∧
      ((t.modify id f).node i).path = (t.node i).path ∧
      ((t.modify id f).node i).parent = (t.node i).parent :=
    node_modify_rel t hid (fun a b => a.aliasName = b.aliasName ∧ a.path = b.path ∧ a.parent = b.parent)
      (fun _ => ⟨rfl, rfl, rfl⟩) hf
  have hlen := length_modify t id f
  refine ⟨?_, ?_, ?_, ?_⟩ <;>
    simp only [ParentsBelow, hlen, fun i => (hnode i).1, fun i => (hnode i).2.1,
      fun i => (hnode i).2.2]
  · exact hs.root_path
  · exact hs.parents_below
  · exact hs.alias_ne
  · exact hs.path_child

theorem aliasChain_ne_nil {i : Nat} (hi : 0 < i) (hl : i < t.length) : t.aliasChain i ≠ [] :=
  hs.parents_below.aliasChain_ne_nil hi hl

theorem path_ne_empty {i : Nat} (hi : 0 < i) (hl : i < t.length) : (t.node i).path ≠ "" := by
  obtain ⟨q, hq, _⟩ := hs.parents_below i hi hl
  rw [hs.path_child i q hi hl hq]
  split
  · exact hs.alias_ne i hi hl
  · intro h
    have hlen := congrArg String.length h
    simp at hlen

/-- A node's path is its alias chain joined by dots. -/
theorem path_eq_intercalate {i : Nat} (hl : i < t.length) :
    (t.node i).path = String.intercalate "." (t.aliasChain i) := by
  induction i using Nat.strongRecOn with
  | ind i ih =>
    by_cases hi0 : i = 0
    · subst hi0
      rw [hs.root_path, aliasChain_root, String.intercalate_nil]
    · have hi : 0 < i := Nat.pos_of_ne_zero hi0
      obtain ⟨q, hq, hqi⟩ := hs.parents_below i hi hl
      have hql : q < t.length := by omega
      rw [hs.path_child i q hi hl hq, aliasChain_of_parent hs.parents_below hi hl hq]
      by_cases hq0 : q = 0
      · subst hq0
        simp [hs.root_path, aliasChain_root]
      · have hpath : (t.node q).path.isEmpty = false :=
          String.isEmpty_eq_false_iff.mpr (hs.path_ne_empty (Nat.pos_of_ne_zero hq0) hql)
        rw [hpath, if_neg Bool.false_ne_true, ih q hqi hql,
          String.intercalate_append_of_ne_nil (hs.aliasChain_ne_nil (Nat.pos_of_ne_zero hq0) hql)
            (List.cons_ne_nil _ _), String.intercalate_singleton]

end Spelled

end Spelling

/-- The tree a translator means: rooted at `model`, every link consistent, sibling aliases
distinct, paths spelled from aliases, and every join made along a relation of `reg`. -/
structure WellFormed (reg : Registry) (model : String) (t : IncludeTree) : Prop where
  length_pos : 0 < t.length
  root_model : (t.node 0).model = model
  root_parent : (t.node 0).parent = none
  root_path : (t.node 0).path = ""
  parents_below : ParentsBelow t
  mem_children : ∀ j c : Nat, j < t.length →
    (c ∈ (t.node j).children ↔ 0 < c ∧ c < t.length ∧ (t.node c).parent = some j)
  nodup_children : ∀ j : Nat, j < t.length → (t.node j).children.Nodup
  alias_ne : ∀ i : Nat, 0 < i → i < t.length → (t.node i).aliasName ≠ ""
  sibling_alias : ∀ i j : Nat, 0 < i → i < t.length → 0 < j → j < t.length →
    (t.node i).parent = (t.node j).parent → (t.node i).aliasName = (t.node j).aliasName → i = j
  path_child : ∀ i p : Nat, 0 < i → i < t.length → (t.node i).parent = some p →
    (t.node i).path = if (t.node p).path.isEmpty then (t.node i).aliasName
      else (t.node p).path ++ "." ++ (t.node i).aliasName
  related : ∀ i p : Nat, 0 < i → i < t.length → (t.node i).parent = some p →
    ∃ m r, reg.get (t.node p).model = some m ∧ m.relation (t.node i).aliasName = some r ∧
      r.target = (t.node i).model

variable {reg : Registry} {model : String} {t : IncludeTree}

theorem wellFormed_new (reg : Registry) (model : String) :
    WellFormed reg model (IncludeTree.new model) where
  length_pos := by simp [IncludeTree.new, length]
  root_model := rfl
  root_parent := rfl
  root_path := rfl
  parents_below := fun i hi hl => absurd hl (by simp [IncludeTree.new, length]; omega)
  mem_children := by
    intro j c hj
    have hj0 : j = 0 := by simpa [IncludeTree.new, length] using hj
    subst hj0
    simp [IncludeTree.new, node, length]
    omega
  nodup_children := by
    intro j hj
    have hj0 : j = 0 := by simpa [IncludeTree.new, length] using hj
    subst hj0
    simp [IncludeTree.new, node]
  alias_ne := fun i hi hl => absurd hl (by simp [IncludeTree.new, length]; omega)
  sibling_alias := fun i _ hi hl => absurd hl (by simp [IncludeTree.new, length]; omega)
  path_child := fun i _ hi hl => absurd hl (by simp [IncludeTree.new, length]; omega)
  related := fun i _ hi hl => absurd hl (by simp [IncludeTree.new, length]; omega)


namespace WellFormed

variable (hwf : WellFormed reg model t)
include hwf

theorem parent_lt {i p : Nat} (hi : 0 < i) (hl : i < t.length) (hp : (t.node i).parent = some p) :
    p < i :=
  hwf.parents_below.parent_lt hi hl hp

/-- A well-formed tree is linked: what it adds is its root and the spelling of its paths. -/
theorem linked : Linked reg t :=
  ⟨hwf.parents_below, hwf.mem_children, hwf.sibling_alias, hwf.related⟩

/-- A well-formed tree spells its paths from its aliases. -/
theorem spelled : Spelled t :=
  ⟨hwf.root_path, hwf.parents_below, hwf.alias_ne, hwf.path_child⟩

/-- Adding a child for a relation of the parent's model, under an alias no sibling has,
keeps a tree well formed. -/
theorem addChild {parent : Nat} {m a : String} (hp : parent < t.length)
    (hrel : ∃ pm r, reg.get (t.node parent).model = some pm ∧ pm.relation a = some r ∧
      r.target = m)
    (hfresh : ∀ c ∈ (t.node parent).children, (t.node c).aliasName ≠ a) (ha : a ≠ "") :
    WellFormed reg model (t.addChild parent m a).1 where
  length_pos := by
    rw [length_addChild]
    omega
  root_model := by
    rw [(addChild_node_lt hp hwf.length_pos).1]
    exact hwf.root_model
  root_parent := by
    rw [parent_addChild hp, if_pos hwf.length_pos]
    exact hwf.root_parent
  root_path := by
    rw [(addChild_node_lt hp hwf.length_pos).2.2]
    exact hwf.root_path
  parents_below := parentsBelow_addChild hwf.parents_below hp
  mem_children := childrenListed_addChild hwf.parents_below hwf.mem_children hp
  nodup_children := by
    intro j hj
    rw [children_addChild hp]
    by_cases hjp : j = parent
    · subst hjp
      simp only [if_true]
      refine List.nodup_append.mpr ⟨hwf.nodup_children j hp, by simp, ?_⟩
      intro c hc d hd
      have hcl := ((hwf.mem_children j c hp).mp hc).2.1
      rw [List.mem_singleton] at hd
      intro hcd
      rw [hcd, hd] at hcl
      exact Nat.lt_irrefl _ hcl
    · by_cases hjl : j < t.length
      · simpa [hjp, hjl] using hwf.nodup_children j hjl
      · simp [hjp, hjl]
  alias_ne := (hwf.spelled.addChild hp ha).alias_ne
  sibling_alias := siblingsDistinct_addChild hwf.mem_children hwf.sibling_alias hp hfresh
  path_child := (hwf.spelled.addChild hp ha).path_child
  related := related_addChild hwf.parents_below hwf.related hp hrel

/-- Changing what a node projects keeps a tree well formed. -/
theorem modify {id : Nat} {f : JoinNode → JoinNode} (hid : id < t.length)
    (hf : ∀ n, (f n).model = n.model ∧ (f n).aliasName = n.aliasName ∧ (f n).path = n.path ∧
      (f n).parent = n.parent ∧ (f n).children = n.children) :
    WellFormed reg model (t.modify id f) := by
  have hnode : ∀ i, ((t.modify id f).node i).model = (t.node i).model ∧
      ((t.modify id f).node i).aliasName = (t.node i).aliasName ∧
      ((t.modify id f).node i).path = (t.node i).path ∧
      ((t.modify id f).node i).parent = (t.node i).parent ∧
      ((t.modify id f).node i).children = (t.node i).children :=
    node_modify_rel t hid (fun a b => a.model = b.model ∧ a.aliasName = b.aliasName ∧
      a.path = b.path ∧ a.parent = b.parent ∧ a.children = b.children)
      (fun _ => ⟨rfl, rfl, rfl, rfl, rfl⟩) hf
  have hlen := length_modify t id f
  refine ⟨?_, ?_, ?_, ?_, ?_, ?_, ?_, ?_, ?_, ?_, ?_⟩ <;>
    simp only [ParentsBelow, hlen, fun i => (hnode i).1, fun i => (hnode i).2.1, fun i => (hnode i).2.2.1,
      fun i => (hnode i).2.2.2.1, fun i => (hnode i).2.2.2.2]
  · exact hwf.length_pos
  · exact hwf.root_model
  · exact hwf.root_parent
  · exact hwf.root_path
  · exact hwf.parents_below
  · exact hwf.mem_children
  · exact hwf.nodup_children
  · exact hwf.alias_ne
  · exact hwf.sibling_alias
  · exact hwf.path_child
  · exact hwf.related

theorem aliasChain_ne_nil {i : Nat} (hi : 0 < i) (hl : i < t.length) : t.aliasChain i ≠ [] :=
  hwf.parents_below.aliasChain_ne_nil hi hl

theorem aliasChain_eq_nil_iff {i : Nat} (hl : i < t.length) : t.aliasChain i = [] ↔ i = 0 :=
  hwf.parents_below.aliasChain_eq_nil_iff hl

/-- No two nodes share an alias chain. -/
theorem aliasChain_injective {i j : Nat} (hi : i < t.length) (hj : j < t.length)
    (h : t.aliasChain i = t.aliasChain j) : i = j :=
  hwf.linked.aliasChain_injective hi hj h

/-- The chains of a tree are closed under prefixes: the chain of every ancestor is there. -/
theorem hasChain_prefix_closed {c c' : List String} (hc : t.HasChain c) (hp : c' <+: c) :
    t.HasChain c' :=
  hwf.parents_below.hasChain_prefix_closed hc hp

theorem path_ne_empty {i : Nat} (hi : 0 < i) (hl : i < t.length) : (t.node i).path ≠ "" :=
  hwf.spelled.path_ne_empty hi hl

/-- A node's path is its alias chain joined by dots. -/
theorem path_eq_intercalate {i : Nat} (hl : i < t.length) :
    (t.node i).path = String.intercalate "." (t.aliasChain i) :=
  hwf.spelled.path_eq_intercalate hl

/-- A node is listed among the children of its parent exactly once, and by no other node. -/
theorem count_children {i p : Nat} (hi : 0 < i) (hl : i < t.length)
    (hp : (t.node i).parent = some p) :
    (t.node p).children.count i = 1 ∧ ∀ j, j < t.length → j ≠ p → i ∉ (t.node j).children := by
  have hpl : p < t.length := by
    have := hwf.parent_lt hi hl hp
    omega
  constructor
  · exact List.count_eq_one_of_mem (hwf.nodup_children p hpl)
      ((hwf.mem_children p i hpl).mpr ⟨hi, hl, hp⟩)
  · intro j hj hjp hmem
    have hjpar := ((hwf.mem_children j i hj).mp hmem).2.2
    rw [hp, Option.some.injEq] at hjpar
    exact hjp hjpar.symm

end WellFormed

end IncludeTree
end Plan
end RestQuery
