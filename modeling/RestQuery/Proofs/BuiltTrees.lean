import RestQuery.Proofs.IncludeJson

/-!
# Alias chains and join order of built trees

A query builds its include tree from the root alone by adding children under
nodes that exist, each under the non-empty alias of a relation, and by
setting the columns nodes project (`Built`).  This module shows what such a
tree guarantees to the compiler, which names every join by its path and
declares the joins in the order `joins` lists them.

**Descents.**  Climbing parent links from a node reaches the root: the
nodes passed, read from the top down with the root left out, form the
node's descent (`Descent`), each a child of the one before.  The alias
chain, read by a climb bounded by the number of nodes, lists the alias of
every node of the descent, one per parent link, in order.

**Paths and order.**  A node's path, spelled from its parent's path when
the node was added, is its alias chain joined by dots; every child has a
larger number than its parent; so `joins`, which lists the nodes below the
root by number, lists every node after its parent.

**Results.**
* `ParentsBelow.exists_descent`, `Descent.aliasChain_eq`: the climb reaches
  the root and reads one alias per parent link.
* `Built.spelled`: paths are spelled from non-empty aliases.
* `joins_eq_append`, `joins_parent_before`: the joins before a node are those
  of the nodes numbered below it, its parent among them.
* `Built.chains_paths_joins`: what a built tree guarantees.
-/

namespace RestQuery
namespace Plan
namespace IncludeTree

variable {t : IncludeTree}

section Descents

/-- `t.Descent i ns`: the nodes `ns` lead from the root down to node `i`, the root left out; the
first is a child of the root, each next one is a child of the one before, and the last is `i`. -/
inductive Descent (t : IncludeTree) : Nat → List Nat → Prop
  | root : Descent t 0 []
  | child {i p : Nat} {ns : List Nat} :
      0 < i → (t.node i).parent = some p → Descent t p ns → Descent t i (ns ++ [i])

/-- When parents come before their children, every node descends from the root. -/
theorem ParentsBelow.exists_descent (h : ParentsBelow t) {i : Nat} (hl : i < t.length) :
    ∃ ns, t.Descent i ns := by
  induction i using Nat.strongRecOn with
  | ind i ih =>
    by_cases hi0 : i = 0
    · subst hi0
      exact ⟨[], .root⟩
    · -- climb to the parent, which has a smaller number
      obtain ⟨p, hp, hpi⟩ := h i (Nat.pos_of_ne_zero hi0) hl
      obtain ⟨ns, hns⟩ := ih p hpi (by omega)
      exact ⟨ns ++ [i], .child (Nat.pos_of_ne_zero hi0) hp hns⟩

/-- The alias chain of a node lists the aliases of its descent, one per parent link. -/
theorem Descent.aliasChain_eq (h : ParentsBelow t) {i : Nat} {ns : List Nat}
    (hd : t.Descent i ns) : t.aliasChain i = ns.map fun j => (t.node j).aliasName := by
  induction hd with
  | root => exact aliasChain_root t
  | child hi hp _ ih =>
    rw [aliasChain_of_parent h hi (lt_length_of_parent hp) hp, ih, List.map_append,
      List.map_singleton]

end Descents

section Spelling

/-- A built tree whose aliases below the root are not empty spells its paths from them. -/
theorem Built.spelled (hb : t.Built)
    (ha : ∀ i < t.length, 0 < i → (t.node i).aliasName ≠ "") : t.Spelled := by
  induction hb with
  | new model => exact spelled_new model
  | @addChild t parent model aliasName _ hp ih =>
    -- the old nodes keep their aliases, and the new one has the alias it was added under
    have ha' : ∀ i < t.length, 0 < i → (t.node i).aliasName ≠ "" := fun i hl hi => by
      have := ha i (by rw [length_addChild]; omega) hi
      rwa [(addChild_node_lt hp hl).2.1] at this
    have hfresh : aliasName ≠ "" := by
      have := ha t.length (by rw [length_addChild]; omega) (by omega)
      rwa [addChild_node_fresh hp] at this
    exact (ih ha').addChild hp hfresh
  | @project t id cols _ hid ih =>
    have ha' : ∀ i < t.length, 0 < i → (t.node i).aliasName ≠ "" := fun i hl hi => by
      have := ha i (by rw [length_modify]; exact hl) hi
      rwa [node_modify_rel t (f := fun n => { n with attributes := cols }) hid
        (fun a b => a.aliasName = b.aliasName) (fun _ => rfl) (fun _ => rfl) i] at this
    exact (ih ha').modify hid fun _ => ⟨rfl, rfl, rfl⟩

end Spelling

section Order

/-- The entry of a node in the joins is the node under its number, and what stands before it
are the entries of the nodes numbered below it. -/
theorem joins_eq_append {l₁ l₂ : List (Nat × JoinNode)} {i : Nat} {n : JoinNode}
    (h : t.joins = l₁ ++ (i, n) :: l₂) :
    l₁ = (List.range' 1 (i - 1)).map (fun j => (j, t.node j)) ∧ n = t.node i ∧ 0 < i ∧
      i < t.length := by
  rw [joins_eq, List.map_eq_append_iff] at h
  obtain ⟨a, b, hab, rfl, hb⟩ := h
  obtain ⟨k, -, rfl, hb'⟩ := List.range'_eq_append_iff.mp hab
  obtain ⟨j, b', rfl, hj, -⟩ := List.map_eq_cons_iff.mp hb
  obtain ⟨hjk, hlen, -⟩ := List.range'_eq_cons_iff.mp hb'.symm
  simp only [Prod.mk.injEq] at hj
  obtain ⟨rfl, rfl⟩ := hj
  subst hjk
  refine ⟨?_, rfl, by omega, by omega⟩
  rw [show 1 + k * 1 - 1 = k by omega]

/-- Every node's parent below the root has its entry in the joins before the node's own. -/
theorem joins_parent_before (h : ParentsBelow t) {l₁ l₂ : List (Nat × JoinNode)} {i p : Nat}
    {n : JoinNode} (hj : t.joins = l₁ ++ (i, n) :: l₂) (hp : n.parent = some p) :
    p = 0 ∨ (p, t.node p) ∈ l₁ := by
  obtain ⟨hl₁, rfl, hi, hil⟩ := joins_eq_append hj
  have hpi := h.parent_lt hi hil hp
  by_cases hp0 : p = 0
  · exact Or.inl hp0
  · right
    rw [hl₁, List.mem_map]
    exact ⟨p, List.mem_range'_1.mpr ⟨by omega, by omega⟩, rfl⟩

end Order

/-- What a tree built by adding children under existing nodes, with non-empty aliases, and by
setting projected columns, guarantees: every child has a larger number than its parent; the
climb from every node reaches the root, and its alias chain lists one alias per parent link
along the way; its path is its alias chain joined by dots; and the joins list every node after
its parent. -/
theorem Built.chains_paths_joins (hb : t.Built)
    (ha : ∀ i < t.length, 0 < i → (t.node i).aliasName ≠ "") :
    (∀ i p, (t.node i).parent = some p → p < i) ∧
      (∀ p c, c ∈ (t.node p).children → p < c) ∧
      (∀ i, i < t.length → (∃ ns, t.Descent i ns) ∧
        ∀ ns, t.Descent i ns → t.aliasChain i = ns.map fun j => (t.node j).aliasName) ∧
      (∀ i, i < t.length → (t.node i).path = String.intercalate "." (t.aliasChain i)) ∧
      (∀ l₁ l₂ i n p, t.joins = l₁ ++ (i, n) :: l₂ → n.parent = some p →
        p = 0 ∨ (p, t.node p) ∈ l₁) := by
  have har := hb.arena
  have hs := hb.spelled ha
  refine ⟨fun i p hp => har.parent_lt hp, fun p c hc => har.lt_of_mem_children hc,
    fun i hl => ⟨har.parents_below.exists_descent hl, fun ns hd => hd.aliasChain_eq har.parents_below⟩,
    fun i hl => hs.path_eq_intercalate hl, fun l₁ l₂ i n p hj hp => ?_⟩
  exact joins_parent_before har.parents_below hj hp

/-- The tree of the customers, their orders and the orders' line items. -/
def customerOrders : IncludeTree :=
  (((IncludeTree.new "Customers").addChild 0 "Orders" "Orders").1.addChild 1 "LineItems"
    "LineItems").1

theorem customerOrders_chains :
    customerOrders.Built ∧
      (∀ i < customerOrders.length, 0 < i → (customerOrders.node i).aliasName ≠ "") ∧
      ((∀ i p, (customerOrders.node i).parent = some p → p < i) ∧
        (∀ p c, c ∈ (customerOrders.node p).children → p < c) ∧
        (∀ i, i < customerOrders.length → (∃ ns, customerOrders.Descent i ns) ∧
          ∀ ns, customerOrders.Descent i ns →
            customerOrders.aliasChain i = ns.map fun j => (customerOrders.node j).aliasName) ∧
        (∀ i, i < customerOrders.length →
          (customerOrders.node i).path = String.intercalate "." (customerOrders.aliasChain i)) ∧
        (∀ l₁ l₂ i n p, customerOrders.joins = l₁ ++ (i, n) :: l₂ → n.parent = some p →
          p = 0 ∨ (p, customerOrders.node p) ∈ l₁)) :=
  have hb : customerOrders.Built := .addChild _ _ (.addChild _ _ (.new _) (by decide)) (by decide)
  have ha : ∀ i < customerOrders.length, 0 < i → (customerOrders.node i).aliasName ≠ "" := by
    decide
  ⟨hb, ha, Built.chains_paths_joins hb ha⟩

end IncludeTree
end Plan
end RestQuery
