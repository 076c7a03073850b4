import RestQuery.Proofs.Resolve
import RestQuery.Schema.Config

/-!
# Walking a join path

Resolving a list of segments from a node of an include tree walks down the
tree one segment at a time.  A segment is trimmed; the part before its first
`:` names a table, whose Pascal-case form is the model the join reaches, and
the whole segment in Pascal case is the alias of the join.  The segment is
accepted when the table part is not empty and the model reached so far is
registered with a relation under that alias targeting that model; the walk
then moves to the child with that alias, made when it is missing.

This module describes a walk completely, on any tree with consistent links
(`IncludeTree.Linked`), from any of its nodes:

* it succeeds exactly when every segment names a relation of the model the
  segments before it lead to (`Resolvable`), and otherwise fails at the
  first segment that does not, naming the whole path and that segment;
* it ends at the node whose alias chain is the start's followed by the
  aliases of the segments;
* the tree it leaves is the tree it started with, grown by one node for
  each prefix of that chain it did not have yet, in order (`Grown`); the old
  nodes only gain these new children.  A failed walk leaves the tree grown
  by the prefixes of the segments before the one that failed.

A walk that succeeded, run again on the tree it left, changes nothing and
ends at the same node.

**Results.**
* `Grown.trans`, `Grown.hasChain_iff`, `Grown.eq_of_nil`: growing a tree.
* `resolveStep_ok`, `resolveStep_error`: one segment.
* `resolveFrom_ok`, `resolveFrom_error`: a walk, by induction on its
  segments.
* `resolveSegments_walk`: the walk from any node, its outcome and its
  repetition.
-/

namespace RestQuery
namespace Plan
namespace IncludeTree

open Schema

instance decidableHasChain (t : IncludeTree) (c : List String) : Decidable (t.HasChain c) :=
  inferInstanceAs (Decidable (∃ i, i < t.length ∧ t.aliasChain i = c))

/-- The chains `C ++ [a₁]`, `C ++ [a₁, a₂]`, … along the aliases `A` that the tree has no node
for, shortest first. -/
def missingChains (t : IncludeTree) (C : List String) : List String → List (List String)
  | [] => []
  | a :: A => (if t.HasChain (C ++ [a]) then [] else [C ++ [a]]) ++ t.missingChains (C ++ [a]) A

/-- The nodes numbered from `base` on that hang under `i`, in order. -/
def childrenFrom (t : IncludeTree) (base i : NodeId) : List NodeId :=
  (List.range' base (t.length - base)).filter fun c => (t.node c).parent == some i

/-- `t'` is `t` grown by one node for each chain of `new`, in order: the nodes of `t` keep
everything but their children lists, which gain the new nodes that hang under them, and the new
nodes project no columns. -/
structure Grown (t t' : IncludeTree) (new : List (List String)) : Prop where
  length_eq : t'.length = t.length + new.length
  chains_new : (List.range' t.length new.length).map t'.aliasChain = new
  node_old : ∀ i < t.length,
    t'.node i = { t.node i with children := (t.node i).children ++ t'.childrenFrom t.length i }
  attributes_new : ∀ c, t.length ≤ c → c < t'.length → (t'.node c).attributes = none

/-- Two trees with the same nodes are the same. -/
theorem ext_node {t t' : IncludeTree} (hl : t.length = t'.length)
    (h : ∀ i < t.length, t.node i = t'.node i) : t = t' := by
  cases t with
  | mk ns =>
    cases t' with
    | mk ns' =>
      congr 1
      refine List.ext_getElem hl fun i h₁ h₂ => ?_
      have hi := h i h₁
      simpa [node, List.getD_eq_getElem?_getD, List.getElem?_eq_getElem h₁,
        List.getElem?_eq_getElem h₂] using hi

section Missing

variable {t t' : IncludeTree}

theorem missingChains_append (C : List String) :
    ∀ A B : List String,
      t.missingChains C (A ++ B) = t.missingChains C A ++ t.missingChains (C ++ A) B
  | [], B => by simp [missingChains]
  | a :: A, B => by
      simp only [List.cons_append, missingChains, List.append_assoc, missingChains_append _ A B]
      simp

/-- A missing chain is longer than `C` and no longer than `C` followed by all of `A`. -/
theorem length_of_mem_missingChains :
    ∀ {C A : List String} {c : List String}, c ∈ t.missingChains C A →
      C.length < c.length ∧ c.length ≤ C.length + A.length
  | _, [], _, h => by simp [missingChains] at h
  | C, a :: A, c, h => by
      simp only [missingChains, List.mem_append] at h
      rcases h with h | h
      · split at h
        · simp at h
        · rw [List.mem_singleton] at h
          subst h
          simp
      · have := length_of_mem_missingChains h
        simp only [List.length_append, List.length_cons, List.length_nil] at this ⊢
        omega

/-- Only the chains longer than `C` decide which chains along `A` are missing. -/
theorem missingChains_congr :
    ∀ {C : List String} (A : List String),
      (∀ c : List String, C.length < c.length → (t'.HasChain c ↔ t.HasChain c)) →
      t'.missingChains C A = t.missingChains C A
  | _, [], _ => rfl
  | C, a :: A, h => by
      have ha := h (C ++ [a]) (by simp)
      have hrest : ∀ c : List String, (C ++ [a]).length < c.length →
          (t'.HasChain c ↔ t.HasChain c) := fun c hc =>
        h c (by simp only [List.length_append, List.length_singleton] at hc; omega)
      simp only [missingChains, missingChains_congr A hrest, ha]

/-- A tree that has the whole chain `C ++ A` misses none of its prefixes. -/
theorem missingChains_eq_nil (hP : ParentsBelow t) :
    ∀ {C : List String} (A : List String), t.HasChain (C ++ A) → t.missingChains C A = []
  | _, [], _ => rfl
  | C, a :: A, h => by
      have hprefix : t.HasChain (C ++ [a]) :=
        ParentsBelow.hasChain_prefix_closed hP h ⟨A, by simp⟩
      have hrest : t.HasChain (C ++ [a] ++ A) := by simpa using h
      simp [missingChains, hprefix, missingChains_eq_nil hP A hrest]

end Missing

section Growth

variable {t t₁ t₂ : IncludeTree} {new new₁ new₂ : List (List String)}

theorem childrenFrom_self (t : IncludeTree) (i : NodeId) : t.childrenFrom t.length i = [] := by
  simp [childrenFrom]

/-- A tree is grown from itself by nothing. -/
theorem Grown.refl (t : IncludeTree) : Grown t t [] where
  length_eq := rfl
  chains_new := rfl
  node_old := fun i _ => by rw [childrenFrom_self, List.append_nil]
  attributes_new := fun c hc hl => absurd hl (Nat.not_lt.mpr hc)

/-- Adding a child grows a tree by the child's chain. -/
theorem Grown.addChild {parent : Nat} {m a : String} (h : ParentsBelow t)
    (hp : parent < t.length) :
    Grown t (t.addChild parent m a).1 [t.aliasChain parent ++ [a]] where
  length_eq := length_addChild t parent m a
  chains_new := by
    simp [aliasChain_addChild_fresh h hp]
  node_old := by
    intro i hi
    have hfresh : ((t.addChild parent m a).1.node t.length).parent = some parent := by
      simp [parent_addChild hp]
    -- the only new node is the fresh child, listed under `parent`
    have hfrom : (t.addChild parent m a).1.childrenFrom t.length i =
        if i = parent then [t.length] else [] := by
      simp only [childrenFrom, length_addChild, Nat.add_sub_cancel_left, List.range'_one,
        List.filter_cons, List.filter_nil, hfresh]
      by_cases hip : i = parent
      · simp [hip]
      · simp [hip, Ne.symm hip]
    rw [node_addChild t m a i hp, hfrom]
    by_cases hip : i = parent
    · simp [hip]
    · simp [hip, hi]
  attributes_new := by
    intro c hc hl
    rw [length_addChild] at hl
    have hce : c = t.length := by omega
    rw [hce, addChild_node_fresh hp]
    rfl

theorem freshNode_model (t : IncludeTree) (parent : Nat) (m a : String) :
    (t.freshNode parent m a).model = m := rfl

theorem Grown.parent_old (h : Grown t t' new) {i : Nat} (hi : i < t.length) :
    (t'.node i).parent = (t.node i).parent := by
  rw [h.node_old i hi]

theorem Grown.aliasName_old (h : Grown t t' new) {i : Nat} (hi : i < t.length) :
    (t'.node i).aliasName = (t.node i).aliasName := by
  rw [h.node_old i hi]

theorem Grown.model_old (h : Grown t t' new) {i : Nat} (hi : i < t.length) :
    (t'.node i).model = (t.node i).model := by
  rw [h.node_old i hi]

theorem Grown.length_le (h : Grown t t' new) : t.length ≤ t'.length := by
  rw [h.length_eq]
  omega

/-- Growing keeps the chains of the old nodes. -/
theorem Grown.aliasChain_old (h : Grown t t' new) (hP : ParentsBelow t) (hP' : ParentsBelow t')
    {i : Nat} (hi : i < t.length) : t'.aliasChain i = t.aliasChain i :=
  aliasChain_congr hP hP' h.length_le (fun _ hj => ⟨h.aliasName_old hj, h.parent_old hj⟩) hi

/-- The chains of a grown tree are the old ones and the new ones. -/
theorem Grown.hasChain_iff (h : Grown t t' new) (hP : ParentsBelow t) (hP' : ParentsBelow t')
    (c : List String) : t'.HasChain c ↔ t.HasChain c ∨ c ∈ new := by
  constructor
  · rintro ⟨i, hi, rfl⟩
    by_cases hold : i < t.length
    · exact Or.inl ⟨i, hold, (h.aliasChain_old hP hP' hold).symm⟩
    · refine Or.inr ?_
      rw [← h.chains_new]
      exact List.mem_map.mpr ⟨i, List.mem_range'_1.mpr ⟨by omega, by rw [h.length_eq] at hi; omega⟩, rfl⟩
  · rintro (⟨i, hi, rfl⟩ | hnew)
    · exact ⟨i, by have := h.length_le; omega, h.aliasChain_old hP hP' hi⟩
    · rw [← h.chains_new] at hnew
      obtain ⟨i, hi, rfl⟩ := List.mem_map.mp hnew
      rw [List.mem_range'_1] at hi
      exact ⟨i, by rw [h.length_eq]; omega, rfl⟩

/-- The new children of a twice-grown tree: those of the first growth, then those of the
second. -/
theorem Grown.childrenFrom_trans (h₂ : Grown t₁ t₂ new₂) {base : Nat} (hb : base ≤ t₁.length)
    (i : NodeId) : t₂.childrenFrom base i = t₁.childrenFrom base i ++ t₂.childrenFrom t₁.length i := by
  have hsplit : List.range' base (t₂.length - base) =
      List.range' base (t₁.length - base) ++ List.range' t₁.length (t₂.length - t₁.length) := by
    have hle := h₂.length_le
    have happ := @List.range'_append_1 base (t₁.length - base) (t₂.length - t₁.length)
    rw [show base + (t₁.length - base) = t₁.length by omega,
      show t₁.length - base + (t₂.length - t₁.length) = t₂.length - base by omega] at happ
    exact happ.symm
  simp only [childrenFrom, hsplit, List.filter_append]
  congr 1
  refine List.filter_congr fun c hc => ?_
  rw [List.mem_range'_1] at hc
  rw [h₂.parent_old (by omega)]

/-- Growing twice is growing by both lists of chains. -/
theorem Grown.trans (h₁ : Grown t t₁ new₁) (h₂ : Grown t₁ t₂ new₂) (hP₁ : ParentsBelow t₁)
    (hP₂ : ParentsBelow t₂) : Grown t t₂ (new₁ ++ new₂) where
  length_eq := by
    rw [h₂.length_eq, h₁.length_eq, List.length_append]
    omega
  chains_new := by
    rw [List.length_append, ← List.range'_append_1, List.map_append, ← h₁.length_eq, h₂.chains_new]
    congr 1
    -- the chains of the first growth's nodes stay as they were
    refine Eq.trans (List.map_congr_left fun i hi => ?_) h₁.chains_new
    rw [List.mem_range'_1] at hi
    exact h₂.aliasChain_old hP₁ hP₂ (by rw [h₁.length_eq]; omega)
  node_old := by
    intro i hi
    have hi₁ : i < t₁.length := by have := h₁.length_le; omega
    rw [h₂.node_old i hi₁, h₁.node_old i hi, h₂.childrenFrom_trans h₁.length_le i]
    simp
  attributes_new := by
    intro c hc hl
    by_cases hc₁ : c < t₁.length
    · rw [h₂.node_old c hc₁]
      exact h₁.attributes_new c hc hc₁
    · exact h₂.attributes_new c (by omega) hl

/-- Growing by nothing changes nothing. -/
theorem Grown.eq_of_nil (h : Grown t t' []) : t' = t := by
  have hl : t'.length = t.length := by simpa using h.length_eq
  refine ext_node hl fun i hi => ?_
  rw [h.node_old i (by omega), ← hl, childrenFrom_self, List.append_nil]

end Growth

/-- In a linked tree, the chain of a node followed by one alias belongs only to a child of that
node under that alias. -/
theorem Linked.child_of_hasChain {reg : Registry} {t : IncludeTree} (hL : Linked reg t)
    {cur : Nat} (hc : cur < t.length) {a : String} (h : t.HasChain (t.aliasChain cur ++ [a])) :
    ∃ i ∈ (t.node cur).children, (t.node i).aliasName = a := by
  obtain ⟨i, hi, hic⟩ := h
  -- the root's chain is empty, so the node is below the root
  have hi0 : 0 < i := by
    refine Nat.pos_of_ne_zero fun h0 => ?_
    rw [h0, aliasChain_root] at hic
    simp at hic
  obtain ⟨p, hp, hpi⟩ := hL.parents_below i hi0 hi
  rw [aliasChain_of_parent hL.parents_below hi0 hi hp] at hic
  obtain ⟨hpc, hal⟩ := List.append_inj' hic (by simp)
  -- its parent has the chain of `cur`, so it is `cur`
  have hpcur : p = cur := hL.aliasChain_injective (by omega) hc hpc
  subst hpcur
  exact ⟨i, (hL.children_listed p i hc).mpr ⟨hi0, hi, hp⟩, by simpa using hal⟩

end IncludeTree
end Plan

namespace Request

open Plan Schema IncludeTree

/-- The part of a segment before its first `:`, the segment trimmed first: the table that a join
on it reaches. -/
def segmentTable (seg : String) : String :=
  (Text.split (Text.trim seg) ':').headD ""

/-- A segment names a relation of the model `m`: its table part is not empty, and `m` is
registered with a relation under the segment's Pascal-case alias that targets the table's
model. -/
def NamesRelation (reg : Registry) (m seg : String) : Prop :=
  segmentTable seg ≠ "" ∧ ∃ pm r, reg.get m = some pm ∧
    pm.relation (Naming.pascal (Text.trim seg)) = some r ∧ r.target = Naming.pascal (segmentTable seg)

/-- The model that segments lead to from `m`: that of the last segment's table, `m` when there
is no segment. -/
def reachedModel (m : String) (ss : List String) : String :=
  (ss.getLast?.map fun seg => Naming.pascal (segmentTable seg)).getD m

/-- Each segment names a relation of the model that the segments before it lead to, from `m`
on. -/
def Resolvable (reg : Registry) : String → List String → Prop
  | _, [] => True
  | m, seg :: rest => NamesRelation reg m seg ∧ Resolvable reg (Naming.pascal (segmentTable seg)) rest

variable {reg : Registry}

@[simp] theorem reachedModel_nil (m : String) : reachedModel m [] = m := by
  simp [reachedModel]

@[simp] theorem reachedModel_cons (m seg : String) (rest : List String) :
    reachedModel m (seg :: rest) = reachedModel (Naming.pascal (segmentTable seg)) rest := by
  cases rest with
  | nil => simp [reachedModel]
  | cons s rest =>
    rw [reachedModel, reachedModel, List.getLast?_cons_cons,
      List.getLast?_eq_some_getLast (List.cons_ne_nil s rest)]
    simp

@[simp] theorem resolvable_nil (m : String) : Resolvable reg m [] ↔ True := Iff.rfl

@[simp] theorem resolvable_cons (m seg : String) (rest : List String) :
    Resolvable reg m (seg :: rest) ↔
      NamesRelation reg m seg ∧ Resolvable reg (Naming.pascal (segmentTable seg)) rest := Iff.rfl

/-- Segments that resolve name, one after the other, relations of the models they reach. -/
theorem Resolvable.namesRelation_at :
    ∀ {m : String} {ss : List String}, Resolvable reg m ss → ∀ {i : Nat} (hi : i < ss.length),
      NamesRelation reg (reachedModel m (ss.take i)) ss[i]
  | _, [], _, _, hi => absurd hi (Nat.not_lt_zero _)
  | m, seg :: rest, h, 0, _ => by
      rw [List.take_zero, reachedModel_nil, List.getElem_cons_zero]
      exact ((resolvable_cons m seg rest).mp h).1
  | m, seg :: rest, h, i + 1, hi => by
      rw [List.take_succ_cons, reachedModel_cons, List.getElem_cons_succ]
      exact ((resolvable_cons m seg rest).mp h).2.namesRelation_at (by simpa using hi)

theorem segmentTarget_trim_eq_some {t : IncludeTree} {cur : NodeId} {seg a m : String} :
    segmentTarget reg t cur (Text.trim seg) = some (a, m) ↔
      NamesRelation reg (t.node cur).model seg ∧ Naming.pascal (Text.trim seg) = a ∧
        Naming.pascal (segmentTable seg) = m := by
  unfold segmentTarget NamesRelation
  rcases hget : reg.get (t.node cur).model with _ | pm
  · simp
  · rcases hrel : pm.relation (Naming.pascal (Text.trim seg)) with _ | r
    · simp [hrel]
    · simp [hrel, segmentTable]

theorem segmentTarget_trim_eq_none {t : IncludeTree} {cur : NodeId} {seg : String} :
    segmentTarget reg t cur (Text.trim seg) = none ↔ ¬ NamesRelation reg (t.node cur).model seg := by
  unfold segmentTarget NamesRelation
  rcases hget : reg.get (t.node cur).model with _ | pm
  · simp
  · rcases hrel : pm.relation (Naming.pascal (Text.trim seg)) with _ | r
    · simp [hrel]
    · simp [hrel, segmentTable]

/-- A walk from `cur` in `w` along the aliases `A` ended at `n` in `w'`: only the tree changed; it
is still linked and grew by the chains along `A` it lacked; and `n` is the node of the chain of
`cur` followed by `A`, of model `m`. -/
structure Reached (reg : Registry) (w : Workspace) (cur : NodeId) (A : List String) (m : String)
    (n : NodeId) (w' : Workspace) : Prop where
  notes : w'.notes = w.notes
  linked : Linked reg w'.tree
  grown : Grown w.tree w'.tree (w.tree.missingChains (w.tree.aliasChain cur) A)
  lt : n < w'.tree.length
  chain : w'.tree.aliasChain n = w.tree.aliasChain cur ++ A
  model : (w'.tree.node n).model = m

variable {w w₁ w₂ : Workspace} {cur n n' : NodeId} {A B : List String} {m m' : String}

/-- Walking no segment stays where it is. -/
theorem Reached.refl (hL : Linked reg w.tree) (hc : cur < w.tree.length) :
    Reached reg w cur [] (w.tree.node cur).model cur w :=
  ⟨rfl, hL, Grown.refl _, hc, by simp, rfl⟩

/-- Two walks, the second from where the first ended, make one. -/
theorem Reached.trans (h₁ : Reached reg w cur A m n w₁) (h₂ : Reached reg w₁ n B m' n' w₂)
    (hL : Linked reg w.tree) : Reached reg w cur (A ++ B) m' n' w₂ := by
  have hP := hL.parents_below
  have hP₁ := h₁.linked.parents_below
  -- the first walk added only chains up to `C ++ A`, so the longer ones are missing alike
  have hsame : ∀ c : List String, (w.tree.aliasChain cur ++ A).length < c.length →
      (w₁.tree.HasChain c ↔ w.tree.HasChain c) := by
    intro c hc
    rw [h₁.grown.hasChain_iff hP hP₁ c]
    constructor
    · rintro (h | h)
      · exact h
      · have := (length_of_mem_missingChains h).2
        simp only [List.length_append] at hc
        omega
    · exact Or.inl
  have hgrown₂ := h₂.grown
  rw [h₁.chain, missingChains_congr B hsame] at hgrown₂
  refine ⟨h₂.notes.trans h₁.notes, h₂.linked, ?_, h₂.lt, ?_, h₂.model⟩
  · rw [missingChains_append]
    exact h₁.grown.trans hgrown₂ hP₁ h₂.linked.parents_below
  · rw [h₂.chain, h₁.chain, List.append_assoc]

/-- A segment that names a relation moves to the child under its alias, made when it is
missing; the segment's chain is added exactly when no node had it. -/
theorem resolveStep_ok {segments : List String} {seg : String} (hL : Linked reg w.tree)
    (hc : cur < w.tree.length) (h : (resolveStep reg segments cur seg).run w = (.ok n, w₁)) :
    NamesRelation reg (w.tree.node cur).model seg ∧
      Reached reg w cur [Naming.pascal (Text.trim seg)] (Naming.pascal (segmentTable seg)) n w₁ := by
  rw [resolveStep_run] at h
  rcases htarget : segmentTarget reg w.tree cur (Text.trim seg) with _ | ⟨a, model⟩
  · simp [htarget] at h
  obtain ⟨hnames, ha, hm⟩ := segmentTarget_trim_eq_some.mp htarget
  subst ha hm
  simp only [htarget] at h
  refine ⟨hnames, ?_⟩
  obtain ⟨-, pm, r, hget, hrel, htgt⟩ := hnames
  rcases hchild : w.tree.childByAlias cur (Naming.pascal (Text.trim seg)) with _ | child
  · -- no child has the alias: the walk adds one, and its chain was missing
    simp only [hchild, Prod.mk.injEq, Except.ok.injEq] at h
    obtain ⟨rfl, rfl⟩ := h
    have hfresh := childByAlias_eq_none hchild
    have hmiss : ¬ w.tree.HasChain (w.tree.aliasChain cur ++ [Naming.pascal (Text.trim seg)]) := by
      intro hhas
      obtain ⟨i, hi, hal⟩ := hL.child_of_hasChain hc hhas
      exact hfresh i hi hal
    refine ⟨rfl, hL.addChild hc ⟨pm, r, hget, hrel, htgt⟩ hfresh, ?_, ?_,
      aliasChain_addChild_fresh hL.parents_below hc, ?_⟩
    · rw [missingChains, missingChains, if_neg hmiss, List.append_nil]
      exact Grown.addChild hL.parents_below hc
    · show w.tree.length < (w.tree.addChild _ _ _).1.length
      rw [length_addChild]
      omega
    · show ((w.tree.addChild _ _ _).1.node w.tree.length).model = _
      rw [addChild_node_fresh hc, freshNode_model]
  · -- the child is there: nothing changes, and its model is the relation's target
    simp only [hchild, Prod.mk.injEq, Except.ok.injEq] at h
    obtain ⟨rfl, rfl⟩ := h
    obtain ⟨hmem, hal⟩ := childByAlias_eq_some hchild
    obtain ⟨hc0, hcl, hcp⟩ := (hL.children_listed cur child hc).mp hmem
    have hchain : w.tree.aliasChain child = w.tree.aliasChain cur ++ [Naming.pascal (Text.trim seg)] := by
      rw [aliasChain_of_parent hL.parents_below hc0 hcl hcp, hal]
    refine ⟨rfl, hL, ?_, hcl, hchain, ?_⟩
    · rw [missingChains, missingChains, if_pos ⟨child, hcl, hchain⟩]
      exact Grown.refl w.tree
    · obtain ⟨pm', r', hget', hrel', htgt'⟩ := hL.related child cur hc0 hcl hcp
      rw [hget] at hget'
      cases hget'
      rw [hal, hrel] at hrel'
      cases hrel'
      rw [← htgt', htgt]

/-- A segment that names no relation fails with the whole path and the trimmed segment, and changes
nothing. -/
theorem resolveStep_error {segments : List String} {seg : String} {e : RequestError}
    (h : (resolveStep reg segments cur seg).run w = (.error e, w₁)) :
    ¬ NamesRelation reg (w.tree.node cur).model seg ∧
      e = .unknownPath (String.intercalate "." segments) (Text.trim seg) ∧ w₁ = w := by
  rw [resolveStep_run] at h
  rcases htarget : segmentTarget reg w.tree cur (Text.trim seg) with _ | ⟨a, model⟩
  · simp only [htarget, Prod.mk.injEq, Except.error.injEq] at h
    exact ⟨segmentTarget_trim_eq_none.mp htarget, h.1.symm, h.2.symm⟩
  · rcases hchild : w.tree.childByAlias cur a with _ | child <;> simp [htarget, hchild] at h

/-- A walk that succeeds passed segments that all name relations, and ended at the node of the
chain of `cur` followed by their aliases, having added the prefixes of that chain that were
missing. -/
theorem resolveFrom_ok (segments rest : List String) {cur n : NodeId} {w w' : Workspace}
    (hL : Linked reg w.tree) (hc : cur < w.tree.length)
    (h : (resolveFrom reg segments cur rest).run w = (.ok n, w')) :
    Resolvable reg (w.tree.node cur).model rest ∧
      Reached reg w cur (aliasPath rest) (reachedModel (w.tree.node cur).model rest) n w' := by
  induction rest generalizing cur w with
  | nil =>
    rw [resolveFrom, Build.run_pure, Prod.mk.injEq, Except.ok.injEq] at h
    obtain ⟨rfl, rfl⟩ := h
    exact ⟨trivial, Reached.refl hL hc⟩
  | cons seg rest ih =>
    rw [resolveFrom_cons, Build.run_bind] at h
    rcases hstep : (resolveStep reg segments cur seg).run w with ⟨_ | next, w₁⟩
    · rw [hstep] at h
      cases h
    rw [hstep] at h
    -- the first segment moves to `next`, and the rest walks on from there
    obtain ⟨hnames, hR₁⟩ := resolveStep_ok hL hc hstep
    obtain ⟨hres, hR₂⟩ := ih hR₁.linked hR₁.lt h
    rw [hR₁.model] at hres hR₂
    have hR := hR₁.trans hR₂ hL
    rw [List.singleton_append] at hR
    rw [resolvable_cons, reachedModel_cons, aliasPath_cons]
    exact ⟨⟨hnames, hres⟩, hR⟩

/-- A walk that fails does so at the first segment that names no relation of the model reached,
with the whole path and that segment, after the segments before it did their work. -/
theorem resolveFrom_error (segments rest : List String) {cur : NodeId} {e : RequestError}
    {w w' : Workspace} (hL : Linked reg w.tree) (hc : cur < w.tree.length)
    (h : (resolveFrom reg segments cur rest).run w = (.error e, w')) :
    ∃ i, ∃ hi : i < rest.length, Resolvable reg (w.tree.node cur).model (rest.take i) ∧
      ¬ NamesRelation reg (reachedModel (w.tree.node cur).model (rest.take i)) rest[i] ∧
      e = .unknownPath (String.intercalate "." segments) (Text.trim rest[i]) ∧
      ∃ n, Reached reg w cur (aliasPath (rest.take i))
        (reachedModel (w.tree.node cur).model (rest.take i)) n w' := by
  induction rest generalizing cur w with
  | nil =>
    rw [resolveFrom, Build.run_pure] at h
    cases h
  | cons seg rest ih =>
    rw [resolveFrom_cons, Build.run_bind] at h
    rcases hstep : (resolveStep reg segments cur seg).run w with ⟨e₁ | next, w₁⟩
    · -- the first segment fails
      rw [hstep] at h
      obtain ⟨hnames, he, rfl⟩ := resolveStep_error hstep
      simp only [Prod.mk.injEq, Except.error.injEq] at h
      obtain ⟨rfl, rfl⟩ := h
      refine ⟨0, by simp, ?_⟩
      rw [List.take_zero, reachedModel_nil, List.getElem_cons_zero]
      exact ⟨trivial, hnames, he, cur, Reached.refl hL hc⟩
    · -- a later one fails, after the first moved on
      rw [hstep] at h
      obtain ⟨hnames, hR₁⟩ := resolveStep_ok hL hc hstep
      obtain ⟨i, hi, hres, hnot, he, n, hR₂⟩ := ih hR₁.linked hR₁.lt h
      rw [hR₁.model] at hres hnot hR₂
      have hR := hR₁.trans hR₂ hL
      rw [List.singleton_append] at hR
      refine ⟨i + 1, by simpa using hi, ?_⟩
      rw [List.take_succ_cons, reachedModel_cons, resolvable_cons, List.getElem_cons_succ,
        aliasPath_cons]
      exact ⟨⟨hnames, hres⟩, hnot, he, n, hR⟩

theorem workspace_eq {w w' : Workspace} (ht : w.tree = w'.tree) (hn : w.notes = w'.notes) :
    w = w' := by
  cases w
  cases w'
  simp_all

/-- A walk that succeeded, run again where it ended, finds every node it needs and ends at the
same node. -/
theorem resolveSegments_repeat {w w' : Workspace} {start n : NodeId} {ss : List String}
    (hL : Linked reg w.tree) (hs : start < w.tree.length)
    (h : (resolveSegments reg start ss).run w = (.ok n, w')) :
    (resolveSegments reg start ss).run w' = (.ok n, w') := by
  obtain ⟨hres, hR⟩ := resolveFrom_ok ss ss hL hs h
  have hP' := hR.linked.parents_below
  have hs' : start < w'.tree.length := Nat.lt_of_lt_of_le hs hR.grown.length_le
  have hchain : w'.tree.aliasChain start = w.tree.aliasChain start :=
    hR.grown.aliasChain_old hL.parents_below hP' hs
  rcases h₂ : (resolveSegments reg start ss).run w' with ⟨e | n₂, w₂⟩
  · -- the segments resolve from the same model, so the second walk cannot fail
    obtain ⟨i, hi, -, hnot, -⟩ := resolveFrom_error ss ss hR.linked hs' h₂
    rw [hR.grown.model_old hs] at hnot
    exact absurd (hres.namesRelation_at hi) hnot
  · obtain ⟨-, hR₂⟩ := resolveFrom_ok ss ss hR.linked hs' h₂
    -- every chain along the path is there already, so nothing is added
    have hnil : w'.tree.missingChains (w'.tree.aliasChain start) (aliasPath ss) = [] :=
      missingChains_eq_nil hP' _ ⟨n, hR.lt, by rw [hR.chain, hchain]⟩
    have htree : w₂.tree = w'.tree := by
      have hgrown := hR₂.grown
      rw [hnil] at hgrown
      exact hgrown.eq_of_nil
    have hn : n₂ = n := by
      refine hR.linked.aliasChain_injective (htree ▸ hR₂.lt) hR.lt ?_
      have hsame : w₂.tree.aliasChain n₂ = w'.tree.aliasChain n := by
        rw [hR₂.chain, hchain, hR.chain]
      rwa [htree] at hsame
    rw [hn, workspace_eq htree hR₂.notes]

/-- The empty path stays at the start; any other walks its dot-separated segments. -/
theorem resolve_run (start : NodeId) (dotted : String) (w : Workspace) :
    (resolve reg start dotted).run w =
      if dotted = "" then (.ok start, w) else (resolveSegments reg start (Text.split dotted '.')).run w := by
  unfold resolve
  by_cases hd : dotted = ""
  · subst hd
    rfl
  · have he : dotted.isEmpty = false := String.isEmpty_eq_false_iff.mpr hd
    simp [hd, he]

/-- Walking segments from any node of a linked tree succeeds exactly when every segment names a
relation of the model the segments before it lead to.  A walk that succeeds ends at the node whose
alias chain is the start's followed by the segments' aliases; the tree it leaves is the tree it
started with grown by one node for each prefix of that chain it lacked, in order, the old nodes
only gaining these as children; and walking again from there changes nothing and ends at the same
node.  A walk that fails does so at the first segment that names no relation, reporting the whole
path and that segment, with the joins made for the segments before it kept.  A dotted path walks
its dot-separated segments, and the empty path stays at the start. -/
theorem resolveSegments_walk {w : Workspace} {start : NodeId} (hL : Linked reg w.tree)
    (hs : start < w.tree.length) (ss : List String) :
    ((∃ n w', (resolveSegments reg start ss).run w = (.ok n, w')) ↔
      Resolvable reg (w.tree.node start).model ss) ∧
    (∀ n w', (resolveSegments reg start ss).run w = (.ok n, w') →
      Reached reg w start (aliasPath ss) (reachedModel (w.tree.node start).model ss) n w' ∧
      (resolveSegments reg start ss).run w' = (.ok n, w')) ∧
    (∀ e w', (resolveSegments reg start ss).run w = (.error e, w') →
      ∃ i, ∃ hi : i < ss.length, Resolvable reg (w.tree.node start).model (ss.take i) ∧
        ¬ NamesRelation reg (reachedModel (w.tree.node start).model (ss.take i)) ss[i] ∧
        e = .unknownPath (String.intercalate "." ss) (Text.trim ss[i]) ∧
        ∃ n, Reached reg w start (aliasPath (ss.take i))
          (reachedModel (w.tree.node start).model (ss.take i)) n w') ∧
    ∀ dotted, (resolve reg start dotted).run w =
      if dotted = "" then (.ok start, w) else (resolveSegments reg start (Text.split dotted '.')).run w := by
  refine ⟨⟨?_, fun hres => ?_⟩, fun n w' h => ⟨(resolveFrom_ok ss ss hL hs h).2,
    resolveSegments_repeat hL hs h⟩, fun e w' h => resolveFrom_error ss ss hL hs h,
    fun dotted => resolve_run start dotted w⟩
  · rintro ⟨n, w', h⟩
    exact (resolveFrom_ok ss ss hL hs h).1
  · -- a failure would be at a segment that names no relation, and there is none
    rcases h : (resolveSegments reg start ss).run w with ⟨e | n, w'⟩
    · obtain ⟨i, hi, -, hnot, -⟩ := resolveFrom_error ss ss hL hs h
      exact absurd (hres.namesRelation_at hi) hnot
    · exact ⟨n, w', rfl⟩

theorem linked_new (model : String) : Linked reg (IncludeTree.new model) :=
  (wellFormed_new reg model).linked

/-- The registry of the built-in shop. -/
def shopRegistry : Registry := ⟨ServiceConfig.builtin.models⟩

theorem shop_walk :
    Linked shopRegistry (IncludeTree.new "Customers") ∧ 0 < (IncludeTree.new "Customers").length ∧
    let w : Workspace := { tree := IncludeTree.new "Customers" }
    let ss := ["orders", "line_items"]
    ((∃ n w', (resolveSegments shopRegistry 0 ss).run w = (.ok n, w')) ↔
      Resolvable shopRegistry (w.tree.node 0).model ss) ∧
    (∀ n w', (resolveSegments shopRegistry 0 ss).run w = (.ok n, w') →
      Reached shopRegistry w 0 (aliasPath ss) (reachedModel (w.tree.node 0).model ss) n w' ∧
      (resolveSegments shopRegistry 0 ss).run w' = (.ok n, w')) ∧
    (∀ e w', (resolveSegments shopRegistry 0 ss).run w = (.error e, w') →
      ∃ i, ∃ hi : i < ss.length, Resolvable shopRegistry (w.tree.node 0).model (ss.take i) ∧
        ¬ NamesRelation shopRegistry (reachedModel (w.tree.node 0).model (ss.take i)) ss[i] ∧
        e = .unknownPath (String.intercalate "." ss) (Text.trim ss[i]) ∧
        ∃ n, Reached shopRegistry w 0 (aliasPath (ss.take i))
          (reachedModel (w.tree.node 0).model (ss.take i)) n w') ∧
    ∀ dotted, (resolve shopRegistry 0 dotted).run w =
      if dotted = "" then (.ok 0, w) else (resolveSegments shopRegistry 0 (Text.split dotted '.')).run w :=
  ⟨linked_new "Customers", (wellFormed_new shopRegistry "Customers").length_pos,
    resolveSegments_walk (w := { tree := IncludeTree.new "Customers" }) (linked_new "Customers")
      (wellFormed_new shopRegistry "Customers").length_pos ["orders", "line_items"]⟩

end Request
end RestQuery
