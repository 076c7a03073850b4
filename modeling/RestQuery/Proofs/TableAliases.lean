import RestQuery.Proofs.CompiledShape
import RestQuery.Proofs.Translation

/-!
# Table aliases of compiled statements

A statement compiled from a translated plan declares one alias per node of
the include tree: the root table under the model's name, then one join per
other node, in node order, under the node's path.  Because the tree is well
formed, every join's parent comes before it, so the join condition names an
alias already declared; and because every path the plan names is the chain
of a node, the alias a column on a path is written with is the alias of that
node.  So no column of a compiled statement refers to an undeclared table.

**Results.**
* `base_joins`: the joins of a statement, node by node.
* `pathAlias_of_hasChain`: the alias of a path is the alias of its node.
* `compile_tableAliases`: the aliases of every statement compiled from a
  translated request.
-/

namespace RestQuery
namespace Sql

open Plan Schema IncludeTree Request

variable {reg : Registry} {c : Compiler} {P : QueryPlan}

/-- The alias of a path a plan names is that of the node whose alias chain it is. -/
def AliasOfNode (P : QueryPlan) (q : List String) : Prop :=
  ∃ i < P.tree.length, P.tree.aliasChain i = q ∧ pathAlias P q = nodeAlias P i

theorem nodeAlias_root (hwf : P.tree.WellFormed reg P.model) : nodeAlias P 0 = P.model := by
  simp [nodeAlias, tableAlias, hwf.root_path]

theorem nodeAlias_of_pos (hwf : P.tree.WellFormed reg P.model) {i : Nat} (hi : 0 < i)
    (hl : i < P.tree.length) : nodeAlias P i = (P.tree.node i).path := by
  simp [nodeAlias, tableAlias, hwf.path_ne_empty hi hl]

theorem pathAlias_of_hasChain (hwf : P.tree.WellFormed reg P.model) {q : List String}
    (hq : P.tree.HasChain q) : AliasOfNode P q := by
  obtain ⟨i, hi, rfl⟩ := hq
  refine ⟨i, hi, rfl, ?_⟩
  rw [pathAlias, nodeAlias, hwf.path_eq_intercalate hi]

/-- The `k`-th join of the shared statement is made for node `k + 1`. -/
theorem base_joinOf {b : Select} {opts : List Optimization} (hb : c.base P = .ok (b, opts))
    (k : Nat) (hk : k < b.joins.length) : JoinOf c P (P.tree.node (k + 1)) b.joins[k] := by
  obtain ⟨-, -, -, -, -, -, -, hjoins, -⟩ := base_eq_ok hb
  rw [IncludeTree.joins_eq] at hjoins
  have hlen := hjoins.length_eq
  simp only [List.length_map, List.length_range'] at hlen
  have := (List.forall₂_iff_get.mp hjoins).2 k (by simp; omega) hk
  simpa [Nat.add_comm] using this

/-- The joins of the shared statement are the nodes after the root, in order, each under its
path and on a column of its parent, which comes before it. -/
theorem base_joins (hwf : P.tree.WellFormed reg P.model) {b : Select} {opts : List Optimization}
    (hb : c.base P = .ok (b, opts)) :
    b.joins.length + 1 = P.tree.length ∧
    ∀ k (hk : k < b.joins.length), b.joins[k].aliasName = nodeAlias P (k + 1) ∧
      (∃ m, c.registry.get (P.tree.node (k + 1)).model = some m ∧ b.joins[k].table = m.table) ∧
      ∃ q sk tk, q ≤ k ∧ (P.tree.node (k + 1)).parent = some q ∧
        b.joins[k].condition = .binary (.column (nodeAlias P q) (some sk)) .eq
          (.column (nodeAlias P (k + 1)) (some tk)) := by
  obtain ⟨-, -, -, -, -, -, -, hjoins, -⟩ := base_eq_ok hb
  rw [IncludeTree.joins_eq] at hjoins
  have hlen := hjoins.length_eq
  simp only [List.length_map, List.length_range'] at hlen
  refine ⟨by have := hwf.length_pos; omega, fun k hk => ?_⟩
  have hkl : k + 1 < P.tree.length := by omega
  obtain ⟨halias, ⟨m, hm, htable⟩, r, -, hcond⟩ := base_joinOf hb k hk
  have hpath := nodeAlias_of_pos hwf (Nat.succ_pos k) hkl
  -- the parent of a join is an earlier node, and the condition is written on its alias
  obtain ⟨q, hq, hqk⟩ := hwf.parents_below (k + 1) (Nat.succ_pos k) hkl
  refine ⟨by rw [halias, hpath], ⟨m, model_eq_ok.mp hm, htable⟩, q, r.sourceKey, r.targetKey,
    by omega, hq, ?_⟩
  rw [hcond, hpath]
  simp [Compiler.parentOf, hq, nodeAlias]

/-- The columns of the shared filter are on the paths of the plan's conditions. -/
theorem base_filter_qualifiers {b : Select} {opts : List Optimization}
    (hb : c.base P = .ok (b, opts)) :
    ∀ x ∈ (b.filter.map Expr.qualifiers).getD [],
      ∃ f ∈ P.filter, ∃ cond ∈ f.conditions, x = pathAlias P cond.path := by
  obtain ⟨-, -, -, -, -, -, -, -, hfilter⟩ := base_eq_ok hb
  intro x hx
  cases hbf : b.filter with
  | none => simp [hbf] at hx
  | some e =>
    rw [hbf] at hx
    obtain ⟨f, hf, o, hcomp⟩ := hfilter e hbf
    obtain ⟨cond, hcond, rfl⟩ := compileFilter_qualifiers hcomp x hx
    exact ⟨f, hf, cond, hcond, rfl⟩

/-- A node's alias is declared by a statement with the joins of `base_joins`: the root's as the
statement's own alias, any other node's by the join of that node; a node up to `k` is declared
before the join of node `k + 1`. -/
theorem nodeAlias_declared (hwf : P.tree.WellFormed reg P.model) {s : Select}
    (hroot : s.aliasName = P.model) (hlen : s.joins.length + 1 = P.tree.length)
    (halias : ∀ k (hk : k < s.joins.length), s.joins[k].aliasName = nodeAlias P (k + 1))
    {i k : Nat} (hik : i ≤ k) (hk : k ≤ s.joins.length) :
    nodeAlias P i = s.aliasName ∨ nodeAlias P i ∈ (s.joins.take k).map (·.aliasName) := by
  rcases Nat.eq_zero_or_pos i with rfl | hi
  · exact Or.inl (by rw [nodeAlias_root hwf, hroot])
  · right
    obtain ⟨j, rfl⟩ : ∃ j, i = j + 1 := ⟨i - 1, by omega⟩
    have hj : j < s.joins.length := by omega
    rw [← halias j hj, List.mem_map]
    exact ⟨s.joins[j], List.mem_iff_getElem.mpr ⟨j, by simp; omega, by simp⟩, rfl⟩

theorem qualifiers_declared (hT : Translated reg P) {s : Select} (hroot : s.aliasName = P.model)
    (hlen : s.joins.length + 1 = P.tree.length)
    (halias : ∀ k (hk : k < s.joins.length), s.joins[k].aliasName = nodeAlias P (k + 1))
    (hq : ∀ x ∈ s.qualifiers, ∃ i < P.tree.length, x = nodeAlias P i) :
    ∀ x ∈ s.qualifiers, x = s.aliasName ∨ x ∈ s.joins.map (·.aliasName) := by
  intro x hx
  obtain ⟨i, hi, rfl⟩ := hq x hx
  have h := nodeAlias_declared hT.wellFormed hroot hlen halias (show i ≤ s.joins.length by omega) le_rfl
  rwa [List.take_length] at h

/-- Every column of the main statement is qualified by the alias of a node. -/
theorem select_qualifiers (hT : Translated reg P) {s : Select} {opts : List Optimization}
    (hs : c.selectStatement P = .ok (s, opts)) :
    ∀ x ∈ s.qualifiers, ∃ i < P.tree.length, x = nodeAlias P i := by
  obtain ⟨b, hb, -, -, -, hfilter, hitems, hgroup, horder⟩ := selectStatement_eq_ok hs
  have hwf := hT.wellFormed
  have hpath : ∀ q, P.tree.HasChain q → ∃ i < P.tree.length, pathAlias P q = nodeAlias P i := by
    intro q hq
    obtain ⟨i, hi, -, he⟩ := pathAlias_of_hasChain hwf hq
    exact ⟨i, hi, he⟩
  intro x hx
  simp only [Select.qualifiers, List.mem_append, List.mem_flatMap] at hx
  rcases hx with ((⟨it, hit, hx⟩ | hx) | ⟨e, he, hx⟩) | ⟨o, ho, hx⟩
  · rw [hitems] at hit
    simp only [List.mem_append] at hit
    rcases hit with (hit | hit) | hit
    · exact nodeItems_qualifiers hwf.length_pos it hit x hx
    · -- the aggregate is written on the alias of its source path
      obtain ⟨a, ha, rfl⟩ := Option.map_eq_some_iff.mp (Option.mem_toList.mp hit)
      rw [aggregateExpr_qualifiers, List.mem_singleton] at hx
      rw [hx]
      exact hpath _ (hT.source_path a ha)
    · obtain ⟨g, hg, rfl⟩ := Option.map_eq_some_iff.mp (Option.mem_toList.mp hit)
      rw [columnAt_qualifiers, List.mem_singleton] at hx
      rw [hx]
      exact hpath _ (hT.group_path g hg)
  · rw [hfilter] at hx
    obtain ⟨f, hf, cond, hcond, rfl⟩ := base_filter_qualifiers hb x hx
    exact hpath _ (hT.condition_paths f hf cond hcond)
  · rw [hgroup] at he
    obtain ⟨g, hg, rfl⟩ := Option.map_eq_some_iff.mp (Option.mem_toList.mp he)
    rw [columnAt_qualifiers, List.mem_singleton] at hx
    rw [hx]
    exact hpath _ (hT.group_path g hg)
  · rw [horder, List.mem_map] at ho
    obtain ⟨e, he, rfl⟩ := ho
    rw [columnAt_qualifiers, List.mem_singleton] at hx
    rw [hx]
    exact hpath _ (hT.order_paths e he)

/-- Every column of the count statement is qualified by the alias of a node. -/
theorem count_qualifiers (hT : Translated reg P) {s : Select} (hs : c.countStatement P = .ok s) :
    ∀ x ∈ s.qualifiers, ∃ i < P.tree.length, x = nodeAlias P i := by
  obtain ⟨b, opts, hb, -, -, -, hfilter, hgroup, horder, counted, hitems, hcounted⟩ :=
    countStatement_eq_ok hs
  have hwf := hT.wellFormed
  intro x hx
  simp only [Select.qualifiers, hitems, hgroup, horder, List.mem_append, List.mem_flatMap,
    List.mem_singleton, List.not_mem_nil, List.flatMap_nil, exists_eq_left, or_false] at hx
  rcases hx with hx | hx
  · -- the count is over the root's key or over no column
    have hroot : x = P.model := by
      rcases hcounted with rfl | ⟨pk, rfl⟩ <;> simp_all [Expr.qualifiers, Expr.listQualifiers]
    exact ⟨0, hwf.length_pos, by rw [hroot, nodeAlias_root hwf]⟩
  · rw [hfilter] at hx
    obtain ⟨f, hf, cond, hcond, rfl⟩ := base_filter_qualifiers hb x hx
    obtain ⟨i, hi, -, he⟩ := pathAlias_of_hasChain hwf (hT.condition_paths f hf cond hcond)
    exact ⟨i, hi, he⟩

/-- What a statement that shares the tables of `base` declares: the root under the model's name,
one join per other node under the node's path, each on a column of its parent's alias, declared
before it; every column on one of these aliases, and the filter's on the aliases of the paths of
its conditions. -/
theorem statement_aliases (hT : Translated reg P) {b s : Select} {opts : List Optimization}
    (hb : c.base P = .ok (b, opts)) (htable : s.table = b.table) (hname : s.aliasName = b.aliasName)
    (hjoins : s.joins = b.joins) (hfilter : s.filter = b.filter)
    (hq : ∀ x ∈ s.qualifiers, ∃ i < P.tree.length, x = nodeAlias P i) :
    (∃ m, c.registry.get P.model = some m ∧ s.table = m.table) ∧
    s.aliasName = P.model ∧ s.joins.length + 1 = P.tree.length ∧
    (∀ k (hk : k < s.joins.length), s.joins[k].aliasName = (P.tree.node (k + 1)).path ∧
      (∃ m, c.registry.get (P.tree.node (k + 1)).model = some m ∧ s.joins[k].table = m.table) ∧
      ∃ q a sk tk, (P.tree.node (k + 1)).parent = some q ∧ a = nodeAlias P q ∧
        (a = s.aliasName ∨ a ∈ (s.joins.take k).map (·.aliasName)) ∧
        s.joins[k].condition = .binary (.column a (some sk)) .eq (.column s.joins[k].aliasName (some tk))) ∧
    (∀ x ∈ s.qualifiers, x = s.aliasName ∨ x ∈ s.joins.map (·.aliasName)) ∧
    ∀ x ∈ (s.filter.map Expr.qualifiers).getD [], ∃ f ∈ P.filter, ∃ cond ∈ f.conditions,
      x = pathAlias P cond.path ∧ AliasOfNode P cond.path := by
  have hwf := hT.wellFormed
  have hroot : s.aliasName = P.model := by
    rw [hname]
    exact (base_eq_ok hb).2.1
  obtain ⟨hlen, hjoin⟩ := base_joins hwf hb
  rw [← hjoins] at hlen hjoin
  have halias : ∀ k (hk : k < s.joins.length), s.joins[k].aliasName = nodeAlias P (k + 1) :=
    fun k hk => (hjoin k hk).1
  obtain ⟨m, hm, hbt⟩ := (base_eq_ok hb).1
  refine ⟨⟨m, hm, by rw [htable, hbt]⟩, hroot, hlen, fun k hk => ?_,
    qualifiers_declared hT hroot hlen halias hq, ?_⟩
  · obtain ⟨hak, hjt, q, sk, tk, hqk, hparent, hcond⟩ := hjoin k hk
    refine ⟨?_, hjt, q, nodeAlias P q, sk, tk, hparent, rfl,
      nodeAlias_declared hwf hroot hlen halias hqk (by omega), by rw [hcond, hak]⟩
    rw [hak, nodeAlias_of_pos hwf (Nat.succ_pos k) (by omega)]
  · intro x hx
    rw [hfilter] at hx
    obtain ⟨f, hf, cond, hcond, rfl⟩ := base_filter_qualifiers hb x hx
    exact ⟨f, hf, cond, hcond, rfl, pathAlias_of_hasChain hwf (hT.condition_paths f hf cond hcond)⟩

/-- The statements compiled from a translated request declare the root table under the model's
name and one join per other node, under the node's path and in node order, each joined on a
column of its parent's alias, which is declared before it; every column they use is qualified by
one of these aliases, and a column reached through a path — a condition's, an order entry's, the
group's, the aggregate's source — by the alias of the node whose alias chain is that path. -/
theorem compile_tableAliases {tr : Translator} {route : String} {p : Params} {r : PlannedRequest}
    (h : (tr.translate route p).1 = .ok r) (c : Compiler) {out : Compiled}
    (hc : c.compile r.plan = .ok out) :
    (∀ s ∈ out.select :: out.count.toList,
      (∃ m, c.registry.get r.plan.model = some m ∧ s.table = m.table) ∧
      s.aliasName = r.plan.model ∧ s.joins.length + 1 = r.plan.tree.length ∧
      (∀ k (hk : k < s.joins.length), s.joins[k].aliasName = (r.plan.tree.node (k + 1)).path ∧
        (∃ m, c.registry.get (r.plan.tree.node (k + 1)).model = some m ∧ s.joins[k].table = m.table) ∧
        ∃ q a sk tk, (r.plan.tree.node (k + 1)).parent = some q ∧ a = nodeAlias r.plan q ∧
          (a = s.aliasName ∨ a ∈ (s.joins.take k).map (·.aliasName)) ∧
          s.joins[k].condition = .binary (.column a (some sk)) .eq (.column s.joins[k].aliasName (some tk))) ∧
      (∀ x ∈ s.qualifiers, x = s.aliasName ∨ x ∈ s.joins.map (·.aliasName)) ∧
      ∀ x ∈ (s.filter.map Expr.qualifiers).getD [], ∃ f ∈ r.plan.filter, ∃ cond ∈ f.conditions,
        x = pathAlias r.plan cond.path ∧ AliasOfNode r.plan cond.path) ∧
    List.Forall₂ (fun e o => o.1 = .column (pathAlias r.plan e.path) (some e.column) ∧
      AliasOfNode r.plan e.path) r.plan.order out.select.orderBy ∧
    (∀ g ∈ r.plan.group, out.select.groupBy = [.column (pathAlias r.plan g.path) (some g.column)] ∧
      AliasOfNode r.plan g.path) ∧
    ∀ a ∈ r.plan.aggregate, ∃ it ∈ out.select.items, it.aliasName = some a.aliasName ∧
      it.expr.qualifiers = [pathAlias r.plan a.sourcePath] ∧ AliasOfNode r.plan a.sourcePath := by
  have hT := translate_translated h
  have hwf := hT.wellFormed
  obtain ⟨hsel, hcount⟩ := compile_eq_ok hc
  obtain ⟨b, hb, htable, hname, hjoins, hfilter, hitems, hgroup, horder⟩ := selectStatement_eq_ok hsel
  refine ⟨fun s hs => ?_, ?_, fun g hg => ?_, fun a ha => ?_⟩
  · rcases List.mem_cons.mp hs with rfl | hs
    · exact statement_aliases hT hb htable hname hjoins hfilter (select_qualifiers hT hsel)
    · have hs' := hcount s (Option.mem_toList.mp hs)
      obtain ⟨b', opts', hb', htable', hname', hjoins', hfilter', -⟩ := countStatement_eq_ok hs'
      exact statement_aliases hT hb' htable' hname' hjoins' hfilter' (count_qualifiers hT hs')
  · -- each order entry, in order, on the alias of its path
    rw [horder, List.forall₂_map_right_iff]
    refine List.forall₂_same.mpr fun e he => ⟨rfl, pathAlias_of_hasChain hwf (hT.order_paths e he)⟩
  · rw [hgroup, hg]
    exact ⟨rfl, pathAlias_of_hasChain hwf (hT.group_path g hg)⟩
  · refine ⟨{ expr := Compiler.aggregateExpr r.plan a, aliasName := some a.aliasName }, ?_, rfl,
      aggregateExpr_qualifiers _ _, pathAlias_of_hasChain hwf (hT.source_path a ha)⟩
    rw [hitems, ha]
    simp

/-- The compiler of the built-in shop, for PostgreSQL. -/
def shopCompiler : Compiler := { registry := shop.registry, dialect := .postgres }

/-- A translation that succeeds, compiled with success into statements that pass a check: what
evaluating the check of the results to `some true` shows, so that a fixed request is settled by
`decide`. -/
theorem exists_compiled {x : Except RequestError PlannedRequest} {c : Compiler}
    {check : PlannedRequest → Compiled → Bool}
    (h : (x.toOption.bind fun r => (c.compile r.plan).toOption.map (check r)) = some true) :
    ∃ r out, x = .ok r ∧ c.compile r.plan = .ok out ∧ check r out = true := by
  cases x with
  | error e => cases h
  | ok r =>
    cases hc : c.compile r.plan with
    | error e =>
      simp [Except.toOption, hc] at h
    | ok out =>
      simp only [Except.toOption, hc, Option.bind_some, Option.map_some, Option.some.injEq] at h
      exact ⟨r, out, rfl, hc, h⟩

theorem shop_tableAliases :
    ∃ r out, (shop.translate "customers" { includes := some "orders", order := some "orders.id,DESC" }).1 =
      .ok r ∧ shopCompiler.compile r.plan = .ok out ∧
      (∀ s ∈ out.select :: out.count.toList,
        (∃ m, shopCompiler.registry.get r.plan.model = some m ∧ s.table = m.table) ∧
        s.aliasName = r.plan.model ∧ s.joins.length + 1 = r.plan.tree.length ∧
        (∀ k (hk : k < s.joins.length), s.joins[k].aliasName = (r.plan.tree.node (k + 1)).path ∧
          (∃ m, shopCompiler.registry.get (r.plan.tree.node (k + 1)).model = some m ∧ s.joins[k].table = m.table) ∧
          ∃ q a sk tk, (r.plan.tree.node (k + 1)).parent = some q ∧ a = nodeAlias r.plan q ∧
            (a = s.aliasName ∨ a ∈ (s.joins.take k).map (·.aliasName)) ∧
            s.joins[k].condition = .binary (.column a (some sk)) .eq (.column s.joins[k].aliasName (some tk))) ∧
        (∀ x ∈ s.qualifiers, x = s.aliasName ∨ x ∈ s.joins.map (·.aliasName)) ∧
        ∀ x ∈ (s.filter.map Expr.qualifiers).getD [], ∃ f ∈ r.plan.filter, ∃ cond ∈ f.conditions,
          x = pathAlias r.plan cond.path ∧ AliasOfNode r.plan cond.path) ∧
      List.Forall₂ (fun e o => o.1 = .column (pathAlias r.plan e.path) (some e.column) ∧
        AliasOfNode r.plan e.path) r.plan.order out.select.orderBy ∧
      (∀ g ∈ r.plan.group, out.select.groupBy = [.column (pathAlias r.plan g.path) (some g.column)] ∧
        AliasOfNode r.plan g.path) ∧
      ∀ a ∈ r.plan.aggregate, ∃ it ∈ out.select.items, it.aliasName = some a.aliasName ∧
        it.expr.qualifiers = [pathAlias r.plan a.sourcePath] ∧ AliasOfNode r.plan a.sourcePath := by
  have hok : (match (shop.translate "customers" { includes := some "orders", order := some "orders.id,DESC" }).1 with
      | .ok r => (shopCompiler.compile r.plan).isOk
      | .error _ => false) = true := by
    decide +kernel
  cases hres : (shop.translate "customers" { includes := some "orders", order := some "orders.id,DESC" }).1 with
  | error e =>
    rw [hres] at hok
    cases hok
  | ok r =>
    rw [hres] at hok
    dsimp only at hok
    cases hcomp : shopCompiler.compile r.plan with
    | error e =>
      rw [hcomp] at hok
      cases hok
    | ok out => exact ⟨r, out, rfl, hcomp, compile_tableAliases hres shopCompiler hcomp⟩

end Sql
end RestQuery
