import RestQuery.Sql.Compile
import RestQuery.Proofs.TreeShape
import Mathlib.Data.List.Forall2

/-!
# The shape of compiled statements

Every column of a compiled statement is written with the alias of its
table.  This module collects those aliases (`Expr.qualifiers`,
`Select.qualifiers`) and shows where each comes from: a condition on a path
is written with the alias of that path (`pathAlias`), a join is declared
under the path of its node, and the selected columns of a node are written
with the node's alias (`nodeAlias`).

A compiled condition compares its column with an operand, a bound value or
a list or range of them (`compileCondition_eq_ok`); a compiled filter is
built of compiled conditions, or is the `IN` list that replaced them
(`compileFilter_collect`).  What other modules read off compiled statements
comes from these two.

**Results.**
* `compileCondition_qualifiers`, `compileFilter_qualifiers`: the columns of a
  compiled filter are on the paths of its conditions.
* `base_eq_ok`: the tables, joins and filter shared by both statements.
-/

namespace RestQuery
namespace Sql

open Plan Schema

section Lists

variable {ε α β : Type}

theorem bind_eq_ok {x : Except ε α} {f : α → Except ε β} {b : β} :
    x >>= f = .ok b ↔ ∃ a, x = .ok a ∧ f a = .ok b := by
  cases x with
  | error e => simp [bind, Except.bind]
  | ok a => simp [bind, Except.bind]

/-- A traversal succeeds with `ys` exactly when each element succeeds with the result in its
place. -/
theorem mapM_eq_ok_iff {f : α → Except ε β} :
    ∀ {xs : List α} {ys : List β}, xs.mapM f = .ok ys ↔ List.Forall₂ (fun x y => f x = .ok y) xs ys
  | [], ys => by
      cases ys <;> simp [pure, Except.pure]
  | x :: xs, ys => by
      rw [List.mapM_cons, bind_eq_ok, List.forall₂_cons_left_iff]
      constructor
      · rintro ⟨y, hy, hrest⟩
        rw [bind_eq_ok] at hrest
        obtain ⟨zs, hzs, hys⟩ := hrest
        cases hys
        exact ⟨y, zs, hy, mapM_eq_ok_iff.mp hzs, rfl⟩
      · rintro ⟨y, zs, hy, hzs, rfl⟩
        exact ⟨y, hy, bind_eq_ok.mpr ⟨zs, mapM_eq_ok_iff.mpr hzs, rfl⟩⟩

theorem forall₂_exists_mem_left {R : α → β → Prop} {xs : List α} {ys : List β}
    (h : List.Forall₂ R xs ys) {y : β} (hy : y ∈ ys) : ∃ x ∈ xs, R x y := by
  induction h with
  | nil => cases hy
  | cons hxy _ ih =>
    rcases List.mem_cons.mp hy with rfl | hy'
    · exact ⟨_, List.mem_cons_self, hxy⟩
    · obtain ⟨x, hx, hr⟩ := ih hy'
      exact ⟨x, List.mem_cons_of_mem _ hx, hr⟩

theorem mem_of_mapM_eq_ok {f : α → Except ε β} {xs : List α} {ys : List β}
    (h : xs.mapM f = .ok ys) {y : β} (hy : y ∈ ys) : ∃ x ∈ xs, f x = .ok y :=
  forall₂_exists_mem_left (mapM_eq_ok_iff.mp h) hy

end Lists

mutual

/-- The table aliases that qualify the columns of an expression. -/
def Expr.qualifiers : Expr → List String
  | .column t _ => [t]
  | .tuple items => Expr.listQualifiers items
  | .call _ args => Expr.listQualifiers args
  | .distinct inner => inner.qualifiers
  | .binary l _ r => l.qualifiers ++ r.qualifiers
  | .star | .value _ | .null | .constant _ => []

/-- The table aliases that qualify the columns of a list of expressions. -/
def Expr.listQualifiers : List Expr → List String
  | [] => []
  | e :: rest => e.qualifiers ++ Expr.listQualifiers rest

end

/-- The table aliases a statement's columns are qualified by: those of its items, filter, grouping
and order. -/
def Select.qualifiers (s : Select) : List String :=
  s.items.flatMap (·.expr.qualifiers) ++ (s.filter.map Expr.qualifiers).getD [] ++
    s.groupBy.flatMap Expr.qualifiers ++ s.orderBy.flatMap (·.1.qualifiers)

/-- The alias under which a plan's compiled statements reach the table at a path. -/
def pathAlias (p : QueryPlan) (path : List String) : String :=
  tableAlias p (String.intercalate "." path)

/-- The alias of the table of a node: the model's name for the root, the node's path for a join. -/
def nodeAlias (p : QueryPlan) (i : Nat) : String :=
  tableAlias p (p.tree.node i).path

theorem columnAt_qualifiers (p : QueryPlan) (path : List String) (column : String) :
    (columnAt p path column).qualifiers = [pathAlias p path] := by
  simp [columnAt, pathAlias, Expr.qualifiers]

/-- What a compiled condition compares its column with: `NULL`, a bound value, a list of bound
values, or the two bound ends of a range. -/
inductive Operand : Expr → Prop
  | null : Operand .null
  | value (v : Value) : Operand (.value v)
  | list (items : List Expr) (h : ∀ e ∈ items, ∃ v, e = .value v) : Operand (.tuple items)
  | range (a b : Value) : Operand (.binary (.value a) .and (.value b))

theorem Operand.operands (vs : List String) : Operand (.tuple (vs.map operand)) :=
  .list _ fun e he => by
    obtain ⟨v, -, rfl⟩ := List.mem_map.mp he
    exact ⟨_, rfl⟩

theorem listQualifiers_values :
    ∀ {items : List Expr}, (∀ e ∈ items, ∃ v, e = .value v) → Expr.listQualifiers items = []
  | [], _ => rfl
  | e :: rest, h => by
    obtain ⟨v, rfl⟩ := h e List.mem_cons_self
    rw [Expr.listQualifiers, listQualifiers_values fun e he => h e (List.mem_cons_of_mem _ he)]
    rfl

theorem Operand.qualifiers {e : Expr} (h : Operand e) : e.qualifiers = [] := by
  cases h with
  | null => rfl
  | value v => rfl
  | list items h => rw [Expr.qualifiers, listQualifiers_values h]
  | range a b => rfl

/-- A compiled condition compares the condition's column, lower-cased for a match that ignores
case, with an operand. -/
theorem compileCondition_eq_ok {p : QueryPlan} {c : Condition} {e : Expr}
    (h : compileCondition p c = .ok e) :
    ∃ lhs op rhs, e = .binary lhs op rhs ∧ Operand rhs ∧
      (lhs = columnAt p c.path c.column ∨ lhs = .call "LOWER" [columnAt p c.path c.column]) := by
  unfold compileCondition at h
  dsimp only at h
  -- one case per accepted operator; the truth tests read their value once more
  split at h <;> (try split at h) <;> simp only [Except.ok.injEq, reduceCtorEq] at h <;> subst h <;>
    refine ⟨_, _, _, rfl, ?_, by simp⟩ <;> constructor <;> simp [operand]

/-- A compiled condition is written with its column alone, on the alias of its path. -/
theorem compileCondition_qualifiers {p : QueryPlan} {c : Condition} {e : Expr}
    (h : compileCondition p c = .ok e) : ∀ x ∈ e.qualifiers, x = pathAlias p c.path := by
  obtain ⟨lhs, op, rhs, rfl, hrhs, hlhs⟩ := compileCondition_eq_ok h
  intro x hx
  rcases hlhs with rfl | rfl <;>
    simpa [Expr.qualifiers, Expr.listQualifiers, hrhs.qualifiers, columnAt_qualifiers] using hx

section Collect

variable {γ : Type} (g : Expr → List γ)

/-- A view that collects from both operands of an operation collects, from a chain of one
connective, what each link holds. -/
theorem foldl_bin_collect (hg : ∀ l op r, g (.binary l op r) = g l ++ g r) (op : BinOp) :
    ∀ (es : List Expr) (e : Expr), g (es.foldl (Expr.bin op) e) = g e ++ es.flatMap g
  | [], e => by simp
  | e' :: es, e => by
      rw [List.foldl_cons, foldl_bin_collect hg op es, Expr.bin, hg]
      simp

theorem conjunction_collect (hg : ∀ l op r, g (.binary l op r) = g l ++ g r)
    (hc : g (.constant true) = []) (es : List Expr) :
    g (conjunction es) = es.flatMap g := by
  cases es with
  | nil => simpa [conjunction] using hc
  | cons e rest => simp [conjunction, foldl_bin_collect g hg]

theorem disjunction_collect (hg : ∀ l op r, g (.binary l op r) = g l ++ g r)
    (hc : g (.constant false) = []) (es : List Expr) :
    g (disjunction es) = es.flatMap g := by
  cases es with
  | nil => simpa [disjunction] using hc
  | cons e rest => simp [disjunction, foldl_bin_collect g hg]

end Collect

/-- A group the `IN` rewrite accepts is a single equality with one value. -/
theorem singleEquality_eq_some {g : List Condition} {c : Condition} {v : String}
    (h : singleEquality g = some (c, v)) : g = [c] ∧ normalize c.operator = "eq" ∧ c.value = .one v := by
  unfold singleEquality at h
  split at h
  · split at h
    · rename_i v' hv
      split at h
      · rename_i heq
        cases h
        exact ⟨rfl, by simpa using heq, hv⟩
      · cases h
    · cases h
  · cases h

/-- The `IN` list that replaces a filter holds bound operands only, on the column of one of the
filter's conditions. -/
theorem inList_eq_some {c : Compiler} {p : QueryPlan} {f : FilterTree} {e : Expr}
    {opt : Optimization} (h : c.inList p f = some (e, opt)) :
    ∃ first ∈ f.conditions, ∃ vs : List String,
      e = .binary (columnAt p first.path first.column) .isIn (.tuple (vs.map operand)) := by
  unfold Compiler.inList at h
  split at h
  · cases h
  · split at h
    · rename_i first v rest hgroups
      split at h
      · simp only [Option.some.injEq, Prod.mk.injEq] at h
        obtain ⟨rfl, -⟩ := h
        -- the first group is a single equality, so its condition is among the conditions
        obtain ⟨g, gs, hfg, hg⟩ : ∃ g gs, f.groups = g :: gs ∧ singleEquality g = some (first, v) := by
          cases hf : f.groups with
          | nil => simp [hf] at hgroups
          | cons g gs =>
            rw [hf, List.mapM_cons] at hgroups
            cases hs : singleEquality g with
            | none => simp [hs] at hgroups
            | some y =>
              simp only [hs, Option.bind_eq_bind, Option.bind_some] at hgroups
              cases hm : gs.mapM singleEquality with
              | none => simp [hm] at hgroups
              | some ys =>
                simp only [hm, Option.bind_some, Option.pure_def, Option.some.injEq,
                  List.cons.injEq] at hgroups
                exact ⟨g, gs, rfl, by rw [hs, hgroups.1]⟩
        have hmem : first ∈ f.conditions := by
          simp [FilterTree.conditions, hfg, (singleEquality_eq_some hg).1]
        exact ⟨first, hmem, v :: rest.map (·.2), rfl⟩
      · cases h
    · cases h

/-- What a view that collects from both operands of an operation finds in a compiled filter: it
is the `IN` list that replaced the filter, or what the view finds in one compiled condition. -/
theorem compileFilter_collect {γ : Type} (g : Expr → List γ)
    (hg : ∀ l op r, g (.binary l op r) = g l ++ g r) (ht : g (.constant true) = [])
    (hf : g (.constant false) = []) {c : Compiler} {p : QueryPlan} {f : FilterTree} {e : Expr}
    {opts : List Optimization} (h : c.compileFilter p f = .ok (e, opts)) {x : γ} (hx : x ∈ g e) :
    (∃ first ∈ f.conditions, ∃ vs : List String,
      e = .binary (columnAt p first.path first.column) .isIn (.tuple (vs.map operand))) ∨
    ∃ cond ∈ f.conditions, ∃ ce, compileCondition p cond = .ok ce ∧ x ∈ g ce := by
  unfold Compiler.compileFilter at h
  split at h
  · rename_i e' opt hin
    simp only [Except.ok.injEq, Prod.mk.injEq] at h
    obtain ⟨rfl, -⟩ := h
    exact .inl (inList_eq_some hin)
  · obtain ⟨groups, hgroups, he⟩ := bind_eq_ok.mp h
    simp only [pure, Except.pure, Except.ok.injEq, Prod.mk.injEq] at he
    obtain ⟨rfl, -⟩ := he
    -- the disjunction of conjunctions holds what its compiled conditions hold
    rw [disjunction_collect g hg hf, List.mem_flatMap] at hx
    obtain ⟨_, hconj, hx⟩ := hx
    obtain ⟨compiled, hcompiled, rfl⟩ := List.mem_map.mp hconj
    rw [conjunction_collect g hg ht, List.mem_flatMap] at hx
    obtain ⟨ce, hce, hx⟩ := hx
    obtain ⟨grp, hgrp, hgc⟩ := mem_of_mapM_eq_ok hgroups hcompiled
    obtain ⟨cond, hcond, hce'⟩ := mem_of_mapM_eq_ok hgc hce
    exact .inr ⟨cond, List.mem_flatten.mpr ⟨grp, hgrp, hcond⟩, ce, hce', hx⟩

/-- The columns of a compiled filter are on the paths of its conditions. -/
theorem compileFilter_qualifiers {c : Compiler} {p : QueryPlan} {f : FilterTree} {e : Expr}
    {opts : List Optimization} (h : c.compileFilter p f = .ok (e, opts)) :
    ∀ x ∈ e.qualifiers, ∃ cond ∈ f.conditions, x = pathAlias p cond.path := by
  intro x hx
  rcases compileFilter_collect Expr.qualifiers (fun _ _ _ => by simp [Expr.qualifiers]) rfl rfl h hx
    with ⟨first, hfirst, vs, rfl⟩ | ⟨cond, hcond, ce, hce, hx⟩
  · -- the `IN` list is on the column of its first condition
    rw [Expr.qualifiers, columnAt_qualifiers, (Operand.operands vs).qualifiers, List.append_nil,
      List.mem_singleton] at hx
    exact ⟨first, hfirst, hx⟩
  · exact ⟨cond, hcond, compileCondition_qualifiers hce x hx⟩

theorem model_eq_ok {c : Compiler} {name : String} {m : Model} :
    c.model name = .ok m ↔ c.registry.get name = some m := by
  unfold Compiler.model
  split <;> simp_all

/-- The join a compiler makes for a node: the target's table under the node's path, on a key of
the parent's alias and a key of its own. -/
def JoinOf (c : Compiler) (p : QueryPlan) (n : JoinNode) (j : Join) : Prop :=
  j.aliasName = n.path ∧ (∃ m, c.model n.model = .ok m ∧ j.table = m.table) ∧
    ∃ r, c.joinRelation p n = .ok r ∧
      j.condition = .binary (.column (tableAlias p (Compiler.parentOf p n).path) (some r.sourceKey)) .eq
        (.column n.path (some r.targetKey))

/-- The tables, joins and filter that both statements of a plan share. -/
theorem base_eq_ok {c : Compiler} {p : QueryPlan} {s : Select} {opts : List Optimization}
    (h : c.base p = .ok (s, opts)) :
    (∃ root, c.registry.get p.model = some root ∧ s.table = root.table) ∧ s.aliasName = p.model ∧
    s.items = [] ∧ s.groupBy = [] ∧ s.orderBy = [] ∧ s.limit = none ∧ s.offset = none ∧
    List.Forall₂ (fun x j => JoinOf c p x.2 j) p.tree.joins s.joins ∧
    ∀ e ∈ s.filter, ∃ f ∈ p.filter, ∃ o, c.compileFilter p f = .ok (e, o) := by
  unfold Compiler.base at h
  obtain ⟨root, hroot, h⟩ := bind_eq_ok.mp h
  obtain ⟨joins, hjoins, h⟩ := bind_eq_ok.mp h
  dsimp only at h
  -- the filter is compiled when there is one
  obtain ⟨filter, hfilter, rfl⟩ : ∃ filter : Option Expr,
      (∀ e ∈ filter, ∃ f ∈ p.filter, ∃ o, c.compileFilter p f = .ok (e, o)) ∧
      s = { table := root.table, aliasName := p.model, joins, filter } := by
    split at h
    · rename_i f hf
      obtain ⟨⟨e, o⟩, hc, h⟩ := bind_eq_ok.mp h
      simp only [pure, Except.pure, bind, Except.bind, Except.ok.injEq, Prod.mk.injEq] at h
      refine ⟨some e, ?_, h.1.symm⟩
      rintro e' he'
      cases he'
      exact ⟨f, hf, o, hc⟩
    · simp only [pure, Except.pure, bind, Except.bind, Except.ok.injEq, Prod.mk.injEq] at h
      exact ⟨none, by simp, h.1.symm⟩
  refine ⟨⟨root, model_eq_ok.mp hroot, rfl⟩, rfl, rfl, rfl, rfl, rfl, rfl, ?_, hfilter⟩
  -- each node's join, from the relation it was made along
  refine (mapM_eq_ok_iff.mp hjoins).imp fun x j hj => ?_
  obtain ⟨i, n⟩ := x
  obtain ⟨r, hr, hj⟩ := bind_eq_ok.mp hj
  obtain ⟨target, htarget, hj⟩ := bind_eq_ok.mp hj
  simp only [pure, Except.pure, Except.ok.injEq] at hj
  subst hj
  exact ⟨rfl, ⟨target, htarget, rfl⟩, r, hr, rfl⟩

theorem mem_joins {t : IncludeTree} {i : Nat} {n : JoinNode} :
    (i, n) ∈ t.joins ↔ 0 < i ∧ i < t.length ∧ n = t.node i := by
  rw [IncludeTree.joins_eq]
  simp only [List.mem_map, List.mem_range'_1, Prod.mk.injEq]
  constructor
  · rintro ⟨j, ⟨hj1, hj2⟩, rfl, rfl⟩
    exact ⟨hj1, by omega, rfl⟩
  · rintro ⟨hi, hl, rfl⟩
    exact ⟨i, ⟨hi, by omega⟩, rfl, rfl⟩

/-- Each selected column of the nodes is a column of one node's table, or all of them. -/
theorem nodeItems_expr {p : QueryPlan} (hp : 0 < p.tree.length) {it : Item}
    (hit : it ∈ Compiler.nodeItems p) : ∃ i < p.tree.length, ∃ col, it.expr = .column (nodeAlias p i) col := by
  unfold Compiler.nodeItems at hit
  obtain ⟨⟨id, n⟩, hmem, hit⟩ := List.mem_flatMap.mp hit
  have hnode : id < p.tree.length ∧ n = p.tree.node id := by
    rcases List.mem_cons.mp hmem with h0 | hj
    · simp only [Prod.mk.injEq] at h0
      obtain ⟨rfl, rfl⟩ := h0
      exact ⟨hp, rfl⟩
    · obtain ⟨-, hl, rfl⟩ := mem_joins.mp hj
      exact ⟨hl, rfl⟩
  obtain ⟨hl, rfl⟩ := hnode
  refine ⟨id, hl, ?_⟩
  -- the asked columns of the node, or all of them
  dsimp only at hit
  split at hit
  · obtain ⟨col, -, rfl⟩ := List.mem_map.mp hit
    split <;> exact ⟨some col, rfl⟩
  · split at hit
    · cases hit
    · rw [List.mem_singleton] at hit
      exact ⟨none, by rw [hit]; rfl⟩

/-- The selected columns of each node are written with the node's alias. -/
theorem nodeItems_qualifiers {p : QueryPlan} (hp : 0 < p.tree.length) :
    ∀ it ∈ Compiler.nodeItems p, ∀ x ∈ it.expr.qualifiers, ∃ i < p.tree.length, x = nodeAlias p i := by
  intro it hit x hx
  obtain ⟨i, hi, col, hcol⟩ := nodeItems_expr hp hit
  rw [hcol, Expr.qualifiers, List.mem_singleton] at hx
  exact ⟨i, hi, hx⟩

theorem aggregateExpr_qualifiers (p : QueryPlan) (a : Aggregate) :
    (Compiler.aggregateExpr p a).qualifiers = [pathAlias p a.sourcePath] := by
  unfold Compiler.aggregateExpr
  split <;> split <;> simp [Expr.qualifiers, Expr.listQualifiers, pathAlias]

/-- The main statement is the shared one with the selected columns, grouping, order and window
of the plan. -/
theorem selectStatement_eq_ok {c : Compiler} {p : QueryPlan} {s : Select} {opts : List Optimization}
    (h : c.selectStatement p = .ok (s, opts)) :
    ∃ b, c.base p = .ok (b, opts) ∧ s.table = b.table ∧ s.aliasName = b.aliasName ∧
      s.joins = b.joins ∧ s.filter = b.filter ∧
      s.items = Compiler.nodeItems p ++
        (p.aggregate.map fun a => ({ expr := Compiler.aggregateExpr p a, aliasName := some a.aliasName } : Item)).toList ++
        (p.group.map fun g => ({ expr := columnAt p g.path g.column, aliasName := some (g.qualified p.model) } : Item)).toList ∧
      s.groupBy = (p.group.map fun g => columnAt p g.path g.column).toList ∧
      s.orderBy = p.order.map fun e =>
        (columnAt p e.path e.column, match e.direction with | .asc => Order.asc | .desc => Order.desc) := by
  unfold Compiler.selectStatement at h
  obtain ⟨⟨b, o⟩, hb, h⟩ := bind_eq_ok.mp h
  simp only [pure, Except.pure, Except.ok.injEq, Prod.mk.injEq] at h
  obtain ⟨rfl, rfl⟩ := h
  refine ⟨b, hb, rfl, rfl, rfl, rfl, ?_, ?_, rfl⟩
  · cases p.aggregate <;> cases p.group <;> rfl
  · cases p.group <;> rfl

/-- The count statement is the shared one with a single counting item, on the root alias or on
no column at all. -/
theorem countStatement_eq_ok {c : Compiler} {p : QueryPlan} {s : Select}
    (h : c.countStatement p = .ok s) :
    ∃ b opts, c.base p = .ok (b, opts) ∧ s.table = b.table ∧ s.aliasName = b.aliasName ∧
      s.joins = b.joins ∧ s.filter = b.filter ∧ s.groupBy = [] ∧ s.orderBy = [] ∧
      ∃ counted : Expr, s.items = [{ expr := .call "COUNT" [counted], aliasName := some "count" }] ∧
        (counted = .star ∨ ∃ pk, counted = .distinct (.column p.model (some pk))) := by
  unfold Compiler.countStatement at h
  obtain ⟨⟨b, o⟩, hb, h⟩ := bind_eq_ok.mp h
  obtain ⟨root, _, h⟩ := bind_eq_ok.mp h
  obtain ⟨fansOut, _, h⟩ := bind_eq_ok.mp h
  simp only [pure, Except.pure, Except.ok.injEq] at h
  subst h
  have hb' := (base_eq_ok hb).2.2
  refine ⟨b, o, hb, rfl, rfl, rfl, rfl, hb'.2.1, hb'.2.2.1, _, rfl, ?_⟩
  -- the counted expression is the root's key or a star
  split
  · split
    · exact .inr ⟨_, rfl⟩
    · exact .inl rfl
  · exact .inl rfl

/-- A compiled plan is its main statement, and the count statement when the plan asks for one. -/
theorem compile_eq_ok {c : Compiler} {p : QueryPlan} {out : Compiled} (h : c.compile p = .ok out) :
    c.selectStatement p = .ok (out.select, out.optimizations) ∧
      ∀ s ∈ out.count, c.countStatement p = .ok s := by
  unfold Compiler.compile at h
  obtain ⟨⟨select, opts⟩, hs, h⟩ := bind_eq_ok.mp h
  dsimp only at h
  split at h
  · obtain ⟨count, hc, h⟩ := bind_eq_ok.mp h
    simp only [pure, Except.pure, Except.ok.injEq] at h
    subst h
    refine ⟨hs, fun s hmem => ?_⟩
    cases hcount : c.countStatement p with
    | error e => simp [hcount, Functor.map, Except.map] at hc
    | ok s' =>
      simp only [hcount, Functor.map, Except.map, Except.ok.injEq] at hc
      subst hc
      cases hmem
      rfl
  · simp only [pure, Except.pure, bind, Except.bind, Except.ok.injEq] at h
    subst h
    exact ⟨hs, fun s hmem => by cases hmem⟩

end Sql
end RestQuery
