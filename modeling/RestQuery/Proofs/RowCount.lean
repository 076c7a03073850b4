import RestQuery.Proofs.Evaluation
import RestQuery.Proofs.DistinctAliases

/-!
# What the count statement counts

The count statement of a plan shares the tables, joins and filter of its
select.  It counts the root's primary key distinctly when the root has one
and some join, at any depth, goes through a relation that fans out
(`has_many`), and all rows otherwise.  In a database where the keys hold —
the root's primary key is never `NULL` and unique, and the target key of
every relation joined that does not fan out is unique — both ways count the
root rows that the select returns something for: a join through a relation
that does not fan out matches at most one row, so each root row is counted
once, and distinct primary keys are distinct root rows.

That needs the tables declared under distinct aliases.  The joins' aliases
always are, but the root's alias is the model's name, which the path of a
join can spell: a model with a relation aliased by its own name, included
from the root, declares that alias twice, and SQL refuses the statement.

**Results.**
* `countStatement_distinct_iff`: when the count is distinct.
* `base_join_matches_le`: the joins that do not fan out match at most one
  row.
* `compile_countRows`: the value of the count statement of every request
  that translates and compiles.
* `staff_countRefused`: counting the employees with their reports gives a
  statement with no value.
-/

namespace RestQuery
namespace Sql

open Plan Schema IncludeTree Request

section Count

variable {V : Type} [DecidableEq V] {c : Compiler} {P : QueryPlan}

/-- Some join of a plan is made through a relation that may give several rows per parent row. -/
def FansOut (c : Compiler) (P : QueryPlan) : Prop :=
  ∃ i, 0 < i ∧ i < P.tree.length ∧
    ∃ r, c.joinRelation P (P.tree.node i) = .ok r ∧ r.kind.fansOut = true

/-- The root model of a plan is registered with primary key `pk`. -/
def RootKey (c : Compiler) (P : QueryPlan) (pk : String) : Prop :=
  ∃ m, c.registry.get P.model = some m ∧ m.primaryKey = some pk

theorem RootKey.unique {pk pk' : String} (h : RootKey c P pk) (h' : RootKey c P pk') : pk = pk' := by
  obtain ⟨m, hm, hpk⟩ := h
  obtain ⟨m', hm', hpk'⟩ := h'
  rw [hm, Option.some.injEq] at hm'
  subst hm'
  exact Option.some.inj (hpk.symm.trans hpk')

/-- The keys a compiled plan relies on hold in a database: the root's primary key, where it has
one, is never `NULL` and unique, and the target key of every relation joined that does not fan
out is unique in the table joined. -/
structure KeysHold (c : Compiler) (P : QueryPlan) (db : Database V) : Prop where
  root : ∀ m pk, c.registry.get P.model = some m → m.primaryKey = some pk →
    KeyColumn (db m.table) pk
  targets : ∀ i, 0 < i → i < P.tree.length → ∀ r m, c.joinRelation P (P.tree.node i) = .ok r →
    r.kind.fansOut = false → c.registry.get (P.tree.node i).model = some m →
    UniqueColumn (db m.table) r.targetKey

/-- Whether the relations of the joins fan out, listed in join order, says whether one does. -/
theorem any_fansOut_iff {fans : List Bool}
    (h : List.Forall₂ (fun x b => ∃ r, c.joinRelation P x.2 = .ok r ∧ r.kind.fansOut = b)
      P.tree.joins fans) :
    fans.any id = true ↔ FansOut c P := by
  rw [List.any_eq_true]
  constructor
  · rintro ⟨b, hb, hbt⟩
    obtain ⟨⟨i, n⟩, hx, r, hr, rfl⟩ := forall₂_exists_mem_left h hb
    obtain ⟨hi, hl, rfl⟩ := mem_joins.mp hx
    exact ⟨i, hi, hl, r, hr, hbt⟩
  · rintro ⟨i, hi, hl, r, hr, hf⟩
    obtain ⟨b, hb, r', hr', rfl⟩ := forall₂_exists_mem_left h.flip (mem_joins.mpr ⟨hi, hl, rfl⟩)
    -- a node is joined through one relation
    rw [hr, Except.ok.injEq] at hr'
    subst hr'
    exact ⟨_, hb, hf⟩

/-- The count statement counts the root's primary key, distinctly, when the root has one and some
join fans out, and all rows otherwise. -/
theorem countStatement_counted {s : Select} (hs : c.countStatement P = .ok s) :
    (∃ pk, RootKey c P pk ∧ FansOut c P ∧ s.items =
      [{ expr := .call "COUNT" [.distinct (.column P.model (some pk))], aliasName := some "count" }]) ∨
    ((∀ pk, ¬ RootKey c P pk) ∨ ¬ FansOut c P) ∧
      s.items = [{ expr := .call "COUNT" [.star], aliasName := some "count" }] := by
  unfold Compiler.countStatement at hs
  obtain ⟨⟨b, o⟩, -, hs⟩ := bind_eq_ok.mp hs
  obtain ⟨root, hroot, hs⟩ := bind_eq_ok.mp hs
  obtain ⟨fans, hfans, hs⟩ := bind_eq_ok.mp hs
  simp only [pure, Except.pure, Except.ok.injEq] at hs
  subst hs
  have hreg := model_eq_ok.mp hroot
  have hany : fans.any id = true ↔ FansOut c P := by
    refine any_fansOut_iff ((mapM_eq_ok_iff.mp hfans).imp fun x f hf => ?_)
    obtain ⟨i, n⟩ := x
    obtain ⟨r, hr, hf⟩ := bind_eq_ok.mp hf
    exact ⟨r, hr, Except.ok.inj hf⟩
  cases hpk : root.primaryKey with
  | some pk =>
    by_cases hf : fans.any id = true
    · exact .inl ⟨pk, ⟨root, hreg, hpk⟩, hany.mp hf, by simp [hf]⟩
    · exact .inr ⟨.inr fun h => hf (hany.mpr h), by simp [hf]⟩
  | none =>
    refine .inr ⟨.inl fun pk ⟨m, hm, hmk⟩ => ?_, rfl⟩
    rw [hreg, Option.some.injEq] at hm
    rw [← hm, hpk] at hmk
    cases hmk

/-- The count statement counts the root's primary key `pk`, distinctly, exactly when some join fans
out and the root's primary key is `pk`. -/
theorem countStatement_distinct_iff {s : Select} (hs : c.countStatement P = .ok s) (pk : String) :
    s.items = [{ expr := .call "COUNT" [.distinct (.column P.model (some pk))], aliasName := some "count" }] ↔
      FansOut c P ∧ RootKey c P pk := by
  rcases countStatement_counted hs with ⟨pk', hkey, hfan, hitems⟩ | ⟨hnot, hitems⟩
  · rw [hitems]
    constructor
    · intro he
      simp only [List.cons.injEq, Item.mk.injEq, Expr.call.injEq, Expr.distinct.injEq,
        Expr.column.injEq, Option.some.injEq, true_and, and_true] at he
      exact ⟨hfan, he ▸ hkey⟩
    · rintro ⟨-, hkey'⟩
      rw [hkey.unique hkey']
  · rw [hitems]
    constructor
    · intro he
      simp at he
    · rintro ⟨hfan, hkey⟩
      rcases hnot with hnone | hflat
      · exact absurd hkey (hnone pk)
      · exact absurd hfan hflat

/-- A compiled plan that asks for a count has a count statement. -/
theorem compile_count {out : Compiled} (hc : c.compile P = .ok out) (hcount : P.count = true) :
    ∃ s, out.count = some s ∧ c.countStatement P = .ok s := by
  unfold Compiler.compile at hc
  obtain ⟨⟨select, opts⟩, -, hc⟩ := bind_eq_ok.mp hc
  dsimp only at hc
  rw [if_pos hcount] at hc
  obtain ⟨count, hcnt, hc⟩ := bind_eq_ok.mp hc
  simp only [pure, Except.pure, Except.ok.injEq] at hc
  subst hc
  cases hs : c.countStatement P with
  | error e => simp [hs, Functor.map, Except.map] at hcnt
  | ok s =>
    simp only [hs, Functor.map, Except.map, Except.ok.injEq] at hcnt
    exact ⟨s, hcnt.symm, rfl⟩

variable {reg : Registry} {b : Select} {opts : List Optimization}

/-- The aliases of the shared statement, root first, are those of the nodes, in node order. -/
theorem base_aliases_getElem (hwf : P.tree.WellFormed reg P.model) (hb : c.base P = .ok (b, opts))
    (i : Nat) (hi : i < b.aliases.length) :
    b.aliases[i] = nodeAlias P i := by
  cases i with
  | zero =>
    simp only [Select.aliases, List.getElem_cons_zero]
    rw [(base_eq_ok hb).2.1, nodeAlias_root hwf]
  | succ k =>
    simp only [Select.aliases, List.getElem_cons_succ, List.getElem_map]
    exact ((base_joins hwf hb).2 k (by simpa [Select.aliases] using hi)).1

/-- The shared statement declares its tables under distinct aliases when no node's chain spells
the model's name. -/
theorem base_aliases_nodup (hwf : P.tree.WellFormed reg P.model)
    (hdot : ∀ i < P.tree.length, DotFree (P.tree.aliasChain i)) (hb : c.base P = .ok (b, opts))
    (hclash : ¬ P.tree.HasChain (Text.split P.model '.')) :
    b.aliases.Nodup := by
  rw [Select.aliases, (base_eq_ok hb).2.1, base_joinAliases hwf hb, List.nodup_cons,
    hwf.mem_paths_iff hdot]
  exact ⟨hclash, hwf.paths_nodup hdot⟩

/-- A join of the shared statement through a relation that does not fan out matches at most one
row, in a database where the keys hold. -/
theorem base_join_matches_le {db : Database V} {atom : Env V → Expr → Truth}
    (hwf : P.tree.WellFormed reg P.model) (hb : c.base P = .ok (b, opts))
    (hnd : b.aliases.Nodup) (hkeys : KeysHold c P db)
    (hflat : ¬ FansOut c P) (k : Nat) (hk : k < b.joins.length) (env : Env V) :
    (b.joins[k].matches db atom env).length ≤ 1 := by
  obtain ⟨halias, ⟨m, hm, htable⟩, r, hr, hcond⟩ := base_joinOf hb k hk
  have hkl : k + 1 < P.tree.length := by
    have := (base_joins hwf hb).1
    omega
  obtain ⟨q, hq, hqk⟩ := hwf.parents_below (k + 1) (Nat.succ_pos k) hkl
  have hr' : r.kind.fansOut = false := by
    cases hf : r.kind.fansOut
    · rfl
    · exact absurd ⟨k + 1, Nat.succ_pos k, hkl, r, hr, hf⟩ hflat
  have huniq := hkeys.targets (k + 1) (Nat.succ_pos k) hkl r m hr hr' (model_eq_ok.mp hm)
  -- the condition compares a column of the parent, an earlier node, with one of the join
  have hleft : tableAlias P (Compiler.parentOf P (P.tree.node (k + 1))).path = nodeAlias P q := by
    simp [Compiler.parentOf, hq, nodeAlias]
  have hne : nodeAlias P q ≠ b.joins[k].aliasName := by
    have hlen : b.aliases.length = P.tree.length := by
      simpa [Select.aliases] using (base_joins hwf hb).1
    rw [← base_aliases_getElem hwf hb q (by omega)]
    have hk' : b.joins[k].aliasName = b.aliases[k + 1] := by simp [Select.aliases]
    rw [hk', Ne, hnd.getElem_inj_iff]
    omega
  rw [hleft, ← halias] at hcond
  exact matches_length_le hcond hne (htable ▸ huniq) env

/-- In a database where the keys hold, the count statement of a plan whose root has a primary key
or whose joins do not fan out counts the root rows that its rows extend. -/
theorem countStatement_countValue {db : Database V} {atom : Env V → Expr → Truth}
    (hwf : P.tree.WellFormed reg P.model) {s : Select} (hs : c.countStatement P = .ok s)
    (hnd : s.aliases.Nodup) (hkeys : KeysHold c P db)
    (hcase : (∃ pk, RootKey c P pk) ∨ ¬ FansOut c P) :
    s.countValue db atom = s.returnedRoots db atom := by
  obtain ⟨b, opts, hb, htable, hname, hjoins, -⟩ := countStatement_eq_ok hs
  rcases countStatement_counted hs with ⟨pk, ⟨m, hm, hpk⟩, -, hitems⟩ | ⟨hnot, hitems⟩
  · -- the root's primary key, counted distinctly
    obtain ⟨root, hroot, hbt⟩ := (base_eq_ok hb).1
    rw [hm, Option.some.injEq] at hroot
    have hkey : KeyColumn (db s.table) pk := by
      rw [htable, hbt, ← hroot]
      exact hkeys.root m pk hm hpk
    have hitems' : s.items =
        [{ expr := .call "COUNT" [.distinct (.column s.aliasName (some pk))], aliasName := some "count" }] := by
      rw [hitems, hname, (base_eq_ok hb).2.1]
    exact Select.countValue_distinct hnd hitems' hkey
  · -- all rows, where no join fans out
    have hflat : ¬ FansOut c P := by
      rcases hnot with hnone | hflat
      · rcases hcase with ⟨pk, hkey⟩ | hflat
        · exact absurd hkey (hnone pk)
        · exact hflat
      · exact hflat
    have hnd' : b.aliases.Nodup := by
      rw [Select.aliases, ← hname, ← hjoins]
      exact hnd
    refine Select.countValue_star hnd hitems fun j hj env => ?_
    rw [hjoins] at hj
    obtain ⟨k, hk, rfl⟩ := List.getElem_of_mem hj
    exact base_join_matches_le hwf hb hnd' hkeys hflat k hk env

/-- **What the count statement counts.**  For every request that translates, asks for a count and
compiles, the count statement counts the root's primary key distinctly exactly when the root has
one and some join, at any depth, fans out.  Evaluated in a database where the root's primary key
is never `NULL` and unique and the target key of every relation joined that does not fan out is
unique, it gives the number of root rows that some row of the select's joins, kept by its `WHERE`,
extends (every root row when the plan has no filter), whenever the root has a primary key or no
join fans out, and the tables are declared under distinct aliases. -/
theorem compile_countRows {tr : Translator} {route : String} {p : Params} {r : PlannedRequest}
    (h : (tr.translate route p).1 = .ok r) (hcount : r.plan.count = true) (c : Compiler)
    {out : Compiled} (hc : c.compile r.plan = .ok out) :
    ∃ s, out.count = some s ∧
      (∀ pk, s.items =
          [{ expr := .call "COUNT" [.distinct (.column r.plan.model (some pk))], aliasName := some "count" }] ↔
        FansOut c r.plan ∧ RootKey c r.plan pk) ∧
      ∀ (db : Database V) (atom : Env V → Expr → Truth), KeysHold c r.plan db →
        ((∃ pk, RootKey c r.plan pk) ∨ ¬ FansOut c r.plan) →
        ¬ r.plan.tree.HasChain (Text.split r.plan.model '.') →
        ∃ n, s.countValue db atom = some n ∧ out.select.returnedRoots db atom = some n ∧
          (r.plan.filter = none → n = (db out.select.table).length) := by
  have hwf := (translate_translated h).wellFormed
  have hdot : ∀ i < r.plan.tree.length, DotFree (r.plan.tree.aliasChain i) :=
    fun i hi => translate_chain_dotFree h ⟨i, hi, rfl⟩
  obtain ⟨s, hout, hs⟩ := compile_count hc hcount
  refine ⟨s, hout, countStatement_distinct_iff hs, fun db atom hkeys hcase hclash => ?_⟩
  obtain ⟨b, opts, hb, htable, hname, hjoins, hfilter, -⟩ := countStatement_eq_ok hs
  obtain ⟨b', hb', htable', hname', hjoins', hfilter', -⟩ := selectStatement_eq_ok (compile_eq_ok hc).1
  -- both statements read the tables and the filter of one shared statement
  rw [hb, Except.ok.injEq, Prod.mk.injEq] at hb'
  obtain ⟨rfl, -⟩ := hb'
  have hnd : s.aliases.Nodup := by
    rw [Select.aliases, hname, hjoins]
    exact base_aliases_nodup hwf hdot hb hclash
  have hsame : s.returnedRoots db atom = out.select.returnedRoots db atom :=
    Select.returnedRoots_congr (htable.trans htable'.symm) (hname.trans hname'.symm)
      (hjoins.trans hjoins'.symm) (hfilter.trans hfilter'.symm)
  obtain ⟨n, hn⟩ : ∃ n, s.returnedRoots db atom = some n := ⟨_, Select.returnedRoots_eq hnd⟩
  refine ⟨n, (countStatement_countValue hwf hs hnd hkeys hcase).trans hn, hsame ▸ hn,
    fun hnone => ?_⟩
  -- with no filter in the plan, the statement has no `WHERE`
  have hf : s.filter = none := by
    rw [hfilter]
    cases hbf : b.filter with
    | none => rfl
    | some e =>
      obtain ⟨-, -, -, -, -, -, -, -, hbfilter⟩ := base_eq_ok hb
      obtain ⟨f, hf, -⟩ := hbfilter e hbf
      rw [hnone] at hf
      cases hf
  rw [Select.returnedRoots_of_filter hnd hf, Option.some.injEq] at hn
  rw [← hn, htable, htable']

end Count

/-- A shop with two customers, the first with two orders and the second with one. -/
def twoCustomers : Database Nat := fun table =>
  if table = "customers" then
    [fun col => if col = "id" then some 1 else none, fun col => if col = "id" then some 2 else none]
  else if table = "orders" then
    [fun col => if col = "id" then some 10 else if col = "customer_id" then some 1 else none,
      fun col => if col = "id" then some 11 else if col = "customer_id" then some 1 else none,
      fun col => if col = "id" then some 12 else if col = "customer_id" then some 2 else none]
  else []

/-- The customers counted with their orders are counted once each, by their distinct keys. -/
example : ((shop.translate "customers" { includes := some "orders", count := some "true" }).1.toOption.bind
    fun r => (shopCompiler.compile r.plan).toOption.bind fun out =>
      out.count.bind fun s => s.countValue twoCustomers fun _ _ => .unknown) = some 2 := by
  decide +kernel

/-- Counted with `COUNT(*)`, the same rows would give one customer per order. -/
example : ((shop.translate "customers" { includes := some "orders", count := some "true" }).1.toOption.bind
    fun r => (shopCompiler.compile r.plan).toOption.bind fun out =>
      out.count.bind fun s => ({ s with items := [{ expr := .call "COUNT" [.star] }] }).countValue
        twoCustomers fun _ _ => .unknown) = some 3 := by
  decide +kernel

theorem shop_countRows :
    ∃ r out, (shop.translate "customers" { includes := some "orders", count := some "true" }).1 = .ok r ∧
      r.plan.count = true ∧ shopCompiler.compile r.plan = .ok out ∧
      ∃ s, out.count = some s ∧
        (∀ pk, s.items =
            [{ expr := .call "COUNT" [.distinct (.column r.plan.model (some pk))], aliasName := some "count" }] ↔
          FansOut shopCompiler r.plan ∧ RootKey shopCompiler r.plan pk) ∧
        ∀ (db : Database Nat) (atom : Env Nat → Expr → Truth), KeysHold shopCompiler r.plan db →
          ((∃ pk, RootKey shopCompiler r.plan pk) ∨ ¬ FansOut shopCompiler r.plan) →
          ¬ r.plan.tree.HasChain (Text.split r.plan.model '.') →
          ∃ n, s.countValue db atom = some n ∧ out.select.returnedRoots db atom = some n ∧
            (r.plan.filter = none → n = (db out.select.table).length) := by
  obtain ⟨r, out, hr, hc, hcount⟩ := @exists_compiled
    (shop.translate "customers" { includes := some "orders", count := some "true" }).1 shopCompiler
    (fun r _ => r.plan.count) (by decide +kernel)
  exact ⟨r, out, hr, hcount, hc, compile_countRows hr hcount shopCompiler hc⟩

/-- Counting the employees with their reports declares the root's alias a second time, for the
join of the reports: the count statement has no value on any database. -/
theorem staff_countRefused :
    ∃ r out s, (staff.translate "employees" { includes := some "employees", count := some "true" }).1 = .ok r ∧
      r.plan.count = true ∧ staffCompiler.compile r.plan = .ok out ∧ out.count = some s ∧
      ∀ (db : Database Nat) (atom : Env Nat → Expr → Truth), s.countValue db atom = none := by
  obtain ⟨r, out, hr, hc, hcheck⟩ := @exists_compiled
    (staff.translate "employees" { includes := some "employees", count := some "true" }).1 staffCompiler
    (fun r out => r.plan.count &&
      out.count.any fun (s : Select) => !decide s.aliases.Nodup)
    (by decide +kernel)
  simp only [Bool.and_eq_true, Option.any_eq_true, Bool.not_eq_true', decide_eq_false_iff_not] at hcheck
  obtain ⟨hcount, s, hs, hclash⟩ := hcheck
  exact ⟨r, out, s, hr, hcount, hc, hs, fun db atom => Select.countValue_of_clash hclash⟩

end Sql
end RestQuery
