import RestQuery.Proofs.Window
import RestQuery.Proofs.TableAliases

/-!
# The window of a compiled statement

The main statement of a compiled plan takes the plan's window as its `LIMIT`
and `OFFSET`; the count statement never has one.  Translation puts the window
on the plan unless the filter reaches a joined table, so what decides whether
a statement is bounded is the filter alone: a join made for `include`, for the
projection, the aggregate or the order stays beside the window whatever the
kind of its relation, also when it can repeat a root row.  Only a condition
on a joined table takes the window off the statement and hands it back as the
deferred window.

**Results.**
* `selectStatement_window`, `countStatement_window`: the windows of the two
  statements of a plan.
* `translate_nested_iff`: a translated request is nested exactly when a
  condition of its filter lies on a joined table.
* `compile_window`: the window of the statements compiled from a translated
  request.
* `shop_limitBesideHasMany`: a limit stands beside the join of a relation that
  fans out.
-/

namespace RestQuery
namespace Sql

open Plan Schema

variable {c : Compiler} {P : QueryPlan}

/-- The main statement is bounded by the plan's window. -/
theorem selectStatement_window {s : Select} {opts : List Optimization}
    (h : c.selectStatement P = .ok (s, opts)) : s.limit = P.limit ∧ s.offset = P.offset := by
  unfold Compiler.selectStatement at h
  obtain ⟨⟨b, o⟩, -, h⟩ := bind_eq_ok.mp h
  simp only [pure, Except.pure, Except.ok.injEq, Prod.mk.injEq] at h
  obtain ⟨rfl, -⟩ := h
  exact ⟨rfl, rfl⟩

/-- The count statement is the unbounded shared statement with a counting item. -/
theorem countStatement_window {s : Select} (h : c.countStatement P = .ok s) :
    s.limit = none ∧ s.offset = none := by
  unfold Compiler.countStatement at h
  obtain ⟨⟨b, o⟩, hb, h⟩ := bind_eq_ok.mp h
  obtain ⟨_, _, h⟩ := bind_eq_ok.mp h
  obtain ⟨_, _, h⟩ := bind_eq_ok.mp h
  simp only [pure, Except.pure, Except.ok.injEq] at h
  subst h
  obtain ⟨-, -, -, -, -, hlimit, hoffset, -⟩ := base_eq_ok hb
  exact ⟨hlimit, hoffset⟩

end Sql

namespace Request

open Plan Schema

variable {tr : Translator} {route : String} {p : Params} {r : PlannedRequest}

/-- A translated request is nested exactly when a condition of its filter lies on a joined
table. -/
theorem translate_nested_iff (h : (tr.translate route p).1 = .ok r) :
    r.nested = true ↔ ∃ f, r.plan.filter = some f ∧ ∃ cond ∈ f.conditions, cond.path ≠ [] := by
  obtain ⟨model, w, -, hrun⟩ := translate_eq_ok h
  obtain ⟨hfilter, hnested, -⟩ := build_window tr model p _ rfl r w hrun
  rw [hnested, hfilter]
  cases hpf : (present p.filter).bind filterOf with
  | none => simp
  | some pf =>
    obtain ⟨value, -, hv⟩ := Option.bind_eq_some_iff.mp hpf
    simpa using filterOf_nested hv

/-- The plan of a translated request carries the window asked for unless the request is
nested. -/
theorem translate_planWindow (h : (tr.translate route p).1 = .ok r) :
    r.plan.limit = (if r.nested then none else r.pagination.limit) ∧
      r.plan.offset = (if r.nested then none else r.pagination.offset) := by
  obtain ⟨model, w, -, hrun⟩ := translate_eq_ok h
  obtain ⟨-, -, -, -, hlimit, hoffset⟩ := build_window tr model p _ rfl r w hrun
  exact ⟨hlimit, hoffset⟩

end Request

namespace Sql

open Plan Schema Request

/-- The statements compiled from a translated request: the main one is bounded by the plan's
window and the count statement by none.  When a condition of the filter lies on a joined table
the main statement is unbounded, and a window that bounds anything is handed back as deferred;
otherwise the main statement is bounded by the window asked for and nothing is deferred, whatever
joins the request makes for its other parameters. -/
theorem compile_window {tr : Translator} {route : String} {p : Params} {r : PlannedRequest}
    (h : (tr.translate route p).1 = .ok r) (c : Compiler) {out : Compiled}
    (hc : c.compile r.plan = .ok out) :
    out.select.limit = r.plan.limit ∧ out.select.offset = r.plan.offset ∧
    (∀ s ∈ out.count, s.limit = none ∧ s.offset = none) ∧
    ((∃ f, r.plan.filter = some f ∧ ∃ cond ∈ f.conditions, cond.path ≠ []) →
      out.select.limit = none ∧ out.select.offset = none ∧
      (r.pagination.isEmpty = false → r.deferredPagination = some r.pagination)) ∧
    ((∀ f, r.plan.filter = some f → ∀ cond ∈ f.conditions, cond.path = []) →
      out.select.limit = r.pagination.limit ∧ out.select.offset = r.pagination.offset ∧
      r.deferredPagination = none) := by
  obtain ⟨hsel, hcount⟩ := compile_eq_ok hc
  obtain ⟨hlimit, hoffset⟩ := selectStatement_window hsel
  obtain ⟨hplanLimit, hplanOffset⟩ := translate_planWindow h
  refine ⟨hlimit, hoffset, fun s hs => countStatement_window (hcount s hs), fun hf => ?_,
    fun hflat => ?_⟩
  · -- a condition on a joined table makes the request nested
    have hn : r.nested = true := (translate_nested_iff h).mpr hf
    refine ⟨by rw [hlimit, hplanLimit, if_pos hn], by rw [hoffset, hplanOffset, if_pos hn],
      fun he => ?_⟩
    simp [PlannedRequest.deferredPagination, hn, he]
  · -- with every condition on the root table the request is not nested
    have hn : r.nested = false := by
      rw [Bool.eq_false_iff]
      intro hn
      obtain ⟨f, hf, cond, hcond, hpath⟩ := (translate_nested_iff h).mp hn
      exact hpath (hflat f hf cond hcond)
    refine ⟨by rw [hlimit, hplanLimit, if_neg (by simp [hn])],
      by rw [hoffset, hplanOffset, if_neg (by simp [hn])], ?_⟩
    simp [PlannedRequest.deferredPagination, hn]

theorem shop_compileWindow :
    ∃ r out, (shop.translate "customers"
        { includes := some "orders", filter := some "[id,gt,1]", limit := some "10" }).1 = .ok r ∧
      shopCompiler.compile r.plan = .ok out ∧
      out.select.limit = r.plan.limit ∧ out.select.offset = r.plan.offset ∧
      (∀ s ∈ out.count, s.limit = none ∧ s.offset = none) ∧
      ((∃ f, r.plan.filter = some f ∧ ∃ cond ∈ f.conditions, cond.path ≠ []) →
        out.select.limit = none ∧ out.select.offset = none ∧
        (r.pagination.isEmpty = false → r.deferredPagination = some r.pagination)) ∧
      ((∀ f, r.plan.filter = some f → ∀ cond ∈ f.conditions, cond.path = []) →
        out.select.limit = r.pagination.limit ∧ out.select.offset = r.pagination.offset ∧
        r.deferredPagination = none) := by
  obtain ⟨r, out, hres, hcomp, -⟩ := @exists_compiled
    (shop.translate "customers"
      { includes := some "orders", filter := some "[id,gt,1]", limit := some "10" }).1
    shopCompiler (fun _ _ => true) (by decide +kernel)
  exact ⟨r, out, hres, hcomp, compile_window hres shopCompiler hcomp⟩

/-- A limit on the customers with their orders goes on the main statement, beside the join of the
orders, a relation that fans out, and nothing is deferred. -/
theorem shop_limitBesideHasMany :
    ((shop.registry.get "Customers").bind (·.relation "Orders")).map (·.kind) = some .hasMany ∧
    ∃ r out, (shop.translate "customers" { includes := some "orders", limit := some "10" }).1 =
        .ok r ∧
      shopCompiler.compile r.plan = .ok out ∧
      r.plan.model = "Customers" ∧ out.select.joins.map (·.aliasName) = ["Orders"] ∧
      out.select.limit = some 10 ∧ r.deferredPagination = none := by
  obtain ⟨r, out, hres, hcomp, hcheck⟩ := @exists_compiled
    (shop.translate "customers" { includes := some "orders", limit := some "10" }).1 shopCompiler
    (fun r out => r.plan.model == "Customers" && out.select.joins.map (·.aliasName) == ["Orders"] &&
      out.select.limit == some 10 && r.deferredPagination.isNone) (by decide +kernel)
  simp only [Bool.and_eq_true, beq_iff_eq, Option.isNone_iff_eq_none] at hcheck
  obtain ⟨⟨⟨hmodel, hjoins⟩, hlimit⟩, hdeferred⟩ := hcheck
  exact ⟨by decide, r, out, hres, hcomp, hmodel, hjoins, hlimit, hdeferred⟩

end Sql
end RestQuery
