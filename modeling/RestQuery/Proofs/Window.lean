import RestQuery.Proofs.Translation
import Mathlib.Logic.Basic

/-!
# The window of a translated request

A request asks for a window of rows with `limit` and `offset`, each an
unsigned 64-bit count.  When its filter reaches a joined table, one model row
may come back as several rows, so the window cannot go on the query:
translation leaves it off the plan and hands it back as the deferred window,
for the caller to apply to the rows it fetched.  Otherwise the window goes
on the plan and nothing is deferred.

`build_window` reads off a translated request its filter, whether that
filter is nested, and its window.  From it, the window asked for is carried
by exactly one of the plan and the deferred window, and applying a window
keeps exactly the rows between its two bounds, both cut at the end of the
rows.

**Results.**
* `Pagination.apply_eq_extract_min`: the rows a window keeps.
* `filterOf_nested`: a filter is nested exactly when one of its conditions
  lies on a joined table.
* `build_window`: the filter, flag and window of a built plan.
* `translate_window`: the window of every translated request.
-/

namespace RestQuery
namespace Request

open Plan Schema IncludeTree

namespace Pagination

/-- A window keeps the rows from its offset up to its offset plus its limit, both bounds cut at the
end of the rows; no limit keeps every row from the offset on. -/
theorem apply_eq_extract_min {α : Type} (w : Pagination) (rows : List α) :
    w.apply rows = rows.extract (min (w.offset.getD 0) rows.length)
      (w.limit.elim rows.length fun l => min (w.offset.getD 0 + l) rows.length) := by
  set o := w.offset.getD 0
  -- an offset past the end drops everything, as the offset cut at the end does
  have hdrop : rows.drop (min o rows.length) = rows.drop o := by
    rcases Nat.le_total o rows.length with h | h
    · rw [Nat.min_eq_left h]
    · rw [Nat.min_eq_right h, List.drop_length, List.drop_eq_nil_of_le h]
  unfold apply
  cases hl : w.limit with
  | none =>
    simp only [Option.elim, List.extract_eq_take_drop, hdrop]
    exact (List.take_of_length_le (by rw [List.length_drop]; omega)).symm
  | some l =>
    simp only [Option.elim, List.extract_eq_take_drop, hdrop]
    rw [List.take_eq_take_iff, List.length_drop]
    omega

end Pagination

/-- A count read from a parameter fits in 64 bits. -/
theorem parseCount_lt {name value : String} {n : Nat} (h : parseCount name value = .ok n) :
    n < UInt64.size := by
  unfold parseCount at h
  split at h
  · rename_i m hm
    cases h
    simp only [Number.parseUInt64, Option.bind_eq_some_iff] at hm
    obtain ⟨v, -, hv⟩ := hm
    split at hv
    · cases hv
      rename_i hlt
      exact hlt
    · cases hv
  · cases h

theorem mapM_parseCount_lt {name : String} {value : Option String} {x : Option Nat}
    (h : value.mapM (parseCount name) = .ok x) : ∀ n ∈ x, n < UInt64.size := by
  intro n hn
  cases value with
  | none =>
    simp only [Option.mapM_none, pure, Except.pure, Except.ok.injEq] at h
    subst h
    cases hn
  | some v =>
    cases hv : parseCount name v with
    | error e => simp [Option.mapM_some, hv] at h
    | ok m =>
      simp only [Option.mapM_some, hv] at h
      change Except.ok (some m) = Except.ok x at h
      cases h
      cases hn
      exact parseCount_lt hv

theorem filterOfClauses_nested (clauses : List Filter.Clause) :
    (filterOfClauses clauses).nested = true ↔
      ∃ c ∈ (filterOfClauses clauses).filter.conditions, c.path ≠ [] := by
  simp only [filterOfClauses, conditions_fold, List.map_map, List.any_eq_true, List.mem_map,
    Function.comp_def, clauseEntry]
  simp [aliasPath]

/-- A filter read from a `where` value is nested exactly when one of its conditions lies on a
joined table. -/
theorem filterOf_nested {value : String} {pf : ParsedFilter} (h : filterOf value = some pf) :
    pf.nested = true ↔ ∃ c ∈ pf.filter.conditions, c.path ≠ [] := by
  unfold filterOf at h
  split at h
  · cases h
    exact filterOfClauses_nested _
  · cases h

/-- A fact about no workspace is kept by every step. -/
theorem Triple.keep {α : Type} {φ : Prop} (b : Build α) : Triple (fun _ => φ) b (fun _ _ => φ) :=
  fun _ hw _ _ _ => hw

/-- Building a plan puts on it the filter of the `where` value, sets the flag of that filter, reads
the window from `limit` and `offset`, and puts the window on the plan only when the filter is not
nested. -/
theorem build_window (tr : Translator) (model : Model) (p : Params) :
    Triple (fun w => w.tree = IncludeTree.new model.name) (tr.build model p)
      (fun r _ => r.plan.filter = ((present p.filter).bind filterOf).map (·.filter) ∧
        r.nested = ((present p.filter).bind filterOf).any (·.nested) ∧
        (present p.limit).mapM (parseCount "limit") = .ok r.pagination.limit ∧
        (present p.offset).mapM (parseCount "offset") = .ok r.pagination.offset ∧
        r.plan.limit = (if r.nested then none else r.pagination.limit) ∧
        r.plan.offset = (if r.nested then none else r.pagination.offset)) := by
  unfold Translator.build
  -- the filter's specification needs the tree the include step leaves
  refine Triple.bind (Triple.conseq (@includeStep_spec model.name tr p (fun c => c = [])) (fun w h => ?_)
    fun _ _ h => h) fun _ => ?_
  · rw [h]
    exact ⟨wellFormed_new _ _, hasChain_new _⟩
  refine Triple.bind (Triple.conseq (filterStep_spec tr p _) (fun w h => h) fun _ _ h => h.2) fun parsed => ?_
  -- the projection, the aggregate and the order touch neither the filter nor the window
  refine Triple.bind (Triple.keep _) fun _ => ?_
  refine Triple.bind (Triple.keep _) fun _ => ?_
  refine Triple.bind (Triple.keep _) fun _ => ?_
  refine Triple.bind (Triple.liftExcept _) fun limit => ?_
  refine Triple.bind (Triple.liftExcept _) fun offset => ?_
  refine Triple.bind (Triple.keep _) fun _ => ?_
  refine Triple.bind (Triple.keep _) fun _ => ?_
  refine Triple.bind (Triple.keep _) fun _ => ?_
  refine Triple.bind (Triple.keep _) fun _ => Triple.pure _ ?_
  rintro w ⟨⟨rfl, hlimit⟩, hoffset⟩
  exact ⟨rfl, rfl, hlimit, hoffset, rfl, rfl⟩

/-- A request that translates was routed to a model, and its plan is what building from the root
tree of that model returned. -/
theorem translate_eq_ok {tr : Translator} {route : String} {p : Params} {r : PlannedRequest}
    (h : (tr.translate route p).1 = .ok r) :
    ∃ model w, tr.registry.modelForRoute route = .ok model ∧
      (tr.build model p).run { tree := IncludeTree.new model.name } = (.ok r, w) := by
  unfold Translator.translate at h
  split at h
  · cases h
  · rename_i model hmodel
    rcases hrun : (tr.build model p).run { tree := IncludeTree.new model.name } with ⟨res, w⟩
    rw [hrun] at h
    cases h
    exact ⟨model, w, hmodel, hrun⟩

/-- For every translated request: the nested flag says whether the plan's filter has a condition on a
joined table; the window is what `limit` and `offset` read as, two 64-bit counts; the plan carries
that window when the filter is not nested and no window otherwise; the window is deferred exactly
when the filter is nested and the window bounds something; so exactly one of the plan and the
deferred window carries it; and applied to rows, the deferred window keeps those from its offset up
to its offset plus its limit, both cut at the end of the rows. -/
theorem translate_window {tr : Translator} {route : String} {p : Params} {r : PlannedRequest}
    (h : (tr.translate route p).1 = .ok r) :
    (r.nested = true ↔ ∃ f, r.plan.filter = some f ∧ ∃ c ∈ f.conditions, c.path ≠ []) ∧
    (present p.limit).mapM (parseCount "limit") = .ok r.pagination.limit ∧
    (present p.offset).mapM (parseCount "offset") = .ok r.pagination.offset ∧
    (∀ n ∈ r.pagination.limit, n < UInt64.size) ∧ (∀ n ∈ r.pagination.offset, n < UInt64.size) ∧
    (r.nested = false → r.plan.limit = r.pagination.limit ∧ r.plan.offset = r.pagination.offset) ∧
    (r.nested = true → r.plan.limit = none ∧ r.plan.offset = none) ∧
    (∀ w, r.deferredPagination = some w ↔
      w = r.pagination ∧ r.nested = true ∧ r.pagination.isEmpty = false) ∧
    Xor (r.deferredPagination = some r.pagination)
      (r.plan.limit = r.pagination.limit ∧ r.plan.offset = r.pagination.offset) ∧
    ∀ w, r.deferredPagination = some w → ∀ {α : Type} (rows : List α),
      w.apply rows = rows.extract (min (w.offset.getD 0) rows.length)
        (w.limit.elim rows.length fun l => min (w.offset.getD 0 + l) rows.length) := by
  obtain ⟨model, w, -, hrun⟩ := translate_eq_ok h
  obtain ⟨hfilter, hnested, hlimit, hoffset, hplanLimit, hplanOffset⟩ :=
    build_window tr model p _ rfl r w hrun
  have hdeferred : ∀ w, r.deferredPagination = some w ↔
      w = r.pagination ∧ r.nested = true ∧ r.pagination.isEmpty = false := by
    intro w
    unfold PlannedRequest.deferredPagination
    cases r.nested <;> cases r.pagination.isEmpty <;> simp [eq_comm]
  refine ⟨?nested, hlimit, hoffset, mapM_parseCount_lt hlimit, mapM_parseCount_lt hoffset,
    fun hn => by simp [hplanLimit, hplanOffset, hn], fun hn => by simp [hplanLimit, hplanOffset, hn],
    hdeferred, ?xor, fun w _ _ rows => Pagination.apply_eq_extract_min w rows⟩
  case nested =>
    rw [hnested, hfilter]
    cases hpf : (present p.filter).bind filterOf with
    | none => simp
    | some pf =>
      obtain ⟨value, -, hv⟩ := Option.bind_eq_some_iff.mp hpf
      simpa using filterOf_nested hv
  case xor =>
    -- a nested filter with a window defers it and leaves the plan unbounded; otherwise the plan
    -- carries the window, be it empty
    have hempty : r.pagination.isEmpty = true ↔ r.pagination.limit = none ∧ r.pagination.offset = none := by
      simp [Pagination.isEmpty]
    rw [hplanLimit, hplanOffset]
    cases hn : r.nested <;> cases he : r.pagination.isEmpty
    · simp [Xor, hdeferred, hn]
    · simp [Xor, hdeferred, hn]
    · have hne : ¬(r.pagination.limit = none ∧ r.pagination.offset = none) := by
        rw [← hempty, he]
        simp
      simp only [Xor, hdeferred, hn, he, if_true]
      tauto
    · simp only [Xor, hdeferred, hn, he, if_true]
      have := hempty.mp he
      tauto


/-- The customers with an order above 5, two of them after the first: the filter is on the
joined orders, so the plan is left unbounded and the window of two from offset one is deferred. -/
theorem shop_window :
    ∃ r, (shop.translate "customers"
        { includes := some "orders", filter := some "[orders.total,gt,5]", limit := some "2",
          offset := some "1" }).1 = .ok r ∧
    r.nested = true ∧ r.deferredPagination = some { limit := some 2, offset := some 1 } ∧
    let p : Params :=
      { includes := some "orders", filter := some "[orders.total,gt,5]", limit := some "2",
        offset := some "1" }
    (r.nested = true ↔ ∃ f, r.plan.filter = some f ∧ ∃ c ∈ f.conditions, c.path ≠ []) ∧
    (present p.limit).mapM (parseCount "limit") = .ok r.pagination.limit ∧
    (present p.offset).mapM (parseCount "offset") = .ok r.pagination.offset ∧
    (∀ n ∈ r.pagination.limit, n < UInt64.size) ∧ (∀ n ∈ r.pagination.offset, n < UInt64.size) ∧
    (r.nested = false → r.plan.limit = r.pagination.limit ∧ r.plan.offset = r.pagination.offset) ∧
    (r.nested = true → r.plan.limit = none ∧ r.plan.offset = none) ∧
    (∀ w, r.deferredPagination = some w ↔
      w = r.pagination ∧ r.nested = true ∧ r.pagination.isEmpty = false) ∧
    Xor (r.deferredPagination = some r.pagination)
      (r.plan.limit = r.pagination.limit ∧ r.plan.offset = r.pagination.offset) ∧
    ∀ w, r.deferredPagination = some w → ∀ {α : Type} (rows : List α),
      w.apply rows = rows.extract (min (w.offset.getD 0) rows.length)
        (w.limit.elim rows.length fun l => min (w.offset.getD 0 + l) rows.length) := by
  have hok : ((shop.translate "customers"
      { includes := some "orders", filter := some "[orders.total,gt,5]", limit := some "2",
        offset := some "1" }).1.toOption.map fun r =>
      r.nested && r.deferredPagination == some { limit := some 2, offset := some 1 }) =
      some true := by
    decide +kernel
  cases hres : (shop.translate "customers"
      { includes := some "orders", filter := some "[orders.total,gt,5]", limit := some "2",
        offset := some "1" }).1 with
  | error e =>
    rw [hres] at hok
    cases hok
  | ok r =>
    rw [hres] at hok
    simp only [Except.toOption, Option.map_some, Option.some.injEq, Bool.and_eq_true,
      beq_iff_eq] at hok
    exact ⟨r, rfl, hok.1, hok.2, translate_window hres⟩

end Request
end RestQuery
