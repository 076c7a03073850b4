import RestQuery.Proofs.TableAliases

/-!
# When compilation fails

A plan translated over a registry that `Registry.ofModels` accepted compiles
over that registry, whatever the dialect and the threshold of the `IN`
rewrite, unless its filter holds a condition the compiler rejects; it then
fails with the error of the first such condition, in group order.

The tables always resolve: the root model is registered, every join follows
a relation of its parent's model to that relation's target, and an accepted
registry registers every target.  The `IN` rewrite skips the compilation of
the conditions it replaces, but it fires only when each of them is an
equality with one value, and such a condition compiles.

**Results.**
* `mapM_eq_error_iff`: a traversal fails with the error of the first
  element that fails.
* `compileFilter_eq_error`: a filter fails with the error of its first
  rejected condition.
* `compile_error_iff`: the errors of compiling a translated plan.
-/

namespace RestQuery
namespace Sql

open Plan Schema Request

section Errors

variable {ε α β : Type}

/-- The error of the first element that fails. -/
def firstError (f : α → Except ε β) (xs : List α) : Option ε :=
  xs.findSome? fun x => match f x with
    | .error e => some e
    | .ok _ => none

theorem bind_eq_error {x : Except ε α} {f : α → Except ε β} {e : ε} :
    x >>= f = .error e ↔ x = .error e ∨ ∃ a, x = .ok a ∧ f a = .error e := by
  cases x with
  | error e' => simp [bind, Except.bind]
  | ok a => simp [bind, Except.bind]

/-- After a step that succeeds, a computation fails as its continuation does. -/
theorem bind_eq_error_of_ok {x : Except ε α} {f : α → Except ε β} {e : ε} {Q : Prop}
    (hx : ∃ a, x = .ok a) (hf : ∀ a, f a = .error e ↔ Q) : x >>= f = .error e ↔ Q := by
  obtain ⟨a, rfl⟩ := hx
  exact hf a

theorem firstError_cons (f : α → Except ε β) (x : α) (xs : List α) :
    firstError f (x :: xs) = match f x with
      | .error e => some e
      | .ok _ => firstError f xs := by
  unfold firstError
  rw [List.findSome?_cons]
  split <;> split <;> simp_all

theorem firstError_eq_none {f : α → Except ε β} {xs : List α} (h : ∀ x ∈ xs, ∃ y, f x = .ok y) :
    firstError f xs = none := by
  rw [firstError, List.findSome?_eq_none_iff]
  intro x hx
  obtain ⟨y, hy⟩ := h x hx
  rw [hy]

theorem firstError_eq_some {f : α → Except ε β} {xs : List α} {e : ε} (h : firstError f xs = some e) :
    ∃ x ∈ xs, f x = .error e := by
  obtain ⟨x, hx, hfx⟩ := List.exists_of_findSome?_eq_some h
  refine ⟨x, hx, ?_⟩
  split at hfx
  · cases hfx
    assumption
  · cases hfx

theorem firstError_append (f : α → Except ε β) (xs ys : List α) :
    firstError f (xs ++ ys) = (firstError f xs).or (firstError f ys) := by
  simp only [firstError, List.findSome?_append]

/-- A traversal fails with the error of the first element that fails. -/
theorem mapM_eq_error_iff {f : α → Except ε β} :
    ∀ {xs : List α} {e : ε}, xs.mapM f = .error e ↔ firstError f xs = some e
  | [], e => by simp [firstError, pure, Except.pure]
  | x :: xs, e => by
    rw [List.mapM_cons, bind_eq_error, firstError_cons]
    cases hx : f x with
    | error e' => simp
    | ok y =>
      -- the first element passes, so the failure is the rest's
      simp only [reduceCtorEq, false_or, Except.ok.injEq, exists_eq_left', bind_eq_error,
        pure, Except.pure, and_false, exists_false, or_false]
      exact mapM_eq_error_iff

theorem mapM_eq_ok_of_forall {f : α → Except ε β} :
    ∀ {xs : List α}, (∀ x ∈ xs, ∃ y, f x = .ok y) → ∃ ys, xs.mapM f = .ok ys
  | [], _ => ⟨[], rfl⟩
  | x :: xs, h => by
    obtain ⟨y, hy⟩ := h x List.mem_cons_self
    obtain ⟨ys, hys⟩ := mapM_eq_ok_of_forall fun x' hx' => h x' (List.mem_cons_of_mem _ hx')
    exact ⟨y :: ys, by rw [List.mapM_cons, hy, hys]; rfl⟩

/-- Traversing groups fails with the error of the first element, over all groups, that fails. -/
theorem firstError_mapM (f : α → Except ε β) :
    ∀ gs : List (List α), firstError (fun g => g.mapM f) gs = firstError f gs.flatten
  | [] => rfl
  | g :: gs => by
    rw [firstError_cons, List.flatten_cons, firstError_append]
    cases hg : g.mapM f with
    | error e =>
      rw [mapM_eq_error_iff.mp hg]
      rfl
    | ok ys =>
      have hnone : firstError f g = none := by
        cases hfirst : firstError f g with
        | none => rfl
        | some e => simp [← mapM_eq_error_iff, hg] at hfirst
      rw [hnone, Option.none_or, firstError_mapM f gs]

theorem mem_of_mapM_eq_some {f : α → Option β} :
    ∀ {xs : List α} {ys : List β}, xs.mapM f = some ys → ∀ x ∈ xs, ∃ y, f x = some y
  | [], _, _, x, hx => absurd hx List.not_mem_nil
  | x :: xs, ys, h, x', hx' => by
    rw [List.mapM_cons] at h
    cases hfx : f x with
    | none => simp [hfx] at h
    | some y =>
      cases hrest : xs.mapM f with
      | none => simp [hfx, hrest] at h
      | some zs =>
        rcases List.mem_cons.mp hx' with rfl | hx'
        · exact ⟨y, hfx⟩
        · exact mem_of_mapM_eq_some hrest x' hx'

end Errors

section Conditions

variable {c : Compiler} {P : QueryPlan}

/-- An equality with one value compiles to the column equal to the bound operand. -/
theorem compileCondition_eq {cond : Condition} {v : String} (hop : normalize cond.operator = "eq")
    (hv : cond.value = .one v) :
    compileCondition P cond = .ok (.binary (columnAt P cond.path cond.column) .eq (operand v)) := by
  simp [compileCondition, hop, hv]

/-- A condition is rejected for its operator, or for an operand that does not fit the operator. -/
theorem compileCondition_error {cond : Condition} {e : CompileError}
    (h : compileCondition P cond = .error e) :
    e = .unsupportedOperator cond.operator ∨
      ∃ fault, e = .invalidOperand cond.operator cond.fieldKey fault := by
  unfold compileCondition at h
  dsimp only at h
  split at h <;> (try split at h) <;> simp only [Except.error.injEq, reduceCtorEq] at h <;>
    subst h <;> simp

/-- The conditions the `IN` rewrite replaces all compile. -/
theorem inList_conditions_ok {f : FilterTree} {x : Expr × Optimization} (h : c.inList P f = some x) :
    ∀ cond ∈ f.conditions, ∃ e, compileCondition P cond = .ok e := by
  unfold Compiler.inList at h
  split at h
  · cases h
  · split at h
    · rename_i first v rest hgroups
      intro cond hcond
      obtain ⟨g, hg, hcg⟩ := List.mem_flatten.mp hcond
      obtain ⟨⟨c', v'⟩, hs⟩ := mem_of_mapM_eq_some hgroups g hg
      obtain ⟨rfl, hop, hv⟩ := singleEquality_eq_some hs
      rw [List.mem_singleton] at hcg
      subst hcg
      exact ⟨_, compileCondition_eq hop hv⟩
    · cases h

/-- A filter fails with the error of its first rejected condition, in group order. -/
theorem compileFilter_eq_error {f : FilterTree} {e : CompileError} :
    c.compileFilter P f = .error e ↔ firstError (compileCondition P) f.conditions = some e := by
  unfold Compiler.compileFilter
  split
  · -- the `IN` list, which only replaces conditions that compile
    rename_i e' opt hin
    rw [firstError_eq_none (inList_conditions_ok hin)]
    simp
  · rw [bind_eq_error, mapM_eq_error_iff, firstError_mapM, FilterTree.conditions]
    simp [pure, Except.pure]

end Conditions

section Tables

variable {reg : Registry} {c : Compiler} {P : QueryPlan}

/-- Each join of a translated plan resolves, in a registry that registers every relation's
target: its parent's model has the relation the node was made along, and its own model is
registered. -/
theorem joinRelation_ok (hT : Translated reg P) (hreg : reg.TargetsRegistered)
    (hc : c.registry = reg) {x : Nat × JoinNode} (hx : x ∈ P.tree.joins) :
    (∃ r, c.joinRelation P x.2 = .ok r) ∧ ∃ m, c.model x.2.model = .ok m := by
  have hwf := hT.wellFormed
  obtain ⟨i, n⟩ := x
  obtain ⟨hi, hl, rfl⟩ := mem_joins.mp hx
  obtain ⟨q, hq, -⟩ := hwf.parents_below i hi hl
  obtain ⟨m, rel, hm, hrel, htarget⟩ := hwf.related i q hi hl hq
  obtain ⟨t, ht⟩ := hreg.target hm hrel
  refine ⟨⟨rel, ?_⟩, t, model_eq_ok.mpr (by rw [hc, ← htarget]; exact ht)⟩
  have hparent : Compiler.parentOf P (P.tree.node i) = P.tree.node q := by
    simp [Compiler.parentOf, hq]
  unfold Compiler.joinRelation
  dsimp only
  rw [hparent, model_eq_ok.mpr (by rw [hc]; exact hm)]
  simp [bind, Except.bind, hrel]

/-- The shared statement of a translated plan fails exactly when its filter does. -/
theorem base_eq_error (hT : Translated reg P) (hreg : reg.TargetsRegistered) (hc : c.registry = reg)
    {e : CompileError} : c.base P = .error e ↔ ∃ f ∈ P.filter, c.compileFilter P f = .error e := by
  obtain ⟨root, hroot⟩ := hT.root_registered
  unfold Compiler.base
  refine bind_eq_error_of_ok ⟨root, model_eq_ok.mpr (hc ▸ hroot)⟩ fun root => ?_
  refine bind_eq_error_of_ok (mapM_eq_ok_of_forall fun x hx => ?_) fun joins => ?_
  · -- every join resolves
    obtain ⟨⟨r, hr⟩, m, hm⟩ := joinRelation_ok hT hreg hc hx
    obtain ⟨i, n⟩ := x
    dsimp only at hr hm ⊢
    exact ⟨_, by rw [hr, hm]; rfl⟩
  · -- so the statement fails where its filter does
    split
    · rename_i f hf
      rw [hf]
      cases hcf : c.compileFilter P f <;> simp [hcf, bind, Except.bind, pure, Except.pure]
    · rename_i hf
      rw [hf]
      simp [bind, Except.bind, pure, Except.pure]

theorem selectStatement_eq_error {e : CompileError} :
    c.selectStatement P = .error e ↔ c.base P = .error e := by
  unfold Compiler.selectStatement
  rw [bind_eq_error]
  simp [pure, Except.pure]

/-- The count statement adds no failure to the shared one. -/
theorem countStatement_eq_error (hT : Translated reg P) (hreg : reg.TargetsRegistered)
    (hc : c.registry = reg) {e : CompileError} :
    c.countStatement P = .error e ↔ c.base P = .error e := by
  obtain ⟨root, hroot⟩ := hT.root_registered
  unfold Compiler.countStatement
  rw [bind_eq_error]
  refine or_iff_left fun ⟨_, _, hrest⟩ => ?_
  rw [bind_eq_error_of_ok ⟨root, model_eq_ok.mpr (hc ▸ hroot)⟩ fun root => ?_] at hrest
  · exact hrest
  · rw [bind_eq_error, mapM_eq_error_iff, firstError_eq_none fun x hx => ?_]
    · simp [pure, Except.pure]
    · obtain ⟨⟨r, hr⟩, -⟩ := joinRelation_ok hT hreg hc hx
      obtain ⟨i, n⟩ := x
      dsimp only at hr ⊢
      exact ⟨_, by rw [hr]; rfl⟩

/-- A translated plan fails to compile exactly when the shared statement does. -/
theorem compile_eq_error (hT : Translated reg P) (hreg : reg.TargetsRegistered)
    (hc : c.registry = reg) {e : CompileError} : c.compile P = .error e ↔ c.base P = .error e := by
  unfold Compiler.compile
  rw [bind_eq_error, selectStatement_eq_error]
  refine or_iff_left fun ⟨⟨s, opts⟩, hs, hrest⟩ => ?_
  -- once the main statement compiles, the shared one does, and so does the count statement
  obtain ⟨b, hb, -⟩ := selectStatement_eq_ok hs
  have hcount : ∀ e', c.countStatement P ≠ .error e' := fun e' he' => by
    rw [countStatement_eq_error hT hreg hc, hb] at he'
    cases he'
  dsimp only at hrest
  split at hrest
  · rw [bind_eq_error] at hrest
    rcases hrest with hrest | ⟨_, _, hrest⟩
    · cases hcs : c.countStatement P with
      | error e' => exact hcount e' hcs
      | ok s' => simp [hcs, Functor.map, Except.map] at hrest
    · cases hrest
  · simp [pure, Except.pure, bind, Except.bind] at hrest

end Tables

/-- Over a registry that `Registry.ofModels` accepted, a translated plan compiles, for every
dialect and threshold, unless a condition of its filter is rejected; it then fails with the
error of the first rejected condition in group order, which names an operator it does not
support or an operand that does not fit, never a missing model or relation. -/
theorem compile_error_iff {ms : List Model} {tr : Translator} (hR : Registry.ofModels ms = .ok tr.registry)
    {route : String} {p : Params} {r : PlannedRequest} (h : (tr.translate route p).1 = .ok r)
    (c : Compiler) (hc : c.registry = tr.registry) (e : CompileError) :
    (c.compile r.plan = .error e ↔
      ∃ f ∈ r.plan.filter, firstError (compileCondition r.plan) f.conditions = some e) ∧
    (c.compile r.plan = .error e →
      (∃ op, e = .unsupportedOperator op) ∨ ∃ op col fault, e = .invalidOperand op col fault) := by
  have hT := translate_translated h
  have hreg := Registry.targetsRegistered_of_ofModels hR
  have hiff : c.compile r.plan = .error e ↔
      ∃ f ∈ r.plan.filter, firstError (compileCondition r.plan) f.conditions = some e := by
    rw [compile_eq_error hT hreg hc, base_eq_error hT hreg hc]
    simp only [compileFilter_eq_error]
  refine ⟨hiff, fun he => ?_⟩
  obtain ⟨f, -, hfirst⟩ := hiff.mp he
  obtain ⟨cond, -, hcond⟩ := firstError_eq_some hfirst
  rcases compileCondition_error hcond with rfl | ⟨fault, rfl⟩
  · exact .inl ⟨_, rfl⟩
  · exact .inr ⟨_, _, fault, rfl⟩

/-- A translation that succeeds into a plan the compiler refuses with `e`: what evaluating the
refusal to `some true` shows, so that a fixed request is settled by `decide`. -/
theorem exists_refused {x : Except RequestError PlannedRequest} {c : Compiler} {e : CompileError}
    (h : (x.toOption.map fun r => decide ((c.compile r.plan).map (fun _ => ()) = .error e)) =
      some true) :
    ∃ r, x = .ok r ∧ c.compile r.plan = .error e := by
  cases x with
  | error e' => cases h
  | ok r =>
    simp only [Except.toOption, Option.map_some, Option.some.injEq, decide_eq_true_eq] at h
    cases hc : c.compile r.plan with
    | ok out =>
      rw [hc] at h
      cases h
    | error e' =>
      rw [hc] at h
      cases h
      exact ⟨r, rfl, hc⟩

/-- A condition with the unknown operator `near` passes translation and is refused by the
compiler, with the error of that condition. -/
theorem shop_compileError :
    Registry.ofModels ServiceConfig.builtin.models = .ok shop.registry ∧
    ∃ r, (shop.translate "customers" { filter := some "[name,near,a]" }).1 = .ok r ∧
      shopCompiler.registry = shop.registry ∧
      shopCompiler.compile r.plan = .error (.unsupportedOperator "near") ∧
      (shopCompiler.compile r.plan = .error (.unsupportedOperator "near") ↔
        ∃ f ∈ r.plan.filter,
          firstError (compileCondition r.plan) f.conditions = some (.unsupportedOperator "near")) ∧
      (shopCompiler.compile r.plan = .error (.unsupportedOperator "near") →
        (∃ op, CompileError.unsupportedOperator "near" = .unsupportedOperator op) ∨
          ∃ op col fault, CompileError.unsupportedOperator "near" = .invalidOperand op col fault) := by
  have hR : Registry.ofModels ServiceConfig.builtin.models = .ok shop.registry := by
    have hdup : Registry.firstDuplicate [] ServiceConfig.builtin.models = none := by decide +kernel
    have htargets : Registry.firstUnknownTarget (ServiceConfig.builtin.models.map Model.name)
        ServiceConfig.builtin.models = none := by decide +kernel
    simp only [Registry.ofModels, hdup, htargets]
    rfl
  obtain ⟨r, hres, hcomp⟩ := @exists_refused
    (shop.translate "customers" { filter := some "[name,near,a]" }).1 shopCompiler
    (.unsupportedOperator "near") (by decide +kernel)
  exact ⟨hR, r, hres, rfl, hcomp,
    compile_error_iff hR hres shopCompiler rfl (.unsupportedOperator "near")⟩

end Sql
end RestQuery
