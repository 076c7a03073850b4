import RestQuery.Proofs.Translation

/-!
# Dropping a malformed filter

A `where` value that does not read as clauses is malformed.  Reading a
filter lexes and parses the whole text before it resolves any path, so a
malformed one fails before the include tree or the notes change
(`parseWhere_run_of_malformed`).  A translator that is not strict then
drops the filter with a note; a strict one refuses the request.

Dropping leaves no trace on the result because the steps after the filter
look at the include tree and never at the notes (`TreeOnly`): a request
with a malformed filter translates to what it translates to without its
`where` parameter.  A strict translator reports the malformed filter unless
the route or an include path failed first.

**Results.**
* `TreeOnly`: a step whose outcome and tree do not depend on the notes, and
  the combinators and parsers that are such steps.
* `parseWhere_run_of_malformed`: a malformed filter fails with its fault and
  leaves the workspace as it was.
* `translate_malformedFilter`: what translating a request with a malformed
  filter gives, strict or not.
-/

namespace RestQuery
namespace Request

open Plan Schema

/-- The outcome of a step and the tree it leaves depend on the tree it starts from, never on the
notes taken before it. -/
def TreeOnly {α : Type} (b : Build α) : Prop :=
  ∀ w w' : Workspace, w.tree = w'.tree →
    (b.run w).1 = (b.run w').1 ∧ (b.run w).2.tree = (b.run w').2.tree

namespace TreeOnly

variable {α β γ : Type}

theorem pure (a : α) : TreeOnly (Pure.pure a : Build α) :=
  fun _ _ h => ⟨rfl, h⟩

theorem throw (e : RequestError) : TreeOnly (MonadExcept.throw e : Build α) :=
  fun _ _ h => ⟨rfl, h⟩

theorem note (n : Note) : TreeOnly (Request.note n) :=
  fun _ _ h => ⟨rfl, h⟩

theorem currentTree : TreeOnly Request.currentTree := by
  intro w w' h
  rw [Build.run_currentTree, Build.run_currentTree, h]
  exact ⟨rfl, rfl⟩

theorem updateTree (f : IncludeTree → IncludeTree) : TreeOnly (Request.updateTree f) := by
  intro w w' h
  rw [Build.run_updateTree, Build.run_updateTree]
  exact ⟨rfl, by simp [h]⟩

theorem liftExcept (x : Except RequestError α) : TreeOnly (Request.liftExcept x) := by
  intro w w' h
  rw [Build.run_liftExcept, Build.run_liftExcept]
  exact ⟨rfl, h⟩

theorem bind {x : Build α} {f : α → Build β} (hx : TreeOnly x) (hf : ∀ a, TreeOnly (f a)) :
    TreeOnly (x >>= f) := by
  intro w w' h
  rw [Build.run_bind, Build.run_bind]
  obtain ⟨hres, htree⟩ := hx w w' h
  revert hres htree
  rcases x.run w with ⟨r, w₁⟩
  rcases x.run w' with ⟨r', w₁'⟩
  rintro (rfl : r = r') (htree : w₁.tree = w₁'.tree)
  cases r with
  | error e => exact ⟨rfl, htree⟩
  | ok a => exact hf a w₁ w₁' htree

theorem sequential : Sequential @TreeOnly :=
  ⟨pure, bind⟩

/-- Two workspaces with one tree give a tree-only step one outcome. -/
theorem run_fst (b : Build α) (hb : TreeOnly b) (w w' : Workspace) (h : w.tree = w'.tree) :
    (b.run w).1 = (b.run w').1 :=
  (hb w w' h).1

/-- A check that fails unless its condition is false. -/
theorem check {p : Prop} [Decidable p] {e : RequestError} {k : PUnit → Build α} (hk : TreeOnly (k ())) :
    TreeOnly (if p then MonadExcept.throw e >>= k else k ()) :=
  Sequential.ite (bind (throw e) fun _ => hk) hk

end TreeOnly

variable {reg : Registry}

theorem resolveStep_treeOnly (segments : List String) (cur : NodeId) (seg : String) :
    TreeOnly (resolveStep reg segments cur seg) := by
  unfold resolveStep
  refine TreeOnly.bind TreeOnly.currentTree fun t => ?_
  split
  · exact TreeOnly.throw _
  · split
    · exact TreeOnly.pure _
    · exact TreeOnly.bind (TreeOnly.updateTree _) fun _ => TreeOnly.pure _

theorem resolveFrom_treeOnly (segments : List String) :
    ∀ (rest : List String) (cur : NodeId), TreeOnly (resolveFrom reg segments cur rest)
  | [], cur => TreeOnly.pure cur
  | seg :: rest, cur => by
    rw [resolveFrom]
    exact TreeOnly.bind (resolveStep_treeOnly segments cur seg) fun next =>
      resolveFrom_treeOnly segments rest next

theorem resolveSegments_treeOnly (start : NodeId) (segments : List String) :
    TreeOnly (resolveSegments reg start segments) :=
  resolveFrom_treeOnly segments segments start

theorem resolve_treeOnly (start : NodeId) (dotted : String) : TreeOnly (resolve reg start dotted) := by
  unfold resolve
  exact Sequential.ite (TreeOnly.pure _) (resolveSegments_treeOnly _ _)

theorem chainOf_treeOnly (n : NodeId) : TreeOnly (chainOf n) :=
  TreeOnly.bind TreeOnly.currentTree fun _ => TreeOnly.pure _

theorem projectGroup_treeOnly (group : String) : TreeOnly (projectGroup reg group) := by
  unfold projectGroup
  exact TreeOnly.bind (TreeOnly.liftExcept _) fun _ => TreeOnly.bind (resolve_treeOnly _ _) fun _ =>
    TreeOnly.bind (TreeOnly.note _) fun _ => TreeOnly.updateTree _

theorem parseAttributes_treeOnly (input : String) : TreeOnly (parseAttributes reg input) :=
  TreeOnly.sequential.forM projectGroup_treeOnly _

theorem parseGroup_treeOnly (g : String) : TreeOnly (parseGroup reg g) := by
  unfold parseGroup
  split
  · exact TreeOnly.pure _
  · dsimp only
    exact TreeOnly.check <| TreeOnly.bind (resolveSegments_treeOnly _ _) fun node =>
      TreeOnly.bind (chainOf_treeOnly node) fun _ => TreeOnly.pure _

theorem parseAggregate_treeOnly (input : String) : TreeOnly (parseAggregate reg input) := by
  unfold parseAggregate
  dsimp only
  refine TreeOnly.check <| TreeOnly.check <| TreeOnly.check <| TreeOnly.check ?_
  refine TreeOnly.bind (TreeOnly.liftExcept _) fun _ => ?_
  refine TreeOnly.bind (resolveSegments_treeOnly _ _) fun node => ?_
  refine TreeOnly.bind (chainOf_treeOnly node) fun _ => ?_
  exact TreeOnly.bind (parseGroup_treeOnly _) fun _ =>
    TreeOnly.bind (TreeOnly.note _) fun _ => TreeOnly.pure _

theorem orderEntry_treeOnly (group : String) : TreeOnly (orderEntry reg group) := by
  unfold orderEntry
  split
  dsimp only
  refine TreeOnly.check ?_
  exact TreeOnly.bind (resolveSegments_treeOnly _ _) fun node =>
    TreeOnly.bind (chainOf_treeOnly node) fun _ =>
    TreeOnly.bind (TreeOnly.liftExcept _) fun _ => TreeOnly.pure _

theorem parseOrder_treeOnly (input : String) : TreeOnly (parseOrder reg input) :=
  TreeOnly.sequential.mapM orderEntry_treeOnly _

theorem attributesStep_treeOnly (tr : Translator) (p : Params) : TreeOnly (tr.attributesStep p) := by
  unfold Translator.attributesStep
  split
  · exact parseAttributes_treeOnly _
  · exact TreeOnly.pure _

theorem aggregateStep_treeOnly (tr : Translator) (p : Params) : TreeOnly (tr.aggregateStep p) := by
  unfold Translator.aggregateStep
  split
  · exact TreeOnly.sequential.map (parseAggregate_treeOnly _)
  · exact TreeOnly.pure _

theorem orderStep_treeOnly (tr : Translator) (p : Params) : TreeOnly (tr.orderStep p) := by
  unfold Translator.orderStep
  split
  · exact parseOrder_treeOnly _
  · exact TreeOnly.pure _

/-- A filter text that does not read as clauses fails before anything is resolved or noted. -/
theorem parseWhere_run_of_malformed {input : String} {m : Filter.Malformed}
    (hm : Filter.parse input = .error m) (w : Workspace) :
    (parseWhere reg input).run w = (.error (.malformedFilter m), w) := by
  unfold parseWhere
  rw [Build.run_bind, Build.run_liftExcept]
  simp [hm, Except.mapError]

theorem readFilter_run_of_malformed (tr : Translator) {value : String} {m : Filter.Malformed}
    (hm : Filter.parse (stripWrapper value) = .error m) (w : Workspace) :
    (tr.readFilter value).run w = if tr.strictFilters then (.error (.malformedFilter m), w)
      else (.ok none, { w with notes := w.notes ++ [.filterIgnored (.malformedFilter m)] }) := by
  unfold Translator.readFilter
  rw [Build.run_tryCatch, Build.run_map, parseWhere_run_of_malformed hm]
  cases tr.strictFilters
  · rfl
  · rfl

theorem filterStep_run_absent (tr : Translator) (p : Params) (hp : p.filter = none) (w : Workspace) :
    (tr.filterStep p).run w = (.ok none, w) := by
  simp [Translator.filterStep, hp, present, Build.run_pure]

theorem build_drop_malformed (tr : Translator) (model : Model) {p : Params} {v : String} {m : Filter.Malformed}
    (hv : present p.filter = some v) (hm : Filter.parse (stripWrapper v) = .error m)
    (hs : tr.strictFilters = false) (w : Workspace) :
    ((tr.build model p).run w).1 = ((tr.build model { p with filter := none }).run w).1 := by
  have hinc : tr.includeStep { p with filter := none } = tr.includeStep p := rfl
  unfold Translator.build
  rw [Build.run_bind, Build.run_bind, hinc]
  rcases hi : (tr.includeStep p).run w with ⟨_ | _, w₁⟩
  · rfl
  · dsimp only
    rw [Build.run_bind, Build.run_bind, filterStep_run_absent tr { p with filter := none } rfl]
    rw [show (tr.filterStep p).run w₁ = (tr.readFilter v).run w₁ by simp [Translator.filterStep, hv],
      readFilter_run_of_malformed tr hm, hs]
    simp only [Bool.false_eq_true, ↓reduceIte]
    -- what follows the filter reads the tree, which the dropped filter left as it was
    refine TreeOnly.run_fst _ ?_ _ _ rfl
    refine TreeOnly.bind (attributesStep_treeOnly tr p) fun _ => ?_
    refine TreeOnly.bind (aggregateStep_treeOnly tr p) fun _ => ?_
    refine TreeOnly.bind (orderStep_treeOnly tr p) fun _ => ?_
    refine TreeOnly.bind (TreeOnly.liftExcept _) fun _ => ?_
    refine TreeOnly.bind (TreeOnly.liftExcept _) fun _ => ?_
    refine TreeOnly.bind (TreeOnly.liftExcept _) fun _ => ?_
    refine TreeOnly.bind (TreeOnly.liftExcept _) fun _ => ?_
    refine TreeOnly.bind TreeOnly.currentTree fun _ => ?_
    exact TreeOnly.bind (TreeOnly.note _) fun _ => TreeOnly.pure _

theorem build_refuse_malformed (tr : Translator) (model : Model) {p : Params} {v : String}
    {m : Filter.Malformed} (hv : present p.filter = some v) (hm : Filter.parse (stripWrapper v) = .error m)
    (hs : tr.strictFilters = true) (w : Workspace) :
    ((tr.build model p).run w).1 =
      ((tr.build model { includes := p.includes }).run w).1.bind fun _ => .error (.malformedFilter m) := by
  have hinc : tr.includeStep { includes := p.includes } = tr.includeStep p := rfl
  unfold Translator.build
  rw [Build.run_bind, Build.run_bind, hinc]
  rcases hi : (tr.includeStep p).run w with ⟨_ | _, w₁⟩
  · rfl
  · dsimp only
    rw [Build.run_bind, Build.run_bind, filterStep_run_absent tr { includes := p.includes } rfl]
    rw [show (tr.filterStep p).run w₁ = (tr.readFilter v).run w₁ by simp [Translator.filterStep, hv],
      readFilter_run_of_malformed tr hm, hs]
    rfl

/-- The outcome of translating is that of building the plan from the root of the routed model. -/
theorem translate_fst (tr : Translator) (route : String) (p : Params) :
    (tr.translate route p).1 = (tr.registry.modelForRoute route).bind fun model =>
      ((tr.build model p).run { tree := IncludeTree.new model.name }).1 := by
  unfold Translator.translate
  cases tr.registry.modelForRoute route with
  | error e => rfl
  | ok model => rfl

theorem translate_malformedFilter {tr : Translator} {route : String} {p : Params} {v : String}
    {m : Filter.Malformed} (hv : present p.filter = some v)
    (hm : Filter.parse (stripWrapper v) = .error m) :
    (∀ input w w' m', (parseWhere tr.registry input).run w = (.error (.malformedFilter m'), w') →
      w' = w ∧ Filter.parse input = .error m') ∧
    (∀ w, (parseWhere tr.registry (stripWrapper v)).run w = (.error (.malformedFilter m), w)) ∧
    (tr.strictFilters = false →
      (tr.translate route p).1 = (tr.translate route { p with filter := none }).1) ∧
    (tr.strictFilters = true →
      (tr.translate route p).1 =
        (tr.translate route { includes := p.includes }).1.bind fun _ => .error (.malformedFilter m)) := by
  refine ⟨fun input w w' m' h => ?_, parseWhere_run_of_malformed hm, fun hs => ?_, fun hs => ?_⟩
  · have hparse := (parseWhere_run_malformed h).1
    rw [parseWhere_run_of_malformed hparse] at h
    cases h
    exact ⟨rfl, hparse⟩
  · rw [translate_fst, translate_fst]
    cases tr.registry.modelForRoute route with
    | error e => rfl
    | ok model => exact build_drop_malformed tr model hv hm hs _
  · rw [translate_fst, translate_fst]
    cases tr.registry.modelForRoute route with
    | error e => rfl
    | ok model => exact build_refuse_malformed tr model hv hm hs _

theorem shop_malformedFilter :
    present (some "XOR") = some "XOR" ∧
    Filter.parse (stripWrapper "XOR") = .error ⟨0, .unknownConnective "XOR"⟩ ∧
    (∀ input w w' m', (parseWhere shop.registry input).run w = (.error (.malformedFilter m'), w') →
      w' = w ∧ Filter.parse input = .error m') ∧
    (∀ w, (parseWhere shop.registry (stripWrapper "XOR")).run w =
      (.error (.malformedFilter ⟨0, .unknownConnective "XOR"⟩), w)) ∧
    (shop.strictFilters = false →
      (shop.translate "customers" { filter := some "XOR", limit := some "5" }).1 =
        (shop.translate "customers" { filter := none, limit := some "5" }).1) ∧
    (shop.strictFilters = true →
      (shop.translate "customers" { filter := some "XOR", limit := some "5" }).1 =
        (shop.translate "customers" { includes := none }).1.bind
          fun _ => .error (.malformedFilter ⟨0, .unknownConnective "XOR"⟩)) :=
  have hv : present (some "XOR") = some "XOR" := by decide
  have hm : Filter.parse (stripWrapper "XOR") = .error ⟨0, .unknownConnective "XOR"⟩ := by
    have h : (match Filter.parse (stripWrapper "XOR") with
        | .error e => decide (e = ⟨0, .unknownConnective "XOR"⟩)
        | .ok _ => false) = true := by
      decide +kernel
    revert h
    cases Filter.parse (stripWrapper "XOR") <;> simp
  ⟨hv, hm, @translate_malformedFilter shop "customers" { filter := some "XOR", limit := some "5" } _ _ hv hm⟩

end Request
end RestQuery
