import RestQuery.Proofs.Parameters
import RestQuery.Proofs.Registry
import Mathlib.Data.List.Dedup
import Mathlib.Data.List.Infix

/-!
# What a translated request plans

Translation applies the parameters one after the other on one include tree
that starts as the root alone.  Putting the parsers' specifications
together, a plan that comes out of `translate` has a well-formed tree whose
alias chains are exactly the prefixes of the alias paths the request refers
to (`requestRefs`, read off the parameters' text), and every path the plan
names, in its filter, aggregate, group and order, is the chain of one of its
nodes.

**Results.**
* `build_spec`: what building a plan from the root tree guarantees.
* `Translated`: the facts about a plan that compiling it relies on, and
  `translate_translated`: every translated plan has them.
-/

namespace RestQuery
namespace Request

open Plan Schema IncludeTree

/-- The paths a parameter refers to, none when it is not given. -/
def paramRefs (refs : String → List (List String)) (value : Option String) : List (List String) :=
  ((present value).map refs).getD []

/-- The paths the parameters of a request refer to, read off their text. -/
def requestRefs (p : Params) : List (List String) :=
  paramRefs includeRefs p.includes ++ paramRefs filterRefs p.filter ++
    paramRefs attributeRefs p.attributes ++
    paramRefs (fun v => aggregateRefs (aggregateFields (stripBrackets v))) p.aggregate ++
    paramRefs orderRefs p.order

theorem hasChain_new (model : String) (c : List String) :
    (IncludeTree.new model).HasChain c ↔ c = [] := by
  constructor
  · rintro ⟨i, hi, rfl⟩
    have hi0 : i = 0 := by simpa [IncludeTree.new, length] using hi
    rw [hi0, aliasChain_root]
  · rintro rfl
    exact ⟨0, by simp [IncludeTree.new, length], aliasChain_root _⟩

section Steps

variable {model : String} (tr : Translator) (p : Params) (S : List String → Prop)

theorem includeStep_spec :
    Triple (fun w => Tracks tr.registry model S w.tree) (tr.includeStep p)
      (fun _ w => Tracks tr.registry model
        (fun c => S c ∨ Reaches (paramRefs includeRefs p.includes) c) w.tree) := by
  unfold Translator.includeStep paramRefs
  split
  · rename_i value hv
    refine Triple.bind (includePaths_spec tr value S) fun _ => ?_
    refine Triple.bind Triple.currentTree fun _ => ?_
    refine Triple.conseq (Triple.note _ (Tracks tr.registry model _)) (fun w h => h.1) fun _ w h => ?_
    simpa [hv] using h
  · rename_i hv
    exact Triple.pure () fun w h => h.congr fun c => by simp [hv]

theorem filterStep_spec :
    Triple (fun w => Tracks tr.registry model S w.tree) (tr.filterStep p)
      (fun f w => Tracks tr.registry model
        (fun c => S c ∨ Reaches (paramRefs filterRefs p.filter) c) w.tree ∧
        f = (present p.filter).bind filterOf) := by
  unfold Translator.filterStep paramRefs
  split
  · rename_i value hv
    refine Triple.conseq (readFilter_spec tr value S) (fun w h => h) fun f w h => ?_
    simpa [hv] using h
  · rename_i hv
    exact Triple.pure none fun w h => ⟨h.congr fun c => by simp [hv], by simp [hv]⟩

theorem attributesStep_spec :
    Triple (fun w => Tracks tr.registry model S w.tree) (tr.attributesStep p)
      (fun _ w => Tracks tr.registry model
        (fun c => S c ∨ Reaches (paramRefs attributeRefs p.attributes) c) w.tree) := by
  unfold Translator.attributesStep paramRefs
  split
  · rename_i value hv
    refine Triple.conseq (parseAttributes_spec value S) (fun w h => h) fun _ w h => ?_
    simpa [hv] using h
  · rename_i hv
    exact Triple.pure () fun w h => h.congr fun c => by simp [hv]

theorem aggregateStep_spec :
    Triple (fun w => Tracks tr.registry model S w.tree) (tr.aggregateStep p)
      (fun a w => Tracks tr.registry model (fun c => S c ∨
          Reaches (paramRefs (fun v => aggregateRefs (aggregateFields (stripBrackets v))) p.aggregate) c)
          w.tree ∧
        ∀ x ∈ a, ∃ v, present p.aggregate = some v ∧ AggregateRead (aggregateFields (stripBrackets v)) x) := by
  unfold Translator.aggregateStep paramRefs
  split
  · rename_i value hv
    refine Triple.conseq (Triple.map (parseAggregate_spec (stripBrackets value) S)) (fun w h => h) ?_
    rintro _ w ⟨x, rfl, hT, hread⟩
    refine ⟨by simpa [hv] using hT, ?_⟩
    rintro y hy
    cases hy
    exact ⟨value, hv, hread⟩
  · rename_i hv
    exact Triple.pure none fun w h => ⟨h.congr fun c => by simp [hv], by simp⟩

theorem orderStep_spec :
    Triple (fun w => Tracks tr.registry model S w.tree) (tr.orderStep p)
      (fun es w => Tracks tr.registry model
          (fun c => S c ∨ Reaches (paramRefs orderRefs p.order) c) w.tree ∧
        ∀ e ∈ es, ∃ r ∈ paramRefs orderRefs p.order, e.path = aliasPath r) := by
  unfold Translator.orderStep paramRefs
  split
  · rename_i value hv
    refine Triple.conseq (parseOrder_spec value S) (fun w h => h) ?_
    rintro es w ⟨hT, hall⟩
    refine ⟨by simpa [hv] using hT, fun e he => ?_⟩
    -- each entry stands on the path of the group it was read from
    obtain ⟨g, hg, hpath⟩ : ∃ g ∈ GroupList.split value, e.path = aliasPath (orderPath g) := by
      clear hT hv
      generalize GroupList.split value = gs at hall
      induction hall with
      | nil => cases he
      | cons hge _ ih =>
        rcases List.mem_cons.mp he with rfl | he'
        · exact ⟨_, List.mem_cons_self, hge⟩
        · obtain ⟨g, hg, hp⟩ := ih he'
          exact ⟨g, List.mem_cons_of_mem _ hg, hp⟩
    exact ⟨orderPath g, by simpa [hv, orderRefs] using ⟨g, hg, rfl⟩, hpath⟩
  · rename_i hv
    exact Triple.pure [] fun w h => ⟨h.congr fun c => by simp [hv], by simp⟩

end Steps

section Paths

/-- Every condition of a filter read from a `where` value is on the alias path of one of the
value's paths. -/
theorem filterOf_paths {value : String} {pf : ParsedFilter} (h : filterOf value = some pf) :
    ∀ c ∈ pf.filter.conditions, ∃ r ∈ filterRefs value, c.path = aliasPath r := by
  unfold filterOf at h
  unfold filterRefs
  split at h
  · rename_i clauses hparse
    cases h
    intro c hc
    rw [filterOfClauses, conditions_fold, List.map_map] at hc
    obtain ⟨clause, hclause, rfl⟩ := List.mem_map.mp hc
    exact ⟨clause.path, List.mem_map_of_mem hclause, rfl⟩
  · cases h

theorem AggregateRead.source_path {fields : List String} {x : Aggregate × Option GroupBy}
    (h : AggregateRead fields x) : ∃ r ∈ aggregateRefs fields, x.1.sourcePath = aliasPath r := by
  obtain ⟨_, distinct, _, hx⟩ := h
  refine ⟨(Reference.parse (fields.getD 0 "")).path, ?_, ?_⟩
  · simp only [aggregateRefs, List.mem_cons, true_or]
  · rw [hx]
    simp only [aggregateOf]

theorem AggregateRead.group_path {fields : List String} {x : Aggregate × Option GroupBy}
    (h : AggregateRead fields x) : ∀ g ∈ x.2, ∃ r ∈ aggregateRefs fields, g.path = aliasPath r := by
  obtain ⟨_, distinct, _, hx⟩ := h
  intro g hg
  rw [hx] at hg
  unfold groupOf at hg
  split at hg
  · cases hg
  · rename_i hne
    rw [Option.mem_def, Option.some.injEq] at hg
    rw [← hg]
    refine ⟨(Reference.parse (fields.getD 3 "")).path, ?_, by dsimp only⟩
    simp only [aggregateRefs, groupRefs, if_neg hne, List.mem_cons, true_or, or_true]

theorem AggregateRead.function {fields : List String} {x : Aggregate × Option GroupBy}
    (h : AggregateRead fields x) : ∃ s, isIdentifier s = true ∧ x.1.function = s.map Char.toUpper := by
  obtain ⟨hid, distinct, _, hx⟩ := h
  refine ⟨fields.getD 1 "", hid, ?_⟩
  rw [hx]
  simp only [aggregateOf]

variable {reg : Registry} {model : String}

theorem Tracks.hasChain_of_mem {refs : List (List String)} {t : IncludeTree} {r : List String}
    (hT : Tracks reg model (fun c => c = [] ∨ Reaches refs c) t) (hr : r ∈ refs) :
    t.HasChain (aliasPath r) :=
  (hT.2 _).mpr (Or.inr ⟨r, hr, List.prefix_refl _⟩)

end Paths

/-- What compiling a plan relies on, and translation guarantees: the root model is registered,
the tree is well formed for the registry, every path the plan names is the alias chain of one of
its nodes, and the aggregate function is an identifier put in upper case. -/
structure Translated (reg : Registry) (p : QueryPlan) : Prop where
  root_registered : ∃ m, reg.get p.model = some m
  wellFormed : p.tree.WellFormed reg p.model
  condition_paths : ∀ f ∈ p.filter, ∀ c ∈ f.conditions, p.tree.HasChain c.path
  source_path : ∀ a ∈ p.aggregate, p.tree.HasChain a.sourcePath
  group_path : ∀ g ∈ p.group, p.tree.HasChain g.path
  order_paths : ∀ e ∈ p.order, p.tree.HasChain e.path
  function_name : ∀ a ∈ p.aggregate, ∃ s, isIdentifier s = true ∧ a.function = s.map Char.toUpper

theorem build_spec (tr : Translator) (model : Model) (p : Params)
    (hroot : ∃ m, tr.registry.get model.name = some m) :
    Triple (fun w => w.tree = IncludeTree.new model.name) (tr.build model p)
      (fun r _ => r.plan.model = model.name ∧
        Tracks tr.registry model.name (fun c => c = [] ∨ Reaches (requestRefs p) c) r.plan.tree ∧
        Translated tr.registry r.plan) := by
  unfold Translator.build
  refine Triple.bind (Triple.conseq (@includeStep_spec model.name tr p (fun c => c = [])) (fun w h => ?_)
    fun _ _ h => h) fun _ => ?_
  · rw [h]
    exact ⟨wellFormed_new _ _, hasChain_new _⟩
  refine Triple.bind (filterStep_spec tr p _) fun parsed => ?_
  refine Triple.bind (Triple.frame (attributesStep_spec tr p _)) fun _ => ?_
  refine Triple.bind (Triple.frame (aggregateStep_spec tr p _)) fun aggregate => ?_
  refine Triple.bind (Triple.frame (Triple.frame (orderStep_spec tr p _))) fun order => ?_
  refine Triple.bind (Triple.liftExcept _) fun limit => ?_
  refine Triple.bind (Triple.liftExcept _) fun offset => ?_
  refine Triple.bind (Triple.liftExcept _) fun raw => ?_
  refine Triple.bind (Triple.liftExcept _) fun count => ?_
  refine Triple.bind Triple.currentTree fun tree => ?_
  refine Triple.bind (Triple.note_tree _) fun _ => Triple.pure _ ?_
  rintro w ⟨w₀, ⟨⟨⟨⟨⟨⟨⟨⟨hT, horder⟩, hagg⟩, hparsed⟩, -⟩, -⟩, -⟩, -⟩, htree⟩, -⟩
  subst htree hparsed
  have hT' : Tracks tr.registry model.name (fun c => c = [] ∨ Reaches (requestRefs p) c) w₀.tree :=
    hT.congr fun c => by simp only [requestRefs, reaches_append, or_assoc]
  have hchain : ∀ r ∈ requestRefs p, w₀.tree.HasChain (aliasPath r) := fun r hr =>
    hT'.hasChain_of_mem hr
  refine ⟨rfl, hT', hroot, hT'.1, ?_, ?_, ?_, ?_, ?_⟩
  · -- a condition stands on a path of the `where` value
    intro f hf c hc
    simp only [Option.mem_def, Option.map_eq_some_iff, Option.bind_eq_some_iff] at hf
    obtain ⟨pf, ⟨value, hv, hpf⟩, rfl⟩ := hf
    obtain ⟨r, hr, hpath⟩ := filterOf_paths hpf c hc
    rw [hpath]
    exact hchain r (by simp [requestRefs, paramRefs, hv, hr])
  · intro a ha
    simp only [Option.mem_def, Option.map_eq_some_iff] at ha
    obtain ⟨x, hx, rfl⟩ := ha
    obtain ⟨value, hv, hread⟩ := hagg x hx
    obtain ⟨r, hr, hpath⟩ := hread.source_path
    rw [hpath]
    exact hchain r (by simp [requestRefs, paramRefs, hv, hr])
  · intro g hg
    simp only [Option.mem_def, Option.bind_eq_some_iff] at hg
    obtain ⟨x, hx, hgx⟩ := hg
    obtain ⟨value, hv, hread⟩ := hagg x hx
    obtain ⟨r, hr, hpath⟩ := hread.group_path g hgx
    rw [hpath]
    exact hchain r (by simp [requestRefs, paramRefs, hv, hr])
  · intro e he
    obtain ⟨r, hr, hpath⟩ := horder e he
    rw [hpath]
    exact hchain r (by simp [requestRefs, hr])
  · intro a ha
    simp only [Option.mem_def, Option.map_eq_some_iff] at ha
    obtain ⟨x, hx, rfl⟩ := ha
    obtain ⟨value, -, hread⟩ := hagg x hx
    exact hread.function

/-- A request that translates was routed to a registered model, and its plan is built from the
root tree of that model. -/
theorem translate_spec {tr : Translator} {route : String} {p : Params} {r : PlannedRequest}
    (h : (tr.translate route p).1 = .ok r) :
    ∃ model, tr.registry.modelForRoute route = .ok model ∧ r.plan.model = model.name ∧
      Tracks tr.registry model.name (fun c => c = [] ∨ Reaches (requestRefs p) c) r.plan.tree ∧
      Translated tr.registry r.plan := by
  unfold Translator.translate at h
  split at h
  · cases h
  · rename_i model hmodel
    have hroot : tr.registry.get model.name = some model := Registry.modelForRoute_eq_ok hmodel
    rcases hrun : (tr.build model p).run { tree := IncludeTree.new model.name } with ⟨res, w⟩
    rw [hrun] at h
    cases h
    obtain ⟨hname, hT, hplan⟩ := build_spec tr model p ⟨model, hroot⟩ _ rfl r w hrun
    exact ⟨model, hmodel, hname, hT, hplan⟩

theorem translate_translated {tr : Translator} {route : String} {p : Params} {r : PlannedRequest}
    (h : (tr.translate route p).1 = .ok r) : Translated tr.registry r.plan := by
  obtain ⟨_, _, _, _, hplan⟩ := translate_spec h
  exact hplan

section Count

theorem mem_inits_tail {c l : List String} : c ∈ l.inits.tail ↔ c <+: l ∧ c ≠ [] := by
  cases l with
  | nil => simp
  | cons a l =>
    rw [List.inits_cons, List.tail_cons, List.mem_map]
    constructor
    · rintro ⟨d, hd, rfl⟩
      exact ⟨List.cons_prefix_cons.mpr ⟨rfl, List.mem_inits _ _ |>.mp hd⟩, List.cons_ne_nil _ _⟩
    · rintro ⟨hp, hne⟩
      cases c with
      | nil => exact absurd rfl hne
      | cons b d =>
        obtain ⟨rfl, hd⟩ := List.cons_prefix_cons.mp hp
        exact ⟨d, (List.mem_inits _ _).mpr hd, rfl⟩

variable {reg : Registry} {model : String}

/-- A well-formed tree whose chains are the empty one and the prefixes of the alias paths of
`refs` has a node for each of those prefixes and no other. -/
theorem length_of_tracks {refs : List (List String)} {t : IncludeTree}
    (hT : Tracks reg model (fun c => c = [] ∨ Reaches refs c) t) :
    t.length = 1 + (refs.flatMap fun ref => (aliasPath ref).inits.tail).dedup.length := by
  set P := (refs.flatMap fun ref => (aliasPath ref).inits.tail).dedup
  -- the chains of the nodes, node by node, are pairwise distinct
  have hchains : ((List.range t.length).map t.aliasChain).Nodup := by
    refine List.Nodup.map_on ?_ List.nodup_range
    intro i hi j hj h
    exact hT.1.aliasChain_injective (List.mem_range.mp hi) (List.mem_range.mp hj) h
  have hP : ([] :: P).Nodup := by
    refine List.nodup_cons.mpr ⟨?_, List.nodup_dedup _⟩
    simp [P, mem_inits_tail]
  have hperm : ((List.range t.length).map t.aliasChain).Perm ([] :: P) := by
    refine (List.perm_ext_iff_of_nodup hchains hP).mpr fun c => ?_
    have hc : c ∈ (List.range t.length).map t.aliasChain ↔ t.HasChain c := by
      simp [HasChain]
    rw [hc, hT.2 c]
    simp only [List.mem_cons, P, List.mem_dedup, List.mem_flatMap, mem_inits_tail, Reaches]
    constructor
    · rintro (rfl | ⟨r, hr, hp⟩)
      · exact Or.inl rfl
      · by_cases hnil : c = []
        · exact Or.inl hnil
        · exact Or.inr ⟨r, hr, hp, hnil⟩
    · rintro (rfl | ⟨r, hr, hp, -⟩)
      · exact Or.inl rfl
      · exact Or.inr ⟨r, hr, hp⟩
  have hlen := hperm.length_eq
  simp only [List.length_map, List.length_range, List.length_cons] at hlen
  omega

end Count

/-- The include tree of a translated request is a tree rooted at the queried model, in which
each node hangs under an earlier node that lists it once and is the only one to list it; sibling
aliases differ, so that a node is determined by its alias chain; each join follows a relation of
its parent's registered model; and the chains are exactly the prefixes of the alias paths the
request refers to, one node for each distinct one. -/
theorem translate_includeTree {tr : Translator} {route : String} {p : Params} {r : PlannedRequest}
    (h : (tr.translate route p).1 = .ok r) :
    let t := r.plan.tree
    ((t.node 0).model = r.plan.model ∧ (t.node 0).parent = none ∧ (t.node 0).path = "" ∧
      ∀ n : Nat, 0 < n → n < t.length → ∃ q : Nat, (t.node n).parent = some q ∧ q < n ∧
        (t.node q).children.count n = 1 ∧ ∀ j, j < t.length → j ≠ q → n ∉ (t.node j).children) ∧
    (∀ i j : Nat, 0 < i → i < t.length → 0 < j → j < t.length →
      (t.node i).parent = (t.node j).parent → (t.node i).aliasName = (t.node j).aliasName → i = j) ∧
    (∀ i j : Nat, i < t.length → j < t.length → t.aliasChain i = t.aliasChain j → i = j) ∧
    (∀ n q : Nat, 0 < n → n < t.length → (t.node n).parent = some q →
      ∃ m rel, tr.registry.get (t.node q).model = some m ∧
        m.relation (t.node n).aliasName = some rel ∧ rel.target = (t.node n).model) ∧
    (∀ c, t.HasChain c ↔ c = [] ∨ ∃ ref ∈ requestRefs p, c <+: aliasPath ref) ∧
    t.length = 1 + ((requestRefs p).flatMap fun ref => (aliasPath ref).inits.tail).dedup.length := by
  obtain ⟨model, _, _, hT, hplan⟩ := translate_spec h
  have hwf := hplan.wellFormed
  intro t
  refine ⟨⟨hwf.root_model, hwf.root_parent, hwf.root_path, fun n hn hl => ?_⟩, hwf.sibling_alias,
    fun i j hi hj => hwf.aliasChain_injective hi hj, hwf.related, fun c => hT.2 c, length_of_tracks hT⟩
  obtain ⟨q, hq, hqn⟩ := hwf.parents_below n hn hl
  exact ⟨q, hq, hqn, hwf.count_children hn hl hq⟩

/-- The translator of the built-in shop. -/
def shop : Translator := { registry := ⟨ServiceConfig.builtin.models⟩, access := ServiceConfig.builtin.enabledTables }

theorem shop_includeTree :
    ∃ r, (shop.translate "customers" { includes := some "orders.line_items" }).1 = .ok r ∧
    let t := r.plan.tree
    ((t.node 0).model = r.plan.model ∧ (t.node 0).parent = none ∧ (t.node 0).path = "" ∧
      ∀ n : Nat, 0 < n → n < t.length → ∃ q : Nat, (t.node n).parent = some q ∧ q < n ∧
        (t.node q).children.count n = 1 ∧ ∀ j, j < t.length → j ≠ q → n ∉ (t.node j).children) ∧
    (∀ i j : Nat, 0 < i → i < t.length → 0 < j → j < t.length →
      (t.node i).parent = (t.node j).parent → (t.node i).aliasName = (t.node j).aliasName → i = j) ∧
    (∀ i j : Nat, i < t.length → j < t.length → t.aliasChain i = t.aliasChain j → i = j) ∧
    (∀ n q : Nat, 0 < n → n < t.length → (t.node n).parent = some q →
      ∃ m rel, shop.registry.get (t.node q).model = some m ∧
        m.relation (t.node n).aliasName = some rel ∧ rel.target = (t.node n).model) ∧
    (∀ c, t.HasChain c ↔ c = [] ∨ ∃ ref ∈ requestRefs { includes := some "orders.line_items" }, c <+: aliasPath ref) ∧
    t.length = 1 + ((requestRefs { includes := some "orders.line_items" }).flatMap fun ref => (aliasPath ref).inits.tail).dedup.length := by
  have hok : (shop.translate "customers" { includes := some "orders.line_items" }).1.isOk = true := by
    decide +kernel
  cases hres : (shop.translate "customers" { includes := some "orders.line_items" }).1 with
  | error e =>
    rw [hres] at hok
    cases hok
  | ok r => exact ⟨r, rfl, translate_includeTree hres⟩

end Request
end RestQuery
