import RestQuery.Request.Translate
import RestQuery.Proofs.Resolve

/-!
# The joins each parameter makes

Five parameters name join paths: `include`, `where`, `attributes`, the
aggregate and `order`.  Each is read by its own parser, and every parser
resolves its paths from the root of the one shared include tree.  This
module says, for each parser, which paths it refers to, read off the
parameter's text without resolving anything (`includeRefs`, `filterRefs`,
`attributeRefs`, `aggregateRefs`, `orderRefs`), and proves that a parser
that succeeds adds to the tree exactly the prefixes of their alias paths,
keeping it well formed, and returns the alias paths it resolved.

A path given as a dotted text stands for its segments, none when it is
empty.  A filter that is malformed refers to no path: it is read before
anything is resolved, and dropping it leaves the tree as it was.

**Results.**
* `includePaths_spec`, `readFilter_spec`, `parseAttributes_spec`,
  `parseAggregate_spec`, `parseOrder_spec`: what each parser adds, and the
  paths in its result.
-/

namespace RestQuery
namespace Request

open Plan Schema IncludeTree

/-- A list is a prefix of the alias path of one of `refs`. -/
def Reaches (refs : List (List String)) (c : List String) : Prop :=
  ∃ r ∈ refs, c <+: aliasPath r

@[simp] theorem reaches_nil (c : List String) : Reaches [] c ↔ False := by
  simp [Reaches]

@[simp] theorem reaches_append (refs more : List (List String)) (c : List String) :
    Reaches (refs ++ more) c ↔ Reaches refs c ∨ Reaches more c := by
  simp only [Reaches, List.mem_append]
  constructor
  · rintro ⟨r, hr | hr, hc⟩
    · exact Or.inl ⟨r, hr, hc⟩
    · exact Or.inr ⟨r, hr, hc⟩
  · rintro (⟨r, hr, hc⟩ | ⟨r, hr, hc⟩)
    · exact ⟨r, Or.inl hr, hc⟩
    · exact ⟨r, Or.inr hr, hc⟩

@[simp] theorem reaches_cons (r : List String) (refs : List (List String)) (c : List String) :
    Reaches (r :: refs) c ↔ c <+: aliasPath r ∨ Reaches refs c := by
  simp [Reaches]

@[simp] theorem reaches_singleton (r c : List String) : Reaches [r] c ↔ c <+: aliasPath r := by
  simp [Reaches]

variable {reg : Registry} {model : String}

/-- Resolving a dotted path from the root adds the prefixes of its alias path. -/
theorem resolve_spec (dotted : String) (S : List String → Prop) :
    Triple (fun w => Tracks reg model S w.tree) (resolve reg 0 dotted)
      (fun n w => Tracks reg model (fun c => S c ∨ c <+: aliasPath (dottedSegments dotted)) w.tree ∧
        n < w.tree.length ∧ w.tree.aliasChain n = aliasPath (dottedSegments dotted)) := by
  rw [resolve_eq]
  exact resolveSegments_spec (dottedSegments dotted) S

/-- A loop whose element `x` adds the prefixes of the alias path of `ref x` adds those of all
its elements. -/
theorem forM_reaches {β : Type} {f : β → Build PUnit} (ref : β → List String)
    (hstep : ∀ x (S : List String → Prop), Triple (fun w => Tracks reg model S w.tree) (f x)
      (fun _ w => Tracks reg model (fun c => S c ∨ c <+: aliasPath (ref x)) w.tree))
    (xs : List β) (S : List String → Prop) :
    Triple (fun w => Tracks reg model S w.tree) (xs.forM f)
      (fun _ w => Tracks reg model (fun c => S c ∨ Reaches (xs.map ref) c) w.tree) := by
  have hloop := Triple.forM (f := f)
    (fun pre w => Tracks reg model (fun c => S c ∨ Reaches (pre.map ref) c) w.tree)
    (fun pre x => Triple.conseq (hstep x _) (fun w h => h) fun _ w h => h.congr fun c => by
      simp [or_assoc]) xs []
  exact Triple.conseq hloop (fun w h => h.congr fun c => by simp) fun _ w h => h

/-- The paths of an `include` value: its comma-separated entries, trimmed. -/
def includeRefs (value : String) : List (List String) :=
  (Text.split (stripBrackets value) ',').map fun path => dottedSegments (Text.trim path)

theorem includePaths_spec (tr : Translator) (value : String) (S : List String → Prop) :
    Triple (fun w => Tracks tr.registry model S w.tree) (tr.includePaths value)
      (fun _ w => Tracks tr.registry model (fun c => S c ∨ Reaches (includeRefs value) c) w.tree) := by
  refine forM_reaches (fun path => dottedSegments (Text.trim path)) (fun path S' => ?_) _ S
  show Triple _ ((fun _ => PUnit.unit) <$> resolve tr.registry 0 (Text.trim path)) _
  exact Triple.conseq (Triple.map (resolve_spec (Text.trim path) S')) (fun w h => h)
    fun _ w ⟨_, _, h, _⟩ => h

/-- The path of a group of `attributes`: its first comma-separated field, trimmed. -/
def attributePath (group : String) : String :=
  Text.trim ((Text.split group ',').headD "")

/-- The paths of an `attributes` value, one per group. -/
def attributeRefs (value : String) : List (List String) :=
  (GroupList.split value).map fun group => dottedSegments (attributePath group)

theorem projectGroup_spec (group : String) (S : List String → Prop) :
    Triple (fun w => Tracks reg model S w.tree) (projectGroup reg group)
      (fun _ w => Tracks reg model
        (fun c => S c ∨ c <+: aliasPath (dottedSegments (attributePath group))) w.tree) := by
  let S' := fun c => S c ∨ c <+: aliasPath (dottedSegments (attributePath group))
  unfold projectGroup
  refine Triple.bind (Triple.liftExcept _) fun columns => ?_
  refine Triple.bind (Triple.conseq (resolve_spec (attributePath group) S) (fun w h => h.1)
    fun n w h => h) fun node => ?_
  refine Triple.bind (Triple.conseq (Triple.note _ (fun t => Tracks reg model S' t ∧ node < t.length))
    (fun w h => ⟨h.1, h.2.1⟩) fun _ w h => h) fun _ => ?_
  refine Triple.conseq (Triple.updateTree _ (Tracks reg model S')) (fun w h => ?_) fun _ w h => h
  -- projecting columns changes no alias, parent or path, so the chains stay as they are
  obtain ⟨⟨hwf, hS⟩, hnode⟩ := h
  refine ⟨hwf.modify hnode fun n => ⟨rfl, rfl, rfl, rfl, rfl⟩, fun c => ?_⟩
  exact (hasChain_modify hwf.parents_below hnode
    (f := fun n => { n with attributes := some (n.attributes.getD [] ++ columns) })
    (fun n => ⟨rfl, rfl⟩) c).trans (hS c)


theorem parseAttributes_spec (value : String) (S : List String → Prop) :
    Triple (fun w => Tracks reg model S w.tree) (parseAttributes reg value)
      (fun _ w => Tracks reg model (fun c => S c ∨ Reaches (attributeRefs value) c) w.tree) :=
  forM_reaches (fun group => dottedSegments (attributePath group)) (fun group S' => projectGroup_spec group S')
    (GroupList.split value) S

/-- The path of a group of `order`: the segments of the reference before its first comma. -/
def orderPath (group : String) : List String :=
  (Reference.parse ((Text.splitOnce group ',').getD (group, "")).1).path

/-- The paths of an `order` value, one per group. -/
def orderRefs (value : String) : List (List String) :=
  (GroupList.split value).map orderPath

theorem orderEntry_spec (group : String) (S : List String → Prop) :
    Triple (fun w => Tracks reg model S w.tree) (orderEntry reg group)
      (fun e w => Tracks reg model (fun c => S c ∨ c <+: aliasPath (orderPath group)) w.tree ∧
        e.path = aliasPath (orderPath group)) := by
  unfold orderEntry
  split
  rename_i reference direction hsplit
  have hpath : orderPath group = (Reference.parse reference).path := by
    simp [orderPath, hsplit]
  rw [hpath]
  dsimp only
  refine Triple.check fun _ => ?_
  refine Triple.bind (resolveSegments_spec _ S) fun node => ?_
  refine Triple.bind (chainOf_spec node) fun path => ?_
  refine Triple.bind (Triple.liftExcept _) fun d => ?_
  refine Triple.pure _ fun w h => ?_
  obtain ⟨⟨⟨hT, _, hchain⟩, hpath⟩, _⟩ := h
  exact ⟨hT, by rw [hpath, hchain]⟩

/-- The entries come in the order of their groups, each on the alias path of its group. -/
theorem parseOrder_spec (value : String) (S : List String → Prop) :
    Triple (fun w => Tracks reg model S w.tree) (parseOrder reg value)
      (fun es w => Tracks reg model (fun c => S c ∨ Reaches (orderRefs value) c) w.tree ∧
        List.Forall₂ (fun group e => e.path = aliasPath (orderPath group)) (GroupList.split value) es) := by
  have hloop := Triple.mapM (f := orderEntry reg)
    (fun pre w => Tracks reg model (fun c => S c ∨ Reaches (pre.map orderPath) c) w.tree)
    (fun group e => e.path = aliasPath (orderPath group))
    (fun pre group => Triple.conseq (orderEntry_spec group _) (fun w h => h)
      fun e w h => ⟨h.1.congr fun c => by simp [or_assoc], h.2⟩) (GroupList.split value) []
  exact Triple.conseq hloop (fun w h => h.congr fun c => by simp) fun es w h => h


/-- The condition a clause stands for: the clause on the alias path of its own path. -/
def clauseEntry (c : Filter.Clause) : Filter.Connective × Condition :=
  (c.connective, { path := aliasPath c.path, column := c.column, operator := c.operator, value := c.value })

/-- The filter a list of clauses stands for: their conditions folded into groups, nested when
some clause has a path. -/
def filterOfClauses (clauses : List Filter.Clause) : ParsedFilter :=
  { filter := FilterTree.fold (clauses.map clauseEntry), nested := clauses.any fun c => !c.path.isEmpty }

/-- The filter of a `where` value, none when it is malformed. -/
def filterOf (value : String) : Option ParsedFilter :=
  match Filter.parse (stripWrapper value) with
  | .ok clauses => some (filterOfClauses clauses)
  | .error _ => none

/-- The paths of a `where` value: those of its clauses, none when it is malformed. -/
def filterRefs (value : String) : List (List String) :=
  match Filter.parse (stripWrapper value) with
  | .ok clauses => clauses.map (·.path)
  | .error _ => []

theorem Tracks.nil {S : List String → Prop} {t : IncludeTree} (h : Tracks reg model S t) : S [] :=
  (h.2 []).mp ⟨0, h.1.length_pos, IncludeTree.aliasChain_root _⟩

theorem conditionOf_spec (c : Filter.Clause) (S : List String → Prop) :
    Triple (fun w => Tracks reg model S w.tree) (conditionOf reg c)
      (fun e w => Tracks reg model (fun x => S x ∨ x <+: aliasPath c.path) w.tree ∧
        e = clauseEntry c) := by
  unfold conditionOf
  dsimp only
  split
  · -- a clause on the root: nothing is resolved, and the root already has the empty chain
    rename_i hempty
    have hnil : c.path = [] := List.isEmpty_iff.mp hempty
    refine Triple.bind (Triple.pure (Q := fun path w => Tracks reg model S w.tree ∧ path = []) []
      fun w h => ⟨h, rfl⟩) fun path => Triple.pure _ ?_
    rintro w ⟨hT, rfl⟩
    refine ⟨hT.congr fun x => ?_, by rw [clauseEntry, hnil]; rfl⟩
    rw [hnil, aliasPath_nil, List.prefix_nil]
    constructor
    · exact Or.inl
    · rintro (hx | rfl)
      · exact hx
      · exact hT.nil
  · refine Triple.bind (resolveSegments_spec c.path S) fun node =>
      Triple.bind (chainOf_spec node) fun path => Triple.pure _ ?_
    rintro w ⟨⟨hT, _, hchain⟩, rfl⟩
    exact ⟨hT, by rw [hchain]; rfl⟩

theorem chainOf_raises {E : RequestError → Prop} (n : NodeId) : Raises E (chainOf n) := by
  intro w e w' hrun
  cases hrun

theorem conditionOf_raises (c : Filter.Clause) : Raises UnknownPath (conditionOf reg c) := by
  unfold conditionOf
  dsimp only
  split
  · exact Raises.bind (Raises.pure _) fun path => Raises.pure _
  · exact Raises.bind (resolveSegments_raises 0 c.path) fun node =>
      Raises.bind (chainOf_raises node) fun path => Raises.pure _

theorem parseWhere_spec (input : String) (S : List String → Prop) :
    Triple (fun w => Tracks reg model S w.tree) (parseWhere reg input)
      (fun f w => ∃ clauses, Filter.parse input = .ok clauses ∧
        Tracks reg model (fun x => S x ∨ Reaches (clauses.map (·.path)) x) w.tree ∧
        f = filterOfClauses clauses) := by
  unfold parseWhere
  refine Triple.bind (Q := fun clauses w => Tracks reg model S w.tree ∧ Filter.parse input = .ok clauses)
    (Triple.conseq (Triple.liftExcept _) (fun w h => h) fun clauses w h => ⟨h.1, ?_⟩) fun clauses => ?_
  · cases hp : Filter.parse input <;> simp_all [Except.mapError]
  refine Triple.bind (Triple.note _ (fun t => Tracks reg model S t ∧ Filter.parse input = .ok clauses))
    fun _ => ?_
  -- each clause adds the prefixes of its alias path and becomes its own condition
  have hloop := Triple.mapM (f := conditionOf reg)
    (fun pre w => Tracks reg model (fun x => S x ∨ Reaches (pre.map (·.path)) x) w.tree ∧
      Filter.parse input = .ok clauses)
    (fun c e => clauseEntry c = e)
    (fun pre c => Triple.conseq (Triple.frame (conditionOf_spec c _)) (fun w h => h)
      fun e w h => ⟨⟨h.1.1.congr fun x => by simp [or_assoc], h.2⟩, h.1.2.symm⟩) clauses []
  refine Triple.bind (Triple.conseq hloop (fun w h => ⟨h.1.congr fun x => by simp, h.2⟩)
    fun es w h => h) fun entries => ?_
  refine Triple.pure _ fun w h => ?_
  obtain ⟨⟨hT, hparse⟩, hents⟩ := h
  have hmap : clauses.map clauseEntry = entries := by
    rw [← List.forall₂_eq_eq_eq]
    exact List.forall₂_map_left_iff.mpr hents
  refine ⟨clauses, hparse, by simpa using hT, ?_⟩
  subst hmap
  simp [filterOfClauses, clauseEntry, aliasPath, List.any_map, Function.comp_def]

/-- A filter fails as malformed only when its text does not parse, and then before any path is
resolved. -/
theorem parseWhere_run_malformed {input : String} {w w' : Workspace} {m : Filter.Malformed}
    (h : (parseWhere reg input).run w = (.error (.malformedFilter m), w')) :
    Filter.parse input = .error m ∧ w'.tree = w.tree := by
  unfold parseWhere at h
  rw [Build.run_bind, Build.run_liftExcept] at h
  cases hp : Filter.parse input with
  | error m' =>
    simp only [hp, Except.mapError, Prod.mk.injEq, Except.error.injEq,
      RequestError.malformedFilter.injEq] at h
    obtain ⟨rfl, rfl⟩ := h
    exact ⟨rfl, rfl⟩
  | ok clauses =>
    -- past the parse, only resolving can fail, and it reports an unknown path
    simp only [hp, Except.mapError] at h
    rw [Build.run_bind, Build.run_note] at h
    obtain ⟨_, _, he⟩ := Raises.bind (Raises.sequential.mapM conditionOf_raises clauses)
      (fun es => Raises.pure _) _ _ _ h
    cases he

theorem readFilter_spec (tr : Translator) (value : String) (S : List String → Prop) :
    Triple (fun w => Tracks tr.registry model S w.tree) (tr.readFilter value)
      (fun f w => Tracks tr.registry model (fun x => S x ∨ Reaches (filterRefs value) x) w.tree ∧
        f = filterOf value) := by
  intro w hw f w' hrun
  unfold Translator.readFilter at hrun
  rw [Build.run_tryCatch, Build.run_map] at hrun
  rcases hx : (parseWhere tr.registry (stripWrapper value)).run w with ⟨e | pf, w₁⟩
  · rw [hx] at hrun
    dsimp only at hrun
    split at hrun
    · -- a malformed filter is dropped, and it left the tree as it was
      rename_i m
      obtain ⟨hparse, htree⟩ := parseWhere_run_malformed hx
      split at hrun
      · rw [Build.run_throw] at hrun
        cases hrun
      · rw [Build.run_bind, Build.run_note] at hrun
        cases hrun
        refine ⟨?_, by simp [filterOf, hparse]⟩
        show Tracks _ _ _ w₁.tree
        rw [htree]
        exact hw.congr fun x => by simp [filterRefs, hparse]
    · rw [Build.run_throw] at hrun
      cases hrun
  · rw [hx] at hrun
    simp only [Prod.mk.injEq, Except.ok.injEq] at hrun
    obtain ⟨rfl, rfl⟩ := hrun
    obtain ⟨clauses, hparse, hT, rfl⟩ := parseWhere_spec _ S w hw pf w₁ hx
    exact ⟨hT.congr fun x => by simp [filterRefs, hparse], by simp [filterOf, hparse]⟩

/-- The path of a group field of the aggregate, none when the field is empty. -/
def groupRefs (g : String) : List (List String) :=
  if g = "" then [] else [(Reference.parse g).path]

/-- The grouping a group field stands for, on the alias path of its reference. -/
def groupOf (g : String) : Option GroupBy :=
  if g = "" then none
  else some { path := aliasPath (Reference.parse g).path, column := Naming.columnCase (Reference.parse g).column }

theorem parseGroup_spec (g : String) (S : List String → Prop) :
    Triple (fun w => Tracks reg model S w.tree) (parseGroup reg g)
      (fun grp w => Tracks reg model (fun x => S x ∨ Reaches (groupRefs g) x) w.tree ∧
        grp = groupOf g) := by
  unfold parseGroup
  split
  · exact Triple.pure none fun w h => ⟨h.congr fun x => by simp [groupRefs], by simp [groupOf]⟩
  · rename_i hne
    have hne : g ≠ "" := hne
    dsimp only
    refine Triple.check fun _ => ?_
    refine Triple.bind (resolveSegments_spec _ S) fun node =>
      Triple.bind (chainOf_spec node) fun path => Triple.pure _ ?_
    rintro w ⟨⟨hT, _, hchain⟩, rfl⟩
    exact ⟨hT.congr fun x => by simp [groupRefs, hne], by simp [groupOf, hne, hchain]⟩

/-- The fields of an aggregate value, trimmed. -/
def aggregateFields (input : String) : List String :=
  (Text.split input ',').map Text.trim

/-- The paths of the fields of an aggregate: that of its source, then that of its group, if
any. -/
def aggregateRefs (fields : List String) : List (List String) :=
  (Reference.parse (fields.getD 0 "")).path :: groupRefs (fields.getD 3 "")

/-- The aggregate the fields of an aggregate value stand for: the function in upper case, the
source column on the alias path of its reference. -/
def aggregateOf (fields : List String) (distinct : Bool) : Aggregate :=
  { function := (fields.getD 1 "").map Char.toUpper,
    sourcePath := aliasPath (Reference.parse (fields.getD 0 "")).path,
    sourceColumn := Naming.columnCase (Reference.parse (fields.getD 0 "")).column,
    aliasName := fields.getD 2 "", distinct }

/-- What an aggregate read from its fields is: its function is an identifier, and it is the
aggregate and group the fields stand for. -/
def AggregateRead (fields : List String) (r : Aggregate × Option GroupBy) : Prop :=
  isIdentifier (fields.getD 1 "") = true ∧
    ∃ distinct, parseFlag (fields.getD 4 "") = .ok distinct ∧
      r = (aggregateOf fields distinct, groupOf (fields.getD 3 ""))

theorem parseAggregate_spec (input : String) (S : List String → Prop) :
    Triple (fun w => Tracks reg model S w.tree) (parseAggregate reg input)
      (fun r w => Tracks reg model (fun x => S x ∨ Reaches (aggregateRefs (aggregateFields input)) x)
          w.tree ∧ AggregateRead (aggregateFields input) r) := by
  unfold parseAggregate
  rw [show (Text.split input ',').map Text.trim = aggregateFields input from rfl]
  generalize aggregateFields input = fields
  dsimp only
  refine Triple.check fun _ => Triple.check fun _ => Triple.check fun hfun => Triple.check fun _ => ?_
  refine Triple.bind (Triple.liftExcept _) fun distinct => ?_
  refine Triple.bind (Triple.frame (resolveSegments_spec _ S)) fun node => ?_
  refine Triple.bind (Q := fun path w => Tracks reg model
      (fun x => S x ∨ x <+: aliasPath (Reference.parse (fields.getD 0 "")).path) w.tree ∧
      parseFlag (fields.getD 4 "") = .ok distinct ∧ path = aliasPath (Reference.parse (fields.getD 0 "")).path)
    (Triple.conseq (chainOf_spec node) (fun w h => h) ?_) fun path => ?_
  · rintro path w ⟨⟨⟨hT, _, hchain⟩, hflag⟩, rfl⟩
    exact ⟨hT, hflag, hchain⟩
  refine Triple.bind (Triple.frame (parseGroup_spec _ _)) fun grp => ?_
  refine Triple.bind (Triple.note _ (fun t => (Tracks reg model _ t ∧ _) ∧ _)) fun _ => Triple.pure _ ?_
  rintro w ⟨⟨hT, hgrp⟩, hflag, hpath⟩
  refine ⟨hT.congr fun x => ?_, ?_, distinct, hflag, ?_⟩
  · simp only [aggregateRefs, reaches_cons, or_assoc]
  · simpa only [Bool.not_eq_true, Bool.not_eq_false'] using hfun
  · rw [hgrp, hpath]
    rfl

end Request
end RestQuery
