import RestQuery.Schema.Config
import Mathlib.Data.List.Nodup

/-!
# Lookups in a registry

Checking a list of models looks for a repeated name first, in list order, and
only then for a relation whose target is not among the names; the registry
it makes holds the list as given.

A lookup by name returns the first model of the registry with that name, so
whatever it finds is registered under the name it was looked up by.  A
registry that `Registry.ofModels` accepted holds the models it was given and
every relation of each targets a registered model; a relation found on a
registered model therefore leads to a model that a lookup finds again.

**Results.**
* `Registry.get_eq_some`: a lookup returns a registered model of that name.
* `Registry.targetsRegistered_of_ofModels`: every relation of an accepted
  registry targets a registered model.
* `Registry.TargetsRegistered.target`: so does the relation of any model a
  lookup finds.
* `Registry.firstDuplicate_eq_some_iff`: the duplicate search reports the
  first model whose name was seen before it.
* `Registry.ofModels_checks`: what checking a list of models answers, for
  every list: which lists make a registry, which error each other list gets,
  and the lookups of the registry made.
-/

namespace RestQuery
namespace Schema

theorem Model.relation_eq_some {m : Model} {a : String} {r : Relation} (h : m.relation a = some r) :
    r ∈ m.relations ∧ r.aliasName = a := by
  unfold Model.relation at h
  exact ⟨List.mem_of_find?_eq_some h, by simpa using List.find?_some h⟩

namespace Registry

theorem get_eq_some {reg : Registry} {name : String} {m : Model} (h : reg.get name = some m) :
    m ∈ reg.models ∧ m.name = name := by
  unfold get at h
  exact ⟨List.mem_of_find?_eq_some h, by simpa using List.find?_some h⟩

theorem get_of_mem {reg : Registry} {m : Model} (h : m ∈ reg.models) :
    ∃ m', reg.get m.name = some m' := by
  unfold get
  cases hf : reg.models.find? (fun x => x.name == m.name) with
  | none => exact absurd (List.find?_eq_none.mp hf m h) (by simp)
  | some m' => exact ⟨m', rfl⟩

/-- The model a route names is registered under its own name. -/
theorem modelForRoute_eq_ok {reg : Registry} {route : String} {m : Model}
    (h : reg.modelForRoute route = .ok m) : reg.get m.name = some m := by
  unfold modelForRoute at h
  dsimp only at h
  split at h
  · rename_i m' hget
    cases h
    rw [(get_eq_some hget).2]
    exact hget
  · cases h

/-- Every relation of every model of a registry targets a registered model. -/
def TargetsRegistered (reg : Registry) : Prop :=
  ∀ m ∈ reg.models, ∀ r ∈ m.relations, ∃ t, reg.get r.target = some t

theorem firstUnknownTarget_eq_none {names : List String} {ms : List Model}
    (h : firstUnknownTarget names ms = none) : ∀ m ∈ ms, ∀ r ∈ m.relations, r.target ∈ names := by
  intro m hm r hr
  unfold firstUnknownTarget at h
  have hm' := List.findSome?_eq_none_iff.mp h m hm
  rw [Option.map_eq_none_iff, List.find?_eq_none] at hm'
  simpa using hm' r hr

theorem targetsRegistered_of_ofModels {ms : List Model} {reg : Registry} (h : ofModels ms = .ok reg) :
    reg.TargetsRegistered := by
  unfold ofModels at h
  split at h
  · cases h
  · split at h
    · cases h
    · rename_i hnone
      cases h
      intro m hm r hr
      obtain ⟨m', hm', hname⟩ := List.mem_map.mp (firstUnknownTarget_eq_none hnone m hm r hr)
      rw [← hname]
      exact get_of_mem hm'

theorem TargetsRegistered.target {reg : Registry} (hreg : reg.TargetsRegistered) {name a : String}
    {m : Model} {r : Relation} (hm : reg.get name = some m) (hr : m.relation a = some r) :
    ∃ t, reg.get r.target = some t :=
  hreg m (get_eq_some hm).1 r (Model.relation_eq_some hr).1

/-! ## Checking a list of models -/

/-- `n` is the name of the first model of `ms` whose name an earlier model already has: the
models before it have pairwise distinct names, and one of them is named `n`. -/
def FirstRepeat (ms : List Model) (n : String) : Prop :=
  ∃ pre m post, ms = pre ++ m :: post ∧ (pre.map Model.name).Nodup ∧ m.name ∈ pre.map Model.name ∧
    m.name = n

/-- Every relation of every model of `ms` targets the name of a model of `ms`. -/
def TargetsKnown (ms : List Model) : Prop :=
  ∀ m ∈ ms, ∀ r ∈ m.relations, r.target ∈ ms.map Model.name

/-- The model named `model` of `ms` has a relation `aliasName` whose target no model of `ms`
has as its name. -/
def UnknownTarget (ms : List Model) (model aliasName target : String) : Prop :=
  ∃ m ∈ ms, ∃ r ∈ m.relations, m.name = model ∧ r.aliasName = aliasName ∧ r.target = target ∧
    target ∉ ms.map Model.name

/-- The duplicate search finds nothing exactly when the names of the models, together with
those already seen, are pairwise distinct. -/
theorem firstDuplicate_eq_none_iff {seen : List String} (hseen : seen.Nodup) (ms : List Model) :
    firstDuplicate seen ms = none ↔ (ms.map Model.name ++ seen).Nodup := by
  induction ms generalizing seen with
  | nil => simpa [firstDuplicate] using hseen
  | cons m ms ih =>
    by_cases hm : m.name ∈ seen
    · simp [firstDuplicate, hm]
    · rw [firstDuplicate, if_neg (by simpa using hm), ih (List.nodup_cons.mpr ⟨hm, hseen⟩),
        List.map_cons, List.cons_append, List.nodup_middle]

/-- The duplicate search reports the first model whose name is among those seen or those of
the models before it. -/
theorem firstDuplicate_eq_some_iff {seen : List String} (hseen : seen.Nodup) (ms : List Model)
    (n : String) :
    firstDuplicate seen ms = some n ↔
      ∃ pre m post, ms = pre ++ m :: post ∧ (pre.map Model.name ++ seen).Nodup ∧
        m.name ∈ pre.map Model.name ++ seen ∧ m.name = n := by
  induction ms generalizing seen with
  | nil => simp [firstDuplicate]
  | cons m ms ih =>
    by_cases hm : m.name ∈ seen
    · -- the model itself repeats a seen name; no longer prefix can have distinct names
      rw [firstDuplicate, if_pos (by simpa using hm), Option.some.injEq]
      constructor
      · rintro rfl
        exact ⟨[], m, ms, rfl, hseen, hm, rfl⟩
      · rintro ⟨_ | ⟨x, pre⟩, m', post, heq, hnd, _, rfl⟩
        · obtain ⟨rfl, -⟩ := List.cons.inj heq
          rfl
        · obtain ⟨rfl, -⟩ := List.cons.inj heq
          simp only [List.map_cons, List.cons_append, List.nodup_cons, List.mem_append] at hnd
          exact absurd (Or.inr hm) hnd.1
    · rw [firstDuplicate, if_neg (by simpa using hm), ih (List.nodup_cons.mpr ⟨hm, hseen⟩)]
      constructor
      · rintro ⟨pre, m', post, rfl, hnd, hmem, rfl⟩
        refine ⟨m :: pre, m', post, rfl, ?_, ?_, rfl⟩
        · rwa [List.map_cons, List.cons_append, ← List.nodup_middle]
        · simpa [or_left_comm] using hmem
      · rintro ⟨_ | ⟨x, pre⟩, m', post, heq, hnd, hmem, rfl⟩
        · obtain ⟨rfl, -⟩ := List.cons.inj heq
          exact absurd (by simpa using hmem) hm
        · obtain ⟨rfl, rfl⟩ := List.cons.inj heq
          refine ⟨pre, m', post, rfl, ?_, ?_, rfl⟩
          · rwa [List.nodup_middle, ← List.cons_append, ← List.map_cons]
          · simpa [or_left_comm] using hmem

theorem firstRepeat_iff (ms : List Model) (n : String) :
    FirstRepeat ms n ↔ firstDuplicate [] ms = some n := by
  simp [firstDuplicate_eq_some_iff List.nodup_nil, FirstRepeat]

theorem firstUnknownTarget_eq_none_iff {names : List String} {ms : List Model} :
    firstUnknownTarget names ms = none ↔ ∀ m ∈ ms, ∀ r ∈ m.relations, r.target ∈ names := by
  refine ⟨firstUnknownTarget_eq_none, fun h => ?_⟩
  unfold firstUnknownTarget
  refine List.findSome?_eq_none_iff.mpr fun m hm => ?_
  rw [Option.map_eq_none_iff, List.find?_eq_none]
  simpa using h m hm

theorem firstUnknownTarget_eq_some {names : List String} {ms : List Model} {m : Model}
    {r : Relation} (h : firstUnknownTarget names ms = some (m, r)) :
    m ∈ ms ∧ r ∈ m.relations ∧ r.target ∉ names := by
  unfold firstUnknownTarget at h
  obtain ⟨m', hm', hfound⟩ := List.exists_of_findSome?_eq_some h
  obtain ⟨r', hr', hpair⟩ := Option.map_eq_some_iff.mp hfound
  cases hpair
  exact ⟨hm', List.mem_of_find?_eq_some hr', by simpa using List.find?_some hr'⟩

/-- Among models with distinct names, the lookup by a name finds exactly the model with it. -/
theorem find?_name_eq_some_iff {ms : List Model} (hnd : (ms.map Model.name).Nodup) (n : String)
    (m : Model) : ms.find? (fun x => x.name == n) = some m ↔ m ∈ ms ∧ m.name = n := by
  constructor
  · intro h
    exact ⟨List.mem_of_find?_eq_some h, by simpa using List.find?_some h⟩
  · rintro ⟨hm, rfl⟩
    cases hf : ms.find? (fun x => x.name == m.name) with
    | none => exact absurd (List.find?_eq_none.mp hf m hm) (by simp)
    | some m' =>
      have hname : m'.name = m.name := by simpa using List.find?_some hf
      rw [List.inj_on_of_nodup_map hnd (List.mem_of_find?_eq_some hf) hm hname]

/-- What checking models can answer: the first repeated name; with none, the first relation to an
unknown model; with neither, the registry of the models. -/
theorem ofModels_cases (ms : List Model) :
    (∃ n, firstDuplicate [] ms = some n ∧ ofModels ms = .error (.duplicateModel n)) ∨
    ((ms.map Model.name).Nodup ∧ ∃ m a t, UnknownTarget ms m a t ∧
      ofModels ms = .error (.unknownRelationTarget m a t)) ∨
    ((ms.map Model.name).Nodup ∧ TargetsKnown ms ∧ ofModels ms = .ok ⟨ms⟩) := by
  have hdup := firstDuplicate_eq_none_iff List.nodup_nil ms
  rw [List.append_nil] at hdup
  unfold ofModels
  cases hfd : firstDuplicate [] ms with
  | some n => exact .inl ⟨n, rfl, rfl⟩
  | none =>
    cases hfu : firstUnknownTarget (ms.map Model.name) ms with
    | some mr =>
      obtain ⟨m, r⟩ := mr
      obtain ⟨hm, hr, hunknown⟩ := firstUnknownTarget_eq_some hfu
      exact .inr (.inl ⟨hdup.mp hfd, _, _, _, ⟨m, hm, r, hr, rfl, rfl, rfl, hunknown⟩, rfl⟩)
    | none => exact .inr (.inr ⟨hdup.mp hfd, firstUnknownTarget_eq_none_iff.mp hfu, rfl⟩)

/-- Distinct names leave no repeated name to report. -/
theorem firstDuplicate_of_nodup {ms : List Model} (hnd : (ms.map Model.name).Nodup) :
    firstDuplicate [] ms = none := by
  simpa using (firstDuplicate_eq_none_iff List.nodup_nil ms).mpr (by simpa using hnd)

theorem ofModels_eq_ok_iff {ms : List Model} {reg : Registry} :
    ofModels ms = .ok reg ↔ (ms.map Model.name).Nodup ∧ TargetsKnown ms ∧ reg = ⟨ms⟩ := by
  rcases ofModels_cases ms with ⟨n, hfd, he⟩ | ⟨-, _, _, _, ⟨m, hm, r, hr, -, -, rfl, hunknown⟩, he⟩ |
    ⟨hnd, hknown, he⟩
  · -- a repeated name
    rw [he]
    simp only [reduceCtorEq, false_iff, not_and]
    intro hnd
    rw [firstDuplicate_of_nodup hnd] at hfd
    cases hfd
  · -- a relation to an unknown model
    rw [he]
    simp only [reduceCtorEq, false_iff, not_and]
    exact fun _ hk => absurd (hk m hm r hr) hunknown
  · rw [he, Except.ok.injEq]
    exact ⟨fun h => ⟨hnd, hknown, h.symm⟩, fun ⟨_, _, h⟩ => h.symm⟩

/-- **Checking models.**  A list of models makes a registry exactly when no name repeats and
every relation targets one of the models.  A repeated name is reported first, whatever the
relations: the error names the first model whose name an earlier model has.  With distinct
names, a relation to an unknown model is reported, naming its model, alias and target.  The
registry made holds one model per name given, and a lookup by a name finds the model with it.
A configuration's registry is this check on its models, with its errors wrapped. -/
theorem ofModels_checks (ms : List Model) :
    ((∃ reg, ofModels ms = .ok reg) ↔ (ms.map Model.name).Nodup ∧ TargetsKnown ms) ∧
    (∀ n, ofModels ms = .error (.duplicateModel n) ↔ FirstRepeat ms n) ∧
    ((ms.map Model.name).Nodup → ¬ TargetsKnown ms →
      ∃ m a t, ofModels ms = .error (.unknownRelationTarget m a t) ∧ UnknownTarget ms m a t) ∧
    (∀ m a t, ofModels ms = .error (.unknownRelationTarget m a t) →
      (ms.map Model.name).Nodup ∧ UnknownTarget ms m a t) ∧
    ∀ reg, ofModels ms = .ok reg →
      reg.length = ms.length ∧ ∀ n m, reg.get n = some m ↔ m ∈ ms ∧ m.name = n := by
  refine ⟨by simp [ofModels_eq_ok_iff], fun n => ?_, fun hnd hnot => ?_, fun mn a t he => ?_,
    fun reg hreg => ?_⟩
  · -- a repeated name is reported exactly when there is one
    rw [firstRepeat_iff]
    rcases ofModels_cases ms with ⟨n', hfd, he⟩ | ⟨hnd, _, _, _, -, he⟩ | ⟨hnd, -, he⟩
    · rw [he, hfd]
      simp [eq_comm]
    · simp [he, firstDuplicate_of_nodup hnd]
    · simp [he, firstDuplicate_of_nodup hnd]
  · -- with distinct names, a relation to an unknown model is reported
    rcases ofModels_cases ms with ⟨n, hfd, -⟩ | ⟨-, m, a, t, hunknown, he⟩ | ⟨-, hknown, -⟩
    · rw [firstDuplicate_of_nodup hnd] at hfd
      cases hfd
    · exact ⟨m, a, t, he, hunknown⟩
    · exact absurd hknown hnot
  · -- what such a report names
    rcases ofModels_cases ms with ⟨n, -, he'⟩ | ⟨hnd, m, a', t', hunknown, he'⟩ | ⟨-, -, he'⟩
    · rw [he'] at he
      cases he
    · rw [he', Except.error.injEq, RegistryError.unknownRelationTarget.injEq] at he
      obtain ⟨rfl, rfl, rfl⟩ := he
      exact ⟨hnd, hunknown⟩
    · rw [he'] at he
      cases he
  · obtain ⟨hnd, -, rfl⟩ := ofModels_eq_ok_iff.mp hreg
    exact ⟨rfl, find?_name_eq_some_iff hnd⟩

/-- A name given twice is refused, though a relation of the first model targets no model. -/
example :
    ofModels [⟨"Orders", "orders", none, [ServiceConfig.rel "Coupons" "Coupons" .hasMany "id" "order_id"]⟩,
      ⟨"Orders", "orders_v2", none, []⟩] = .error (.duplicateModel "Orders") := by
  rfl

end Registry

end Schema
end RestQuery
