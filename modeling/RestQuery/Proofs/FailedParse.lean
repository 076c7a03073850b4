import RestQuery.Proofs.CompileErrors
import RestQuery.Proofs.DroppedFilter

/-!
# What a failed parser leaves in the tree

The parsers of `where`, `attributes`, the aggregate and `order` all grow
the one include tree, and a parser that fails keeps what it had joined
before the fault.  Where each fault is found decides what that is.

* A filter text is read as a whole before any path is resolved, so a
  malformed filter leaves the tree as it was.
* A group of `attributes` checks its columns before it resolves its path, so
  a malformed group leaves the tree as the groups before it left it.
* The aggregate checks its field count, its source column, its function,
  its alias and its flag before it resolves the source path; but the group
  field is checked when it is processed, after the source path has been
  resolved, so a missing group column leaves the source's joins in the tree.
* A group of `order` checks its column before it resolves its path, but
  reads its direction afterwards, so a bad direction leaves the joins of
  the failing group's own path in the tree.

Every other failure is an unknown path, raised while resolving.  The proofs
go one bind at a time through `Build.bind_run_error`, and through the loops
over groups by `Build.forM_run_error` and `Build.mapM_run_error`, which find
the group that failed after those before it ran to their end.

**Results.**
* `parseWhere_run_error`, `parseAttributes_run_error`,
  `parseAggregate_run_error`, `parseOrder_run_error`: how each parser can
  fail, and the tree it then leaves.
* `failedParse_tree`: all four together.
* `shop_orderDirectionJoin`: an order group with a bad direction leaves the
  join of its path behind, though no group was processed to its end.
-/

namespace RestQuery
namespace Request

open Plan Schema

section Run

variable {α β : Type} {w w' : Workspace} {e : RequestError}

/-- A sequence that fails either failed in its first step or in the rest, after the first step
succeeded. -/
theorem Build.bind_run_error {x : Build α} {f : α → Build β} (h : (x >>= f).run w = (.error e, w')) :
    x.run w = (.error e, w') ∨ ∃ a w₁, x.run w = (.ok a, w₁) ∧ (f a).run w₁ = (.error e, w') := by
  rw [Build.run_bind] at h
  rcases hx : x.run w with ⟨_ | a, w₁⟩
  · rw [hx] at h
    simp only [Prod.mk.injEq, Except.error.injEq] at h
    obtain ⟨rfl, rfl⟩ := h
    exact .inl rfl
  · rw [hx] at h
    exact .inr ⟨a, w₁, rfl, h⟩

/-- A loop that fails, fails at one element, after those before it ran to their end. -/
theorem Build.forM_run_error {f : β → Build PUnit} :
    ∀ (xs : List β) (w w' : Workspace) (e : RequestError), (xs.forM f).run w = (.error e, w') →
      ∃ pre x post w₀, xs = pre ++ x :: post ∧ (pre.forM f).run w = (.ok (), w₀) ∧
        (f x).run w₀ = (.error e, w')
  | [], w, w', e, h => by cases h
  | x :: xs, w, w', e, h => by
    rw [List.forM_eq_forM, List.forM_cons] at h
    rcases Build.bind_run_error h with hx | ⟨_, w₁, hx, hrest⟩
    · exact ⟨[], x, xs, w, rfl, rfl, hx⟩
    · obtain ⟨pre, y, post, w₀, rfl, hpre, hy⟩ := Build.forM_run_error xs w₁ w' e hrest
      refine ⟨x :: pre, y, post, w₀, rfl, ?_, hy⟩
      rw [List.forM_eq_forM, List.forM_cons, Build.run_bind, hx]
      exact hpre

/-- A `mapM` loop that fails, fails at one element, after those before it ran to their end. -/
theorem Build.mapM_run_error {γ : Type} {f : β → Build γ} :
    ∀ (xs : List β) (w w' : Workspace) (e : RequestError), (xs.mapM f).run w = (.error e, w') →
      ∃ pre x post ys w₀, xs = pre ++ x :: post ∧ (pre.mapM f).run w = (.ok ys, w₀) ∧
        (f x).run w₀ = (.error e, w')
  | [], w, w', e, h => by cases h
  | x :: xs, w, w', e, h => by
    rw [List.mapM_cons] at h
    rcases Build.bind_run_error h with hx | ⟨y, w₁, hx, hrest⟩
    · exact ⟨[], x, xs, [], w, rfl, rfl, hx⟩
    · rcases Build.bind_run_error hrest with hxs | ⟨_, _, _, hpure⟩
      · obtain ⟨pre, z, post, ys, w₀, rfl, hpre, hz⟩ := Build.mapM_run_error xs w₁ w' e hxs
        refine ⟨x :: pre, z, post, y :: ys, w₀, rfl, ?_, hz⟩
        rw [List.mapM_cons, Build.run_bind, hx]
        dsimp only
        rw [Build.run_bind, hpre]
        rfl
      · cases hpure

/-- A guard of a `do` block either throws, with the workspace untouched, or lets the rest run. -/
theorem Build.guard_run_error {p : Prop} [Decidable p] {err : RequestError} {k : PUnit → Build α}
    (h : (if p then throw err >>= k else k ()).run w = (.error e, w')) :
    e = err ∧ w' = w ∨ (k ()).run w = (.error e, w') := by
  split at h
  · rw [Build.run_bind, Build.run_throw] at h
    simp only [Prod.mk.injEq, Except.error.injEq] at h
    exact .inl ⟨h.1.symm, h.2.symm⟩
  · exact .inr h

theorem Build.liftExcept_run_error {x : Except RequestError α} (h : (liftExcept x).run w = (.error e, w')) :
    x = .error e ∧ w' = w := by
  rw [Build.run_liftExcept, Prod.mk.injEq] at h
  exact ⟨h.1, h.2.symm⟩

theorem Build.liftExcept_run_ok {x : Except RequestError α} {a : α}
    (h : (liftExcept x).run w = (.ok a, w')) : x = .ok a ∧ w' = w := by
  rw [Build.run_liftExcept, Prod.mk.injEq] at h
  exact ⟨h.1, h.2.symm⟩

theorem chainOf_run (n : NodeId) (w : Workspace) : (chainOf n).run w = (.ok (w.tree.aliasChain n), w) :=
  rfl

theorem resolve_run_error {reg : Registry} {dotted : String} (h : (resolve reg 0 dotted).run w = (.error e, w')) :
    UnknownPath e := by
  rw [resolve_eq] at h
  exact resolveSegments_raises 0 _ w e w' h

end Run

variable {reg : Registry} {w w' : Workspace} {e : RequestError}

/-- A filter fails as malformed before anything is resolved, or on an unknown path. -/
theorem parseWhere_run_error {input : String} (h : (parseWhere reg input).run w = (.error e, w')) :
    UnknownPath e ∨ (∃ m, e = .malformedFilter m) ∧ w' = w := by
  cases hp : Filter.parse input with
  | error m =>
    rw [parseWhere_run_of_malformed hp] at h
    cases h
    exact .inr ⟨⟨m, rfl⟩, rfl⟩
  | ok clauses =>
    -- once the text has read, only resolving a clause's path can fail
    unfold parseWhere at h
    rw [Build.run_bind, Build.run_liftExcept] at h
    simp only [hp, Except.mapError] at h
    rw [Build.run_bind, Build.run_note] at h
    exact .inl (Raises.bind (Raises.sequential.mapM conditionOf_raises clauses) (fun _ => Raises.pure _) _ _ _ h)

/-- The columns of a group are refused only as a malformed group. -/
theorem groupColumns_error {group : String} {cols : List String} (h : groupColumns group cols = .error e) :
    e = .malformedGroup "attributes" group := by
  obtain ⟨col, -, hcol⟩ := Sql.firstError_eq_some (Sql.mapM_eq_error_iff.mp h)
  dsimp only at hcol
  split at hcol
  · exact (Except.error.inj hcol).symm
  · cases hcol

/-- A group of `attributes` fails as malformed before its path is resolved, or on an unknown path. -/
theorem projectGroup_run_error {group : String} (h : (projectGroup reg group).run w = (.error e, w')) :
    UnknownPath e ∨ e = .malformedGroup "attributes" group ∧ w' = w := by
  unfold projectGroup at h
  rcases Build.bind_run_error h with hcols | ⟨cols, w₁, hcols, h⟩
  · obtain ⟨hc, rfl⟩ := Build.liftExcept_run_error hcols
    exact .inr ⟨groupColumns_error hc, rfl⟩
  -- past the columns, only resolving the path can fail
  rcases Build.bind_run_error h with hnode | ⟨_, _, _, h⟩
  · exact .inl (resolve_run_error hnode)
  rcases Build.bind_run_error h with hnote | ⟨_, _, _, hupdate⟩
  · cases hnote
  · cases hupdate

/-- `attributes` fails at one group, after the groups before it ran to their end: as a malformed
group, which leaves the tree as those groups left it, or on an unknown path. -/
theorem parseAttributes_run_error {input : String}
    (h : (parseAttributes reg input).run w = (.error e, w')) :
    UnknownPath e ∨ ∃ pre g post w₀, GroupList.split input = pre ++ g :: post ∧
      (pre.forM (projectGroup reg)).run w = (.ok (), w₀) ∧
      e = .malformedGroup "attributes" g ∧ w'.tree = w₀.tree := by
  obtain ⟨pre, g, post, w₀, hsplit, hpre, hg⟩ := Build.forM_run_error _ w w' e h
  rcases projectGroup_run_error hg with hunknown | ⟨he, hw⟩
  · exact .inl hunknown
  · exact .inr ⟨pre, g, post, w₀, hsplit, hpre, he, by rw [hw]⟩

theorem parseDirection_error {s : String} (h : parseDirection s = .error e) :
    e = .invalidParameter "order" s .badDirection := by
  unfold parseDirection at h
  split at h <;> cases h
  rfl

/-- A group of `order` fails as malformed before its path is resolved, on an unknown path, or on a bad
direction after its path has been resolved. -/
theorem orderEntry_run_error {group : String} (h : (orderEntry reg group).run w = (.error e, w')) :
    UnknownPath e ∨ (e = .malformedGroup "order" group ∧ w' = w) ∨
      (∃ d, e = .invalidParameter "order" d .badDirection) ∧
        ∃ n, (resolveSegments reg 0 (orderPath group)).run w = (.ok n, w') := by
  unfold orderEntry at h
  split at h
  rename_i reference direction hsplit
  dsimp only at h
  rcases Build.guard_run_error h with ⟨rfl, rfl⟩ | h
  · exact .inr (.inl ⟨rfl, rfl⟩)
  rcases Build.bind_run_error h with hnode | ⟨n, w₁, hnode, h⟩
  · exact .inl (resolveSegments_raises 0 _ w e w' hnode)
  rw [Build.run_bind, chainOf_run] at h
  rcases Build.bind_run_error h with hdir | ⟨_, _, _, hpure⟩
  · -- the direction is read last, on the workspace resolving the path left
    obtain ⟨hd, rfl⟩ := Build.liftExcept_run_error hdir
    refine .inr (.inr ⟨⟨direction, parseDirection_error hd⟩, n, ?_⟩)
    rw [orderPath, hsplit]
    exact hnode
  · cases hpure

/-- `order` fails at one group, after the groups before it ran to their end: as a malformed group,
which leaves the tree as those groups left it; on a bad direction, which leaves it as they left it
with the failing group's path resolved; or on an unknown path. -/
theorem parseOrder_run_error {input : String} (h : (parseOrder reg input).run w = (.error e, w')) :
    UnknownPath e ∨ ∃ pre g post ys w₀, GroupList.split input = pre ++ g :: post ∧
      (pre.mapM (orderEntry reg)).run w = (.ok ys, w₀) ∧
      ((e = .malformedGroup "order" g ∧ w'.tree = w₀.tree) ∨
        (∃ d, e = .invalidParameter "order" d .badDirection) ∧
          ∃ n w₁, (resolveSegments reg 0 (orderPath g)).run w₀ = (.ok n, w₁) ∧ w'.tree = w₁.tree) := by
  obtain ⟨pre, g, post, ys, w₀, hsplit, hpre, hg⟩ := Build.mapM_run_error _ w w' e h
  rcases orderEntry_run_error hg with hunknown | ⟨he, hw⟩ | ⟨hdir, n, hnode⟩
  · exact .inl hunknown
  · exact .inr ⟨pre, g, post, ys, w₀, hsplit, hpre, .inl ⟨he, by rw [hw]⟩⟩
  · exact .inr ⟨pre, g, post, ys, w₀, hsplit, hpre, .inr ⟨hdir, n, w', hnode, rfl⟩⟩

/-- A group field fails on a missing column before its path is resolved, or on an unknown path. -/
theorem parseGroup_run_error {g : String} (h : (parseGroup reg g).run w = (.error e, w')) :
    UnknownPath e ∨ e = badAggregate g .missingGroupColumn ∧ w' = w := by
  unfold parseGroup at h
  split at h
  · cases h
  · dsimp only at h
    rcases Build.guard_run_error h with ⟨rfl, rfl⟩ | h
    · exact .inr ⟨rfl, rfl⟩
    rcases Build.bind_run_error h with hnode | ⟨n, w₁, _, h⟩
    · exact .inl (resolveSegments_raises 0 _ w e w' hnode)
    rw [Build.run_bind, chainOf_run] at h
    cases h

/-- The faults of the aggregate found before any path is resolved. -/
def aggregateFieldFaults : List Reason :=
  [.aggregateShape, .missingSourceColumn, .functionNotIdentifier, .missingAlias, .badFlag]

theorem parseFlag_error {s : String} (h : parseFlag s = .error e) : e = badAggregate s .badFlag := by
  unfold parseFlag at h
  split at h <;> cases h
  rfl

/-- The aggregate fails on one of its fields before any path is resolved; on a missing group column
after its source path has been resolved, leaving the tree as that left it; or on an unknown path. -/
theorem parseAggregate_run_error {input : String} (h : (parseAggregate reg input).run w = (.error e, w')) :
    UnknownPath e ∨ ((∃ v, ∃ r ∈ aggregateFieldFaults, e = badAggregate v r) ∧ w' = w) ∨
      (∃ g, e = badAggregate g .missingGroupColumn) ∧
        ∃ n w₁, (resolveSegments reg 0 (Reference.parse ((aggregateFields input).getD 0 "")).path).run w =
          (.ok n, w₁) ∧ w'.tree = w₁.tree := by
  unfold parseAggregate at h
  rw [show (Text.split input ',').map Text.trim = aggregateFields input from rfl] at h
  generalize aggregateFields input = fields at h ⊢
  dsimp only at h
  -- the four checks of the fields and the flag fail with the workspace untouched
  rcases Build.guard_run_error h with ⟨he, rfl⟩ | h
  · exact .inr (.inl ⟨⟨_, _, by simp [aggregateFieldFaults], he⟩, rfl⟩)
  rcases Build.guard_run_error h with ⟨he, rfl⟩ | h
  · exact .inr (.inl ⟨⟨_, _, by simp [aggregateFieldFaults], he⟩, rfl⟩)
  rcases Build.guard_run_error h with ⟨he, rfl⟩ | h
  · exact .inr (.inl ⟨⟨_, _, by simp [aggregateFieldFaults], he⟩, rfl⟩)
  rcases Build.guard_run_error h with ⟨he, rfl⟩ | h
  · exact .inr (.inl ⟨⟨_, _, by simp [aggregateFieldFaults], he⟩, rfl⟩)
  rcases Build.bind_run_error h with hflag | ⟨distinct, w₁, hflag, h⟩
  · obtain ⟨hf, rfl⟩ := Build.liftExcept_run_error hflag
    exact .inr (.inl ⟨⟨_, _, by simp [aggregateFieldFaults], parseFlag_error hf⟩, rfl⟩)
  rw [(Build.liftExcept_run_ok hflag).2] at h
  rcases Build.bind_run_error h with hsource | ⟨n, w₂, hsource, h⟩
  · exact .inl (resolveSegments_raises 0 _ w e w' hsource)
  -- past the source path, only the group field can fail
  rw [Build.run_bind, chainOf_run] at h
  rcases Build.bind_run_error h with hgroup | ⟨_, _, _, h⟩
  · rcases parseGroup_run_error hgroup with hunknown | ⟨rfl, hw⟩
    · exact .inl hunknown
    · exact .inr (.inr ⟨⟨_, rfl⟩, n, w₂, hsource, by rw [hw]⟩)
  rcases Build.bind_run_error h with hnote | ⟨_, _, _, hpure⟩
  · cases hnote
  · cases hpure

end Request

open Plan Schema Request in
/-- Every failure of the four parsers other than an unknown path: a malformed filter leaves the tree
as it was before the call; a malformed group of `attributes` leaves it as the groups before it left
it; a fault of the aggregate's count, source column, function, alias or flag leaves it as it was
before the call, while a missing group column leaves it as resolving the source path left it; and a
malformed group of `order` leaves it as the groups before it left it, while a bad direction leaves it
as they left it with the failing group's path resolved. -/
theorem failedParse_tree (reg : Registry) :
    (∀ input w e w', (parseWhere reg input).run w = (.error e, w') → ¬ UnknownPath e →
      (∃ m, e = .malformedFilter m) ∧ w'.tree = w.tree) ∧
    (∀ input w e w', (parseAttributes reg input).run w = (.error e, w') → ¬ UnknownPath e →
      ∃ pre g post w₀, GroupList.split input = pre ++ g :: post ∧
        (pre.forM (projectGroup reg)).run w = (.ok (), w₀) ∧
        e = .malformedGroup "attributes" g ∧ w'.tree = w₀.tree) ∧
    (∀ input w e w', (parseAggregate reg input).run w = (.error e, w') → ¬ UnknownPath e →
      ((∃ v, ∃ r ∈ aggregateFieldFaults, e = badAggregate v r) ∧ w'.tree = w.tree) ∨
        (∃ g, e = badAggregate g .missingGroupColumn) ∧
          ∃ n w₁, (resolveSegments reg 0 (Reference.parse ((aggregateFields input).getD 0 "")).path).run w =
            (.ok n, w₁) ∧ w'.tree = w₁.tree) ∧
    (∀ input w e w', (parseOrder reg input).run w = (.error e, w') → ¬ UnknownPath e →
      ∃ pre g post ys w₀, GroupList.split input = pre ++ g :: post ∧
        (pre.mapM (orderEntry reg)).run w = (.ok ys, w₀) ∧
        ((e = .malformedGroup "order" g ∧ w'.tree = w₀.tree) ∨
          (∃ d, e = .invalidParameter "order" d .badDirection) ∧
            ∃ n w₁, (resolveSegments reg 0 (orderPath g)).run w₀ = (.ok n, w₁) ∧ w'.tree = w₁.tree)) := by
  refine ⟨fun input w e w' h hu => ?_, fun input w e w' h hu => ?_, fun input w e w' h hu => ?_,
    fun input w e w' h hu => ?_⟩
  · rcases parseWhere_run_error h with hunknown | ⟨hm, rfl⟩
    · exact absurd hunknown hu
    · exact ⟨hm, rfl⟩
  · exact (parseAttributes_run_error h).resolve_left hu
  · rcases parseAggregate_run_error h with hunknown | ⟨hfault, rfl⟩ | hgroup
    · exact absurd hunknown hu
    · exact .inl ⟨hfault, rfl⟩
    · exact .inr hgroup
  · exact (parseOrder_run_error h).resolve_left hu

open Plan Request in
/-- A group of `order` whose direction is bad is refused after its path has been resolved: from the
root alone, `orders.id,UP` fails on its direction, the first and only group, and leaves the join of
`orders` in the tree. -/
theorem shop_orderDirectionJoin :
    GroupList.split "orders.id,UP" = ["orders.id,UP"] ∧ (IncludeTree.new "Customers").length = 1 ∧
    ∃ w', (parseOrder shop.registry "orders.id,UP").run { tree := IncludeTree.new "Customers" } =
        (.error (.invalidParameter "order" "UP" .badDirection), w') ∧ w'.tree.length = 2 := by
  refine ⟨by decide, rfl, ?_⟩
  have h : (match (parseOrder shop.registry "orders.id,UP").run { tree := IncludeTree.new "Customers" } with
      | (.error e, w') => decide (e = .invalidParameter "order" "UP" .badDirection) && w'.tree.length == 2
      | (.ok _, _) => false) = true := by
    decide +kernel
  revert h
  rcases (parseOrder shop.registry "orders.id,UP").run { tree := IncludeTree.new "Customers" } with
    ⟨_ | _, w'⟩ <;> simp

end RestQuery
