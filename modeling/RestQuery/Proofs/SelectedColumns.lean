import RestQuery.Proofs.Projection
import RestQuery.Proofs.DistinctAliases

/-!
# What a compiled select projects

The select statement of a plan lists the columns of the root first: the
columns projected from it, or all of its columns when none were asked for
and the plan does not aggregate.  The aggregate, when there is one, follows
the columns of the nodes.  So the statement projects something whenever the
root projects nothing in particular or some column, or the plan aggregates.

The root is marked as projected with no column by a group of `attributes`
whose path is empty and that lists no column.  A group lists no column only
when it holds no comma, and its path is then the whole group, trimmed: such
a group is blank.  Group lists drop the groups that are empty once trimmed
and unbracketed, but they trim before taking the brackets off, so a blank
group in brackets, `[ ]`, is kept.  It marks the root as projected with no
column; without an aggregate and joins, the select then projects nothing.

**Results.**
* `groupChain_eq_nil`, `groupColumnsOf_eq_nil`: a group on the root with no
  column is blank.
* `translate_rootBlank`: a translated plan whose root is projected with no
  column had a blank group of `attributes`.
* `compile_rootProjection`: the head of the selected items, and when the
  statement selects nothing.
* `shop_blankProjection`: `attributes=[ ]` selects nothing.
-/

namespace RestQuery

namespace Request

open Plan Schema IncludeTree

/-- A group projects from the root exactly when its path is empty. -/
theorem groupChain_eq_nil {g : String} : groupChain g = [] ↔ attributePath g = "" := by
  unfold groupChain aliasPath dottedSegments
  rw [List.map_eq_nil_iff]
  split
  · rename_i he
    simpa using he
  · rename_i he
    simp only [split_ne_nil, false_iff]
    simpa using he

/-- A group projects no column exactly when it holds no comma. -/
theorem groupColumnsOf_eq_nil {g : String} : groupColumnsOf g = [] ↔ Text.split g ',' = [g] := by
  unfold groupColumnsOf
  rw [List.map_eq_nil_iff, List.drop_eq_nil_iff]
  constructor
  · intro hlen
    -- a single piece is the whole text, which joining the pieces gives back
    obtain ⟨x, hx⟩ : ∃ x, Text.split g ',' = [x] := by
      match hs : Text.split g ',', hlen with
      | [], _ => exact absurd hs (split_ne_nil g ',')
      | [x], _ => exact ⟨x, rfl⟩
      | _ :: _ :: _, hl => simp at hl
    have hjoin := Text.intercalate_split g ','
    rw [hx, String.intercalate_singleton] at hjoin
    rw [hx, hjoin]
  · intro hs
    simp [hs]

/-- A group on the root that lists no column is blank. -/
theorem trim_eq_empty_of_root {g : String} (hchain : groupChain g = []) (hcols : groupColumnsOf g = []) :
    Text.trim g = "" := by
  have hpath := groupChain_eq_nil.mp hchain
  rwa [attributePath, groupColumnsOf_eq_nil.mp hcols, List.headD_cons] at hpath

/-- The root of a translated plan is projected with no column only when the `attributes` parameter
has a blank group. -/
theorem translate_rootBlank {tr : Translator} {route : String} {p : Params} {r : PlannedRequest}
    (h : (tr.translate route p).1 = .ok r) (hroot : r.plan.tree.root.attributes = some []) :
    ∃ v g, present p.attributes = some v ∧ g ∈ GroupList.split v ∧ Text.trim g = "" := by
  have hwf := (translate_translated h).wellFormed
  have hattr := translate_projections h 0 hwf.length_pos
  rw [aliasChain_root, accumulate_none] at hattr
  rw [root] at hroot
  rw [hroot] at hattr
  split_ifs at hattr with hnil
  -- some group on the root added columns, and all it added is empty
  obtain ⟨cols, hcols, rest, hsplit⟩ : ∃ cols ∈ projections (attributeGroups p) [],
      ∃ rest, projections (attributeGroups p) [] = cols :: rest := by
    match hp : projections (attributeGroups p) [], hnil with
    | cols :: rest, _ => exact ⟨cols, List.mem_cons_self, rest, rfl⟩
  have hempty : cols = [] := by
    have hflat := (Option.some.inj hattr).symm
    rw [hsplit, List.flatten_cons, List.append_eq_nil_iff] at hflat
    exact hflat.1
  obtain ⟨g, hg, rfl⟩ := List.mem_map.mp hcols
  obtain ⟨hgG, hgc⟩ := List.mem_filter.mp hg
  unfold attributeGroups at hgG
  cases hv : present p.attributes with
  | none => simp [hv] at hgG
  | some v =>
    rw [hv] at hgG
    exact ⟨v, g, rfl, hgG, trim_eq_empty_of_root (by simpa using hgc) hempty⟩

end Request

namespace Sql

open Plan Schema Request IncludeTree

variable {P : QueryPlan}

/-- A root that projects nothing in particular, in a plan that does not aggregate, is selected
whole, first. -/
theorem nodeItems_head_star (hpath : P.tree.root.path = "") (hattr : P.tree.root.attributes = none)
    (hagg : P.aggregate = none) :
    (Compiler.nodeItems P).head? = some { expr := .column P.model none } := by
  unfold Compiler.nodeItems
  simp [hattr, hagg, tableAlias, hpath]

/-- A root that projects columns has its first column selected first. -/
theorem nodeItems_head_column (hpath : P.tree.root.path = "") {col : String} {cols : List String}
    (hattr : P.tree.root.attributes = some (col :: cols)) :
    (Compiler.nodeItems P).head? = some { expr := .column P.model (some col) } := by
  unfold Compiler.nodeItems
  simp [hattr, tableAlias, hpath]

/-- **What a compiled select projects.**  For every request that translates and compiles: the root
is projected with no column only when the `attributes` parameter has a blank group; the select
lists first the whole root table when the root projects nothing in particular and nothing is
aggregated, and otherwise the root's first projected column; the aggregate, when there is one, is
selected under its alias; and a select that projects nothing has a root projected with no column
and no aggregate. -/
theorem compile_rootProjection {tr : Translator} {route : String} {p : Params} {r : PlannedRequest}
    (h : (tr.translate route p).1 = .ok r) (c : Compiler) {out : Compiled}
    (hc : c.compile r.plan = .ok out) :
    (r.plan.tree.root.attributes = some [] →
      ∃ v g, present p.attributes = some v ∧ g ∈ GroupList.split v ∧ Text.trim g = "") ∧
    (r.plan.tree.root.attributes = none → r.plan.aggregate = none →
      out.select.items.head? = some { expr := .column r.plan.model none }) ∧
    (∀ col cols, r.plan.tree.root.attributes = some (col :: cols) →
      out.select.items.head? = some { expr := .column r.plan.model (some col) }) ∧
    (∀ a ∈ r.plan.aggregate,
      ({ expr := Compiler.aggregateExpr r.plan a, aliasName := some a.aliasName } : Item) ∈
        out.select.items) ∧
    (out.select.items = [] → r.plan.tree.root.attributes = some [] ∧ r.plan.aggregate = none) := by
  have hpath : r.plan.tree.root.path = "" := (translate_translated h).wellFormed.root_path
  obtain ⟨b, -, -, -, -, -, hitems, -, -⟩ := selectStatement_eq_ok (compile_eq_ok hc).1
  -- the items of the nodes come first, the aggregate right after them
  have hhead : ∀ it, (Compiler.nodeItems r.plan).head? = some it → out.select.items.head? = some it := by
    intro it hit
    rw [hitems, List.append_assoc, List.head?_append, hit]
    rfl
  have hmem : ∀ a ∈ r.plan.aggregate,
      ({ expr := Compiler.aggregateExpr r.plan a, aliasName := some a.aliasName } : Item) ∈
        out.select.items := by
    intro a ha
    rw [Option.mem_def] at ha
    simp [hitems, ha]
  have hstar : r.plan.tree.root.attributes = none → r.plan.aggregate = none →
      out.select.items.head? = some { expr := .column r.plan.model none } := fun hattr hagg =>
    hhead _ (nodeItems_head_star hpath hattr hagg)
  have hcol : ∀ col cols, r.plan.tree.root.attributes = some (col :: cols) →
      out.select.items.head? = some { expr := .column r.plan.model (some col) } := fun _ _ hattr =>
    hhead _ (nodeItems_head_column hpath hattr)
  refine ⟨translate_rootBlank h, hstar, hcol, hmem, fun hnil => ?_⟩
  -- an empty select has no head and no aggregate item
  cases hagg : r.plan.aggregate with
  | some a => exact absurd (hmem a hagg) (by rw [hnil]; exact List.not_mem_nil)
  | none =>
    refine ⟨?_, rfl⟩
    match hattr : r.plan.tree.root.attributes with
    | none => simpa [hnil] using hstar hattr hagg
    | some [] => rfl
    | some (col :: cols) => simpa [hnil] using hcol col cols hattr

/-- `attributes=,id,name` on the customers of the shop: the select starts with the root's `id`. -/
theorem shop_rootProjection :
    ∃ r out, (shop.translate "customers" { attributes := some ",id,name" }).1 = .ok r ∧
      shopCompiler.compile r.plan = .ok out ∧
      (r.plan.tree.root.attributes = some [] →
        ∃ v g, present ({ attributes := some ",id,name" } : Params).attributes = some v ∧
          g ∈ GroupList.split v ∧ Text.trim g = "") ∧
      (r.plan.tree.root.attributes = none → r.plan.aggregate = none →
        out.select.items.head? = some { expr := .column r.plan.model none }) ∧
      (∀ col cols, r.plan.tree.root.attributes = some (col :: cols) →
        out.select.items.head? = some { expr := .column r.plan.model (some col) }) ∧
      (∀ a ∈ r.plan.aggregate,
        ({ expr := Compiler.aggregateExpr r.plan a, aliasName := some a.aliasName } : Item) ∈
          out.select.items) ∧
      (out.select.items = [] → r.plan.tree.root.attributes = some [] ∧ r.plan.aggregate = none) := by
  obtain ⟨r, out, hr, hc, -⟩ := @exists_compiled
    (shop.translate "customers" { attributes := some ",id,name" }).1 shopCompiler (fun _ _ => true)
    (by decide +kernel)
  exact ⟨r, out, hr, hc, compile_rootProjection hr shopCompiler hc⟩

/-- A blank group in brackets marks the root as projected with no column: `attributes=[ ]` on the
customers of the shop compiles to a select that projects nothing. -/
theorem shop_blankProjection :
    ∃ r out, (shop.translate "customers" (Params.ofQuery "attributes=[+]")).1 = .ok r ∧
      shopCompiler.compile r.plan = .ok out ∧ r.plan.tree.root.attributes = some [] ∧
      out.select.items = [] := by
  obtain ⟨r, out, hr, hc, hcheck⟩ := @exists_compiled
    (shop.translate "customers" (Params.ofQuery "attributes=[+]")).1 shopCompiler
    (fun r out => decide (r.plan.tree.root.attributes = some []) && out.select.items.isEmpty)
    (by decide +kernel)
  simp only [Bool.and_eq_true, decide_eq_true_eq, List.isEmpty_iff] at hcheck
  exact ⟨r, out, hr, hc, hcheck⟩

end Sql
end RestQuery
