import RestQuery.Proofs.FilterGrammar
import RestQuery.Proofs.Window
import RestQuery.Proofs.CompileErrors

/-!
# The `IN` rewrite

A filter whose groups are single equalities of one column with one value
each is compiled, from a threshold of groups on, to one `IN` list on that
column instead of the disjunction of the equalities.  The threshold is a
setting of the compiler, so the statements must not depend on it beyond
that rewrite.

Conditions are compared under SQL's three-valued logic.  A row is left
abstract (`Row`): it says how every equality of two operands comes out,
`NULL` making it unknown, and how every other predicate does; `AND` and `OR`
are Kleene's, and `x IN (a, b, …)` holds as `x = a OR x = b OR …` does, as
the SQL standard defines it.  Two conditions are equivalent when every row
gives them the same truth and they bind the same values in the same order
(`Expr.Equivalent`).

The rewrite reads only the key of each condition and builds the list on
the column of the first one.  That is sound because a key names one column
when no column holds a dot, and the filter grammar leaves none in the
columns of a translated plan (`Filter.parse_column_dotFree`).

**Results.**
* `inList_eq_some_iff`: when the rewrite fires, and what it builds.
* `inList_equivalent`: an `IN` list is equivalent to the disjunction of the
  equalities it replaces.
* `compile_agrees`: compilers over one registry compile a plan whose columns
  have no dot to statements that differ at most in equivalent conditions.
* `compile_inRewrite_sound`: the two together, for every translated plan.
-/

namespace RestQuery
namespace Sql

open Plan Request

/-! ## Three-valued truth -/

/-- The truth values of SQL: a comparison with `NULL` is neither true nor false. -/
inductive Truth where
  | no
  | unknown
  | yes
  deriving Repr, DecidableEq

namespace Truth

/-- `OR`: true when one side is, false when both are. -/
def or : Truth → Truth → Truth
  | yes, _ => yes
  | no, b => b
  | unknown, yes => yes
  | unknown, _ => unknown

/-- `AND`: false when one side is, true when both are. -/
def and : Truth → Truth → Truth
  | no, _ => no
  | yes, b => b
  | unknown, no => no
  | unknown, _ => unknown

/-- The disjunction of a list of truth values. -/
def any (ts : List Truth) : Truth :=
  ts.foldr or no

@[simp] theorem any_nil : any [] = no := rfl

@[simp] theorem any_cons (t : Truth) (ts : List Truth) : any (t :: ts) = t.or (any ts) := rfl

theorem or_assoc (a b c : Truth) : (a.or b).or c = a.or (b.or c) := by
  cases a <;> cases b <;> cases c <;> rfl

@[simp] theorem or_no (a : Truth) : a.or no = a := by
  cases a <;> rfl

end Truth

/-- What one row makes of the predicates of a condition: the truth of an equality between two
operands, and the truth of every other predicate. -/
structure Row where
  equal : Expr → Expr → Truth
  atom : Expr → Truth

/-- The truth of a condition on a row, under three-valued logic; `x IN (a, b, …)` holds as
`x = a OR x = b OR …` does. -/
def Expr.truth (row : Row) : Expr → Truth
  | .constant b => if b then .yes else .no
  | .binary l .and r => (l.truth row).and (r.truth row)
  | .binary l .or r => (l.truth row).or (r.truth row)
  | .binary l .eq r => row.equal l r
  | .binary l .isIn (.tuple items) => Truth.any (items.map (row.equal l))
  | e => row.atom e

mutual

/-- The values bound in an expression, left to right. -/
def Expr.operands : Expr → List Value
  | .value v => [v]
  | .tuple items => Expr.listOperands items
  | .call _ args => Expr.listOperands args
  | .distinct inner => inner.operands
  | .binary l _ r => l.operands ++ r.operands
  | .column _ _ | .star | .null | .constant _ => []

/-- The values bound in a list of expressions, left to right. -/
def Expr.listOperands : List Expr → List Value
  | [] => []
  | e :: rest => e.operands ++ Expr.listOperands rest

end

/-- Two conditions are equivalent when every row gives them the same truth and they bind the same
values in the same order. -/
def Expr.Equivalent (e₁ e₂ : Expr) : Prop :=
  (∀ row, e₁.truth row = e₂.truth row) ∧ e₁.operands = e₂.operands

namespace Expr.Equivalent

@[refl] theorem refl (e : Expr) : e.Equivalent e :=
  ⟨fun _ => rfl, rfl⟩

@[symm] theorem symm {e₁ e₂ : Expr} (h : e₁.Equivalent e₂) : e₂.Equivalent e₁ :=
  ⟨fun row => (h.1 row).symm, h.2.symm⟩

@[trans] theorem trans {e₁ e₂ e₃ : Expr} (h₁ : e₁.Equivalent e₂) (h₂ : e₂.Equivalent e₃) :
    e₁.Equivalent e₃ :=
  ⟨fun row => (h₁.1 row).trans (h₂.1 row), h₁.2.trans h₂.2⟩

end Expr.Equivalent

/-- A chain of `OR`s is the disjunction of its links. -/
theorem Expr.truth_foldl_or (row : Row) :
    ∀ (es : List Expr) (e : Expr),
      (es.foldl (Expr.bin .or) e).truth row = (e.truth row).or (Truth.any (es.map (·.truth row)))
  | [], e => by simp
  | e' :: es, e => by
    rw [List.foldl_cons, Expr.truth_foldl_or row es, Expr.bin, Expr.truth, List.map_cons,
      Truth.any_cons, Truth.or_assoc]

theorem listOperands_operands (vs : List String) :
    Expr.listOperands (vs.map operand) = vs.map Value.ofText := by
  induction vs with
  | nil => rfl
  | cons v vs ih => simp [Expr.listOperands, Expr.operands, operand, ih]

/-- An `IN` list on a column holds as the disjunction of the column's equalities with its values,
and binds the same values. -/
theorem inList_equivalent {col : Expr} (hcol : col.operands = []) (v : String) (vs : List String) :
    (Expr.binary col .isIn (.tuple ((v :: vs).map operand))).Equivalent
      (disjunction ((v :: vs).map fun v => .binary col .eq (operand v))) := by
  constructor
  · intro row
    simp only [List.map_cons]
    rw [disjunction, Expr.truth_foldl_or, Expr.truth, Expr.truth, List.map_cons, Truth.any_cons,
      List.map_map]
    simp [Expr.truth, Function.comp_def]
  · rw [disjunction_collect Expr.operands (fun _ _ _ => by simp [Expr.operands]) rfl, Expr.operands,
      hcol, List.nil_append, Expr.operands, listOperands_operands, List.flatMap_map, List.map_eq_flatMap]
    congr 1
    funext w
    simp [Expr.operands, hcol, operand]

/-! ## When the rewrite fires -/

/-- The characters of the key of a condition on a joined table: the path and the column between
dollar signs, joined by a dot. -/
theorem nestedKey_toList (path : List String) (column : String) :
    ("$" ++ String.intercalate "." path ++ "." ++ column ++ "$").toList =
      '$' :: ((String.intercalate "." path).toList ++ '.' :: (column.toList ++ ['$'])) := by
  simp [String.toList_append]

/-- Conditions on columns without a dot are reported under one key only when they are on one
column: a key on a joined table has a dot, and its last dot parts the path from the column. -/
theorem columnAt_eq_of_fieldKey (P : QueryPlan) {c₁ c₂ : Condition} (h₁ : '.' ∉ c₁.column.toList)
    (h₂ : '.' ∉ c₂.column.toList) (h : c₁.fieldKey = c₂.fieldKey) :
    columnAt P c₁.path c₁.column = columnAt P c₂.path c₂.column := by
  unfold Condition.fieldKey at h
  by_cases hp₁ : c₁.path.isEmpty <;> by_cases hp₂ : c₂.path.isEmpty <;>
    simp only [hp₁, hp₂, if_true, if_false, Bool.false_eq_true] at h
  · rw [List.isEmpty_iff.mp hp₁, List.isEmpty_iff.mp hp₂, h]
  · -- a column of the root table would hold the dot of the other key
    exact absurd (by rw [h, nestedKey_toList]; simp) h₁
  · exact absurd (by rw [← h, nestedKey_toList]; simp) h₂
  · -- both on joined tables: the keys agree past their last dot and before it
    have hk := congrArg String.toList h
    rw [nestedKey_toList, nestedKey_toList, List.cons.injEq] at hk
    obtain ⟨hpath, hcol⟩ := Filter.append_cons_cancel_last (by simp [h₁]) (by simp [h₂]) hk.2
    unfold columnAt
    rw [String.toList_inj.mp hpath, String.toList_inj.mp (List.append_cancel_right hcol)]

/-- The operators the compiler reads as an equality: `eq`, with or without its leading `$`. -/
theorem normalize_eq_eq {op : String} : normalize op = "eq" ↔ op = "eq" ∨ op = "$eq" := by
  unfold normalize
  split
  · rename_i rest hop
    rw [← String.toList_inj, String.toList_ofList, ← String.toList_inj, ← String.toList_inj, hop]
    simp
  · rename_i hop
    have hne : op ≠ "$eq" := fun h => hop _ (by rw [h]; rfl)
    simp [hne]

/-- A group the `IN` rewrite reads is a single equality with one value. -/
theorem singleEquality_eq_some_iff {g : List Condition} {c : Condition} {v : String} :
    singleEquality g = some (c, v) ↔ g = [c] ∧ normalize c.operator = "eq" ∧ c.value = .one v := by
  refine ⟨singleEquality_eq_some, ?_⟩
  rintro ⟨rfl, hop, hv⟩
  simp [singleEquality, hv, hop]

theorem mapM_eq_some_iff {α β : Type} {f : α → Option β} :
    ∀ {xs : List α} {ys : List β}, xs.mapM f = some ys ↔ List.Forall₂ (fun x y => f x = some y) xs ys
  | [], ys => by
    cases ys <;> simp
  | x :: xs, ys => by
    rw [List.mapM_cons, List.forall₂_cons_left_iff]
    simp only [Option.bind_eq_bind, Option.bind_eq_some_iff, Option.pure_def, Option.some.injEq,
      mapM_eq_some_iff]
    constructor
    · rintro ⟨y, hy, zs, hzs, rfl⟩
      exact ⟨y, zs, hy, hzs, rfl⟩
    · rintro ⟨y, zs, hy, hzs, rfl⟩
      exact ⟨y, hy, zs, hzs, rfl⟩

/-- The groups the `IN` rewrite reads are single equalities, each with one value. -/
theorem mapM_singleEquality_eq_some {gs : List (List Condition)} {eqs : List (Condition × String)} :
    gs.mapM singleEquality = some eqs ↔
      gs = eqs.map (fun x => [x.1]) ∧
        ∀ x ∈ eqs, normalize x.1.operator = "eq" ∧ x.1.value = .one x.2 := by
  rw [mapM_eq_some_iff]
  induction eqs generalizing gs with
  | nil => simp [List.forall₂_nil_right_iff]
  | cons x eqs ih =>
    obtain ⟨c, v⟩ := x
    rw [List.forall₂_cons_right_iff]
    simp only [singleEquality_eq_some_iff, ih, List.map_cons, List.mem_cons, forall_eq_or_imp]
    constructor
    · rintro ⟨g, gs', ⟨rfl, hop, hv⟩, ⟨rfl, hrest⟩, rfl⟩
      exact ⟨rfl, ⟨hop, hv⟩, hrest⟩
    · rintro ⟨rfl, ⟨hop, hv⟩, hrest⟩
      exact ⟨[c], _, ⟨rfl, hop, hv⟩, ⟨rfl, hrest⟩, rfl⟩

/-- The groups of a filter are single conditions, each an equality (`eq` or `$eq`) with one value,
all reported under `key`; `vs` are their values in order. -/
def EqualityChain (f : FilterTree) (key : String) (vs : List String) : Prop :=
  ∃ eqs : List (Condition × String), f.groups = eqs.map (fun x => [x.1]) ∧ vs = eqs.map Prod.snd ∧
    ∀ x ∈ eqs, (x.1.operator = "eq" ∨ x.1.operator = "$eq") ∧ x.1.value = .one x.2 ∧ x.1.fieldKey = key

/-- The first group of a filter whose groups are the single conditions of a list is the first
of them. -/
theorem eq_cons_of_head {f : FilterTree} {eqs : List (Condition × String)} {first : Condition}
    (hgs : f.groups = eqs.map (fun x => [x.1])) (hhead : f.groups.head? = some [first]) :
    ∃ v rest, eqs = (first, v) :: rest := by
  cases eqs with
  | nil => simp [hgs] at hhead
  | cons x rest =>
    simp only [hgs, List.map_cons, List.head?_cons, Option.some.injEq, List.cons.injEq, and_true]
      at hhead
    exact ⟨x.2, rest, by rw [← hhead]⟩

/-- A chain of equalities has one value for each group. -/
theorem EqualityChain.length_eq {f : FilterTree} {key : String} {vs : List String}
    (h : EqualityChain f key vs) : vs.length = f.groups.length := by
  obtain ⟨eqs, hgs, rfl, -⟩ := h
  simp [hgs]

theorem EqualityChain.exists_head {f : FilterTree} {key : String} {vs : List String}
    (h : EqualityChain f key vs) (hlen : 0 < f.groups.length) :
    ∃ first, f.groups.head? = some [first] := by
  obtain ⟨eqs, hgs, -, -⟩ := h
  cases eqs with
  | nil => simp [hgs] at hlen
  | cons x rest => exact ⟨x.1, by simp [hgs]⟩

theorem EqualityChain.exists_cons {f : FilterTree} {key : String} {vs : List String}
    (h : EqualityChain f key vs) (hlen : 0 < f.groups.length) : ∃ v rest, vs = v :: rest := by
  cases vs with
  | nil =>
    have := h.length_eq
    simp only [List.length_nil] at this
    omega
  | cons v rest => exact ⟨v, rest, rfl⟩

/-- The `IN` rewrite fires on a filter of at least as many groups as the threshold, and at least
two, that is a chain of equalities on one key; it puts the values in a list on the column of the
first condition and reports the key and the number of values. -/
theorem inList_eq_some_iff {c : Compiler} {P : QueryPlan} {f : FilterTree} {e : Expr}
    {opt : Optimization} :
    c.inList P f = some (e, opt) ↔ max c.orThreshold 2 ≤ f.groups.length ∧
      ∃ first key vs, f.groups.head? = some [first] ∧ EqualityChain f key vs ∧
        e = .binary (columnAt P first.path first.column) .isIn (.tuple (vs.map operand)) ∧
        opt = .orToIn key vs.length := by
  unfold Compiler.inList
  by_cases hlen : f.groups.length < max c.orThreshold 2
  · rw [if_pos hlen]
    simp only [reduceCtorEq, false_iff, not_and]
    omega
  rw [if_neg hlen]
  constructor
  · intro h
    split at h
    · rename_i first v rest hgroups
      split at h
      · rename_i hkey
        simp only [Option.some.injEq, Prod.mk.injEq] at h
        obtain ⟨rfl, rfl⟩ := h
        obtain ⟨hgs, heqs⟩ := mapM_singleEquality_eq_some.mp hgroups
        refine ⟨by omega, first, first.fieldKey, v :: rest.map (·.2), by simp [hgs],
          ⟨(first, v) :: rest, hgs, rfl, fun x hx => ?_⟩, rfl, by simp⟩
        -- each condition is an equality, under the first one's key
        obtain ⟨hop, hv⟩ := heqs x hx
        refine ⟨normalize_eq_eq.mp hop, hv, ?_⟩
        rcases List.mem_cons.mp hx with rfl | hx
        · rfl
        · simpa using List.all_eq_true.mp hkey x hx
      · cases h
    · cases h
  · rintro ⟨-, first, key, vs, hhead, ⟨eqs, hgs, rfl, heqs⟩, rfl, rfl⟩
    -- the chain starts with the first group's condition
    obtain ⟨v, rest, rfl⟩ := eq_cons_of_head hgs hhead
    have hmap : f.groups.mapM singleEquality = some ((first, v) :: rest) :=
      mapM_singleEquality_eq_some.mpr
        ⟨hgs, fun x hx => ⟨normalize_eq_eq.mpr (heqs x hx).1, (heqs x hx).2.1⟩⟩
    have hkey : first.fieldKey = key := (heqs _ List.mem_cons_self).2.2
    have hall : rest.all (fun e => e.1.fieldKey == first.fieldKey) = true :=
      List.all_eq_true.mpr fun x hx => by simp [(heqs x (List.mem_cons_of_mem _ hx)).2.2, hkey]
    simp only [hmap]
    rw [if_pos hall]
    simp [hkey]

/-- The rewrite fires exactly on a filter of at least as many groups as the threshold, and at
least two, that is a chain of equalities on one key. -/
theorem inList_isSome_iff {c : Compiler} {P : QueryPlan} {f : FilterTree} :
    (∃ e opt, c.inList P f = some (e, opt)) ↔
      max c.orThreshold 2 ≤ f.groups.length ∧ ∃ key vs, EqualityChain f key vs := by
  constructor
  · rintro ⟨e, opt, h⟩
    obtain ⟨hlen, _, key, vs, -, hchain, -⟩ := inList_eq_some_iff.mp h
    exact ⟨hlen, key, vs, hchain⟩
  · rintro ⟨hlen, key, vs, hchain⟩
    obtain ⟨first, hhead⟩ := hchain.exists_head (by omega)
    exact ⟨_, _, inList_eq_some_iff.mpr ⟨hlen, first, key, vs, hhead, hchain, rfl, rfl⟩⟩

/-- Without the rewrite, a filter compiles to the disjunction of the conjunctions of its groups'
compiled conditions. -/
theorem compileFilter_of_inList_none {c : Compiler} {P : QueryPlan} {f : FilterTree}
    (h : c.inList P f = none) :
    c.compileFilter P f = (f.groups.mapM fun g => g.mapM (compileCondition P)) >>= fun groups =>
      pure (disjunction (groups.map conjunction), []) := by
  unfold Compiler.compileFilter
  rw [h]

/-- With the rewrite, a filter compiles to the `IN` list, reporting the rewrite. -/
theorem compileFilter_of_inList_some {c : Compiler} {P : QueryPlan} {f : FilterTree} {e : Expr}
    {opt : Optimization} (h : c.inList P f = some (e, opt)) : c.compileFilter P f = .ok (e, [opt]) := by
  unfold Compiler.compileFilter
  rw [h]

section Chains

variable {P : QueryPlan} {f : FilterTree} {key : String} {vs : List String} {first : Condition}

/-- Without the rewrite, a chain of equalities on one key compiles, condition by condition, to the
equalities of the first condition's column with the values. -/
theorem groups_compile_of_chain (hdot : ∀ cond ∈ f.conditions, '.' ∉ cond.column.toList)
    (hchain : EqualityChain f key vs) (hhead : f.groups.head? = some [first]) :
    (f.groups.mapM fun g => g.mapM (compileCondition P)) =
      .ok (vs.map fun v => [.binary (columnAt P first.path first.column) .eq (operand v)]) := by
  obtain ⟨eqs, hgs, rfl, heqs⟩ := hchain
  have hconds : f.conditions = eqs.map Prod.fst := by
    rw [FilterTree.conditions, hgs, ← List.flatMap_def, ← List.map_eq_flatMap]
  obtain ⟨v₀, rest, rfl⟩ := eq_cons_of_head hgs hhead
  rw [hgs, mapM_eq_ok_iff, List.map_map, List.forall₂_map_left_iff, List.forall₂_map_right_iff,
    List.forall₂_same]
  intro x hx
  obtain ⟨hop, hv, hkey⟩ := heqs x hx
  -- each condition is on the first one's column: one key, and no dots in the columns
  have hcol : columnAt P x.1.path x.1.column = columnAt P first.path first.column :=
    columnAt_eq_of_fieldKey P (hdot _ (hconds ▸ List.mem_map_of_mem hx))
      (hdot _ (hconds ▸ List.mem_map_of_mem List.mem_cons_self))
      (hkey.trans (heqs _ List.mem_cons_self).2.2.symm)
  rw [List.mapM_cons, compileCondition_eq (normalize_eq_eq.mpr hop) hv, hcol]
  rfl

/-- A compiled filter is equivalent to the one compiled without the rewrite. -/
theorem compileFilter_equivalent {c : Compiler} (hdot : ∀ cond ∈ f.conditions, '.' ∉ cond.column.toList)
    {e : Expr} {opts : List Optimization} (h : c.compileFilter P f = .ok (e, opts)) :
    ∃ gs, (f.groups.mapM fun g => g.mapM (compileCondition P)) = .ok gs ∧
      e.Equivalent (disjunction (gs.map conjunction)) := by
  cases hin : c.inList P f with
  | none =>
    rw [compileFilter_of_inList_none hin, bind_eq_ok] at h
    obtain ⟨gs, hgs, he⟩ := h
    cases he
    exact ⟨gs, hgs, .refl _⟩
  | some x =>
    obtain ⟨e', opt⟩ := x
    rw [compileFilter_of_inList_some hin] at h
    cases h
    obtain ⟨hlen, first, key, vs, hhead, hchain, rfl, -⟩ := inList_eq_some_iff.mp hin
    refine ⟨_, groups_compile_of_chain hdot hchain hhead, ?_⟩
    -- the rewrite needs two groups, so there is a first value
    obtain ⟨v, vs, rfl⟩ := hchain.exists_cons (by omega)
    rw [List.map_map]
    exact inList_equivalent rfl v vs

end Chains

/-! ## Thresholds -/

/-- Two computations agree up to `R`: they fail with the same error, or both succeed with results
related by `R`. -/
def Agrees {ε α β : Type} (R : α → β → Prop) (x : Except ε α) (y : Except ε β) : Prop :=
  (∃ e, x = .error e ∧ y = .error e) ∨ ∃ a b, x = .ok a ∧ y = .ok b ∧ R a b

namespace Agrees

variable {ε α β γ δ : Type}

theorem refl (x : Except ε α) : Agrees Eq x x := by
  cases x with
  | error e => exact .inl ⟨e, rfl, rfl⟩
  | ok a => exact .inr ⟨a, a, rfl, rfl, rfl⟩

theorem pure {R : α → β → Prop} {a : α} {b : β} (h : R a b) : Agrees R (pure a : Except ε α) (pure b) :=
  .inr ⟨a, b, rfl, rfl, h⟩

theorem bind {R : α → β → Prop} {S : γ → δ → Prop} {x : Except ε α} {y : Except ε β}
    {f : α → Except ε γ} {g : β → Except ε δ} (h : Agrees R x y)
    (hf : ∀ a b, R a b → Agrees S (f a) (g b)) :
    Agrees S (x >>= f) (y >>= g) := by
  rcases h with ⟨e, rfl, rfl⟩ | ⟨a, b, rfl, rfl, hab⟩
  · exact .inl ⟨e, rfl, rfl⟩
  · exact hf a b hab

theorem map {R : α → β → Prop} {S : γ → δ → Prop} {x : Except ε α} {y : Except ε β}
    {f : α → γ} {g : β → δ} (h : Agrees R x y) (hf : ∀ a b, R a b → S (f a) (g b)) :
    Agrees S (f <$> x) (g <$> y) := by
  rcases h with ⟨e, rfl, rfl⟩ | ⟨a, b, rfl, rfl, hab⟩
  · exact .inl ⟨e, rfl, rfl⟩
  · exact .inr ⟨f a, g b, rfl, rfl, hf a b hab⟩

end Agrees

/-- Compilers of any two thresholds compile a filter whose columns have no dot alike: they fail
with the same error, or both succeed with equivalent conditions. -/
theorem compileFilter_agrees {P : QueryPlan} {f : FilterTree}
    (hdot : ∀ cond ∈ f.conditions, '.' ∉ cond.column.toList) (c₁ c₂ : Compiler) :
    Agrees (fun x₁ x₂ : Expr × List Optimization => x₁.1.Equivalent x₂.1)
      (c₁.compileFilter P f) (c₂.compileFilter P f) := by
  cases h₁ : c₁.compileFilter P f with
  | error e =>
    -- the error is that of the first rejected condition, whatever the threshold
    exact .inl ⟨e, rfl, compileFilter_eq_error.mpr (compileFilter_eq_error.mp h₁)⟩
  | ok x₁ =>
    cases h₂ : c₂.compileFilter P f with
    | error e =>
      rw [compileFilter_eq_error.mpr (compileFilter_eq_error.mp h₂)] at h₁
      cases h₁
    | ok x₂ =>
      obtain ⟨gs₁, hgs₁, he₁⟩ := compileFilter_equivalent hdot h₁
      obtain ⟨gs₂, hgs₂, he₂⟩ := compileFilter_equivalent hdot h₂
      rw [hgs₁] at hgs₂
      cases hgs₂
      exact .inr ⟨x₁, x₂, rfl, rfl, he₁.trans he₂.symm⟩

/-- Two statements agree when they are the same but for their conditions, which are equivalent. -/
def Select.Agree (s₁ s₂ : Select) : Prop :=
  { s₁ with filter := s₂.filter } = s₂ ∧ Option.Rel Expr.Equivalent s₁.filter s₂.filter

/-- What a change of a statement that leaves its condition alone keeps. -/
theorem Select.Agree.map {s₁ s₂ : Select} (h : s₁.Agree s₂) (g : Select → Select)
    (hg : ∀ s, (g s).filter = s.filter)
    (hcomm : ∀ s e, g { s with filter := e } = { g s with filter := e }) :
    (g s₁).Agree (g s₂) := by
  obtain ⟨hs, hf⟩ := h
  refine ⟨?_, ?_⟩
  · rw [hg, ← hcomm, hs]
  · rw [hg, hg]
    exact hf

/-- Two compiled plans agree when their statements do. -/
def Compiled.Agree (o₁ o₂ : Compiled) : Prop :=
  o₁.select.Agree o₂.select ∧ Option.Rel Select.Agree o₁.count o₂.count

section Thresholds

variable {c₁ c₂ : Compiler} {P : QueryPlan}

theorem model_eq_of_registry (h : c₁.registry = c₂.registry) : c₁.model = c₂.model := by
  funext name
  simp [Compiler.model, h]

theorem joinRelation_eq_of_registry (h : c₁.registry = c₂.registry) :
    c₁.joinRelation = c₂.joinRelation := by
  funext p n
  simp [Compiler.joinRelation, model_eq_of_registry h]

variable (hreg : c₁.registry = c₂.registry)
  (hdot : ∀ f ∈ P.filter, ∀ cond ∈ f.conditions, '.' ∉ cond.column.toList)
include hreg hdot

/-- Compilers over one registry build the same tables and joins, and equivalent filters. -/
theorem base_agrees :
    Agrees (fun x₁ x₂ : Select × List Optimization => x₁.1.Agree x₂.1) (c₁.base P) (c₂.base P) := by
  unfold Compiler.base
  rw [model_eq_of_registry hreg, joinRelation_eq_of_registry hreg]
  refine Agrees.bind (Agrees.refl _) fun root _ hroot => ?_
  subst hroot
  refine Agrees.bind (Agrees.refl _) fun joins _ hjoins => ?_
  subst hjoins
  -- only the filter is compiled differently
  dsimp only
  cases hf : P.filter with
  | none => exact Agrees.pure ⟨rfl, .none⟩
  | some f =>
    exact Agrees.bind (compileFilter_agrees (hdot f hf) c₁ c₂) fun ⟨_, _⟩ ⟨_, _⟩ hy =>
      Agrees.pure ⟨rfl, .some hy⟩

/-- The main statements of compilers over one registry agree. -/
theorem selectStatement_agrees :
    Agrees (fun x₁ x₂ : Select × List Optimization => x₁.1.Agree x₂.1)
      (c₁.selectStatement P) (c₂.selectStatement P) := by
  unfold Compiler.selectStatement
  exact Agrees.bind (base_agrees hreg hdot) fun ⟨_, _⟩ ⟨_, _⟩ hs =>
    Agrees.pure (Select.Agree.map hs
      (g := fun s => { s with items := _, groupBy := _, orderBy := _, limit := _, offset := _ })
      (fun _ => rfl) fun _ _ => rfl)

/-- The count statements of compilers over one registry agree. -/
theorem countStatement_agrees : Agrees Select.Agree (c₁.countStatement P) (c₂.countStatement P) := by
  unfold Compiler.countStatement
  rw [model_eq_of_registry hreg, joinRelation_eq_of_registry hreg]
  refine Agrees.bind (base_agrees hreg hdot) fun ⟨_, _⟩ ⟨_, _⟩ hs => ?_
  refine Agrees.bind (Agrees.refl _) fun root _ hroot => ?_
  subst hroot
  refine Agrees.bind (Agrees.refl _) fun fansOut _ hfans => ?_
  subst hfans
  exact Agrees.pure
    (Select.Agree.map hs (g := fun s => { s with items := _ }) (fun _ => rfl) fun _ _ => rfl)

/-- Compilers over one registry compile a plan whose columns have no dot alike. -/
theorem compile_agrees : Agrees Compiled.Agree (c₁.compile P) (c₂.compile P) := by
  unfold Compiler.compile
  refine Agrees.bind (selectStatement_agrees hreg hdot) fun ⟨_, _⟩ ⟨_, _⟩ hs => ?_
  dsimp only
  split
  · exact Agrees.bind (Agrees.map (countStatement_agrees hreg hdot) fun _ _ h => Option.Rel.some h)
      fun _ _ hcount => Agrees.pure ⟨hs, hcount⟩
  · exact Agrees.pure ⟨hs, .none⟩

end Thresholds

/-- The optimizations a compiled plan reports are those of its compiled filter, which is the
condition of its main statement. -/
theorem compile_optimizations {c : Compiler} {P : QueryPlan} {out : Compiled} {f : FilterTree}
    (h : c.compile P = .ok out) (hf : P.filter = some f) :
    ∃ e, c.compileFilter P f = .ok (e, out.optimizations) ∧ out.select.filter = some e := by
  obtain ⟨b, hb, -, -, -, hfilter, -⟩ := selectStatement_eq_ok (compile_eq_ok h).1
  unfold Compiler.base at hb
  obtain ⟨root, -, hb⟩ := bind_eq_ok.mp hb
  obtain ⟨joins, -, hb⟩ := bind_eq_ok.mp hb
  dsimp only at hb
  split at hb
  · rename_i f' hf'
    rw [hf, Option.some.injEq] at hf'
    subst hf'
    obtain ⟨⟨e, o⟩, hc, hb⟩ := bind_eq_ok.mp hb
    simp only [pure, Except.pure, bind, Except.bind, Except.ok.injEq, Prod.mk.injEq] at hb
    obtain ⟨rfl, rfl⟩ := hb
    exact ⟨e, hc, hfilter⟩
  · rename_i hnone
    rw [hf] at hnone
    cases hnone

/-- A compiled filter reports an optimization exactly when the rewrite fired. -/
theorem compileFilter_optimizations {c : Compiler} {P : QueryPlan} {f : FilterTree} {e : Expr}
    {opts : List Optimization} (h : c.compileFilter P f = .ok (e, opts)) :
    opts ≠ [] ↔ ∃ e opt, c.inList P f = some (e, opt) := by
  unfold Compiler.compileFilter at h
  split at h
  · rename_i e' opt hin
    cases h
    simp [hin]
  · rename_i hin
    obtain ⟨gs, -, h⟩ := bind_eq_ok.mp h
    cases h
    simp [hin]

section Translated

variable {tr : Translator} {route : String} {p : Params} {r : PlannedRequest}

/-- The conditions of a filter read from a `where` value are on columns without a dot. -/
theorem filterOf_columns_dotFree {value : String} {pf : ParsedFilter} (h : filterOf value = some pf) :
    ∀ cond ∈ pf.filter.conditions, '.' ∉ cond.column.toList := by
  unfold filterOf at h
  split at h
  · rename_i clauses hparse
    cases h
    intro cond hcond
    rw [filterOfClauses, conditions_fold, List.map_map] at hcond
    obtain ⟨clause, hclause, rfl⟩ := List.mem_map.mp hcond
    exact Filter.parse_column_dotFree hparse clause hclause
  · cases h

/-- The conditions of a translated plan are on columns without a dot. -/
theorem translate_columns_dotFree (h : (tr.translate route p).1 = .ok r) :
    ∀ f ∈ r.plan.filter, ∀ cond ∈ f.conditions, '.' ∉ cond.column.toList := by
  obtain ⟨model, w, -, hrun⟩ := translate_eq_ok h
  obtain ⟨hfilter, -⟩ := build_window tr model p _ rfl r w hrun
  intro f hf
  rw [hfilter] at hf
  obtain ⟨pf, hpf, rfl⟩ := Option.map_eq_some_iff.mp hf
  obtain ⟨value, -, hv⟩ := Option.bind_eq_some_iff.mp hpf
  exact filterOf_columns_dotFree hv

/-- For every translated plan, compilers that differ only in the threshold of the `IN` rewrite fail
with the same error or build the same statements but for their conditions, which are equivalent
and bind the same values in the same order. The rewrite fires on a filter exactly when it has at
least as many groups as the threshold, and at least two, each a single equality (`eq` or `$eq`)
with one value, all under one key; it then puts the values in an `IN` list on the first
condition's column and reports the key and the number of values, where the compiler without the
rewrite builds the equivalent disjunction of that column's equalities with the values. -/
theorem compile_inRewrite_sound (h : (tr.translate route p).1 = .ok r) (c : Compiler) (t₁ t₂ : Nat) :
    Agrees Compiled.Agree ({ c with orThreshold := t₁ }.compile r.plan)
      ({ c with orThreshold := t₂ }.compile r.plan) ∧
    ∀ f ∈ r.plan.filter, ∀ t : Nat,
      ((∃ e opt, { c with orThreshold := t }.inList r.plan f = some (e, opt)) ↔
        max t 2 ≤ f.groups.length ∧ ∃ key vs, EqualityChain f key vs) ∧
      (∀ out, { c with orThreshold := t }.compile r.plan = .ok out →
        (out.optimizations ≠ [] ↔ max t 2 ≤ f.groups.length ∧ ∃ key vs, EqualityChain f key vs)) ∧
      ∀ key vs, max t 2 ≤ f.groups.length → EqualityChain f key vs →
        ∃ first, f.groups.head? = some [first] ∧
          let col := columnAt r.plan first.path first.column
          { c with orThreshold := t }.compileFilter r.plan f =
            .ok (.binary col .isIn (.tuple (vs.map operand)), [.orToIn key vs.length]) ∧
          (∀ out, { c with orThreshold := t }.compile r.plan = .ok out →
            out.optimizations = [.orToIn key vs.length] ∧
            out.select.filter = some (.binary col .isIn (.tuple (vs.map operand)))) ∧
          { c with orThreshold := f.groups.length + 1 }.compileFilter r.plan f =
            .ok (disjunction (vs.map fun v => .binary col .eq (operand v)), []) ∧
          (Expr.binary col .isIn (.tuple (vs.map operand))).Equivalent
            (disjunction (vs.map fun v => .binary col .eq (operand v))) := by
  have hdot := translate_columns_dotFree h
  refine ⟨compile_agrees rfl hdot, fun f hf t => ⟨inList_isSome_iff, fun out hout => ?_,
    fun key vs hlen hchain => ?_⟩⟩
  · obtain ⟨e, hc, -⟩ := compile_optimizations hout hf
    rw [compileFilter_optimizations hc, inList_isSome_iff]
  obtain ⟨first, hhead⟩ := hchain.exists_head (by omega)
  have hin : { c with orThreshold := t }.inList r.plan f =
      some (.binary (columnAt r.plan first.path first.column) .isIn (.tuple (vs.map operand)),
        .orToIn key vs.length) :=
    inList_eq_some_iff.mpr ⟨hlen, first, key, vs, hhead, hchain, rfl, rfl⟩
  have hfast := compileFilter_of_inList_some hin
  -- above the number of groups the rewrite is off
  have hoff : { c with orThreshold := f.groups.length + 1 }.inList r.plan f = none := by
    unfold Compiler.inList
    rw [if_pos (by dsimp only; omega)]
  refine ⟨first, hhead, hfast, fun out hout => ?_, ?_, ?_⟩
  · obtain ⟨e, hc, hsel⟩ := compile_optimizations hout hf
    rw [hfast, Except.ok.injEq, Prod.mk.injEq] at hc
    obtain ⟨rfl, hopts⟩ := hc
    exact ⟨hopts.symm, hsel⟩
  · rw [compileFilter_of_inList_none hoff, groups_compile_of_chain (hdot f hf) hchain hhead]
    simp only [bind, Except.bind, pure, Except.pure, List.map_map]
    rfl
  · obtain ⟨v, vs', rfl⟩ := hchain.exists_cons (by omega)
    exact inList_equivalent rfl v vs'

/-- Two equalities on the name, joined by `OR`: at threshold 2 the rewrite fires and reports the
key and its two values, and the compiler at threshold 5, which builds the disjunction, agrees with
it. -/
theorem shop_inRewrite :
    ∃ r out, (shop.translate "customers" { filter := some "[name,eq,a]OR[name,eq,b]" }).1 = .ok r ∧
    { shopCompiler with orThreshold := 2 }.compile r.plan = .ok out ∧
    out.optimizations = [.orToIn "name" 2] ∧
    Agrees Compiled.Agree ({ shopCompiler with orThreshold := 2 }.compile r.plan)
      ({ shopCompiler with orThreshold := 5 }.compile r.plan) ∧
    ∀ f ∈ r.plan.filter, ∀ t : Nat,
      ((∃ e opt, { shopCompiler with orThreshold := t }.inList r.plan f = some (e, opt)) ↔
        max t 2 ≤ f.groups.length ∧ ∃ key vs, EqualityChain f key vs) ∧
      (∀ out, { shopCompiler with orThreshold := t }.compile r.plan = .ok out →
        (out.optimizations ≠ [] ↔ max t 2 ≤ f.groups.length ∧ ∃ key vs, EqualityChain f key vs)) ∧
      ∀ key vs, max t 2 ≤ f.groups.length → EqualityChain f key vs →
        ∃ first, f.groups.head? = some [first] ∧
          let col := columnAt r.plan first.path first.column
          { shopCompiler with orThreshold := t }.compileFilter r.plan f =
            .ok (.binary col .isIn (.tuple (vs.map operand)), [.orToIn key vs.length]) ∧
          (∀ out, { shopCompiler with orThreshold := t }.compile r.plan = .ok out →
            out.optimizations = [.orToIn key vs.length] ∧
            out.select.filter = some (.binary col .isIn (.tuple (vs.map operand)))) ∧
          { shopCompiler with orThreshold := f.groups.length + 1 }.compileFilter r.plan f =
            .ok (disjunction (vs.map fun v => .binary col .eq (operand v)), []) ∧
          (Expr.binary col .isIn (.tuple (vs.map operand))).Equivalent
            (disjunction (vs.map fun v => .binary col .eq (operand v))) := by
  obtain ⟨r, out, hres, hcomp, hopt⟩ := @exists_compiled
    (shop.translate "customers" { filter := some "[name,eq,a]OR[name,eq,b]" }).1
    { shopCompiler with orThreshold := 2 } (fun _ out => out.optimizations == [.orToIn "name" 2])
    (by decide +kernel)
  exact ⟨r, out, hres, hcomp, beq_iff_eq.mp hopt, compile_inRewrite_sound hres shopCompiler 2 5⟩

end Translated

end Sql
end RestQuery
