import RestQuery.Proofs.InRewrite
import Mathlib.Data.Finset.Card

/-!
# Evaluating statements on a database

A database gives the rows of each table, and a row gives each column a value
or `NULL`.  A statement is evaluated as SQL evaluates `FROM` with left joins,
`WHERE` and `COUNT`: the rows of the root table, under the root's alias, are
extended join by join, each by every row of the joined table on which the
join's condition holds, or by a row of `NULL`s when none does, and the
`WHERE` keeps the rows on which it holds.  Conditions take three truth
values: an equality of two columns is unknown when either is `NULL`, and
every other predicate is left to a parameter, `atom`.  SQL refuses a
statement that declares two tables under one alias; such a statement has
no rows here.

Each row of a join carries the position of the root row it extends, so that
the root rows a statement returns something for can be counted.  Two facts
carry the counts: joins under other aliases keep every root row and never
change the root row a row extends (`RootRows`), and joins that match each
row at most once keep the positions one for one (`map_fst_foldl_leftJoin`).

**Results.**
* `matches_length_le`: a join on a unique column matches at most one row.
* `Select.countValue_star`: `COUNT(*)` over joins that each match at most
  one row counts the root rows returned.
* `Select.countValue_distinct`: `COUNT(DISTINCT)` of the root's primary key
  counts the root rows returned, over any joins.
* `Select.returnedRoots_of_filter`: with no `WHERE`, every root row is
  returned.
-/

namespace RestQuery
namespace Sql

/-- A row of a table: the value in each column, `none` for `NULL`. -/
abbrev Record (V : Type) := String → Option V

/-- The rows of each table of a database, by the table's name. -/
abbrev Database (V : Type) := String → List (Record V)

/-- A row of a join: the row of each table, by the alias the table is declared under. -/
abbrev Env (V : Type) := String → Record V

section Semantics

variable {V : Type} [DecidableEq V]

/-- The row of `NULL`s that a left join adds where nothing matches. -/
def Record.null : Record V := fun _ => none

/-- `x = y` on two cells: unknown when either is `NULL`. -/
def cellEq : Option V → Option V → Truth
  | some x, some y => if x = y then .yes else .no
  | _, _ => .unknown

/-- What a row of a join makes of a condition: an equality of two columns compares their
cells, and every other predicate is what `atom` says of the row. -/
def Env.row (atom : Env V → Expr → Truth) (env : Env V) : Row where
  equal l r := match l, r with
    | .column a (some x), .column b (some y) => cellEq (env a x) (env b y)
    | l, r => atom env (.binary l .eq r)
  atom := atom env

/-- The rows of a join's table on which its condition holds, next to a row of the join. -/
def Join.matches (db : Database V) (atom : Env V → Expr → Truth) (j : Join) (env : Env V) :
    List (Record V) :=
  (db j.table).filter fun t =>
    j.condition.truth (Env.row atom (Function.update env j.aliasName t)) = .yes

/-- What a left join makes of one row: the row with each row of the table that matches, or with
a row of `NULL`s when none does. -/
def Join.extend (db : Database V) (atom : Env V → Expr → Truth) (j : Join) (env : Env V) :
    List (Env V) :=
  match j.matches db atom env with
  | [] => [Function.update env j.aliasName Record.null]
  | ts => ts.map (Function.update env j.aliasName)

/-- A left join of the rows of a join, each with the position of the root row it extends. -/
def leftJoin (db : Database V) (atom : Env V → Expr → Truth) (rows : List (Nat × Env V))
    (j : Join) : List (Nat × Env V) :=
  rows.flatMap fun x => (j.extend db atom x.2).map (x.1, ·)

/-- The rows of a statement's root table, each under the root's alias, with its position. -/
def Select.rootRows (db : Database V) (s : Select) : List (Nat × Env V) :=
  (db s.table).zipIdx.map fun x => (x.2, Function.update (fun _ => Record.null) s.aliasName x.1)

/-- The aliases a statement declares its tables under, the root's first. -/
def Select.aliases (s : Select) : List String :=
  s.aliasName :: s.joins.map (·.aliasName)

/-- The rows of a statement's `FROM` and joins; none when two tables share an alias, which SQL
refuses. -/
def Select.joined (db : Database V) (atom : Env V → Expr → Truth) (s : Select) :
    Option (List (Nat × Env V)) :=
  if s.aliases.Nodup then
    some (s.joins.foldl (leftJoin db atom) (s.rootRows db))
  else none

/-- Whether a statement's `WHERE` holds on a row; it always does when there is none. -/
def Select.passes (atom : Env V → Expr → Truth) (s : Select) (env : Env V) : Bool :=
  match s.filter with
  | none => true
  | some e => e.truth (env.row atom) = .yes

/-- The rows a statement keeps: those of its joins on which its `WHERE` holds. -/
def Select.kept (db : Database V) (atom : Env V → Expr → Truth) (s : Select) :
    Option (List (Nat × Env V)) :=
  (s.joined db atom).map (·.filter fun x => s.passes atom x.2)

/-- `COUNT(arg)` over rows: all of them for `*`, and for `DISTINCT` on a column the distinct
values in it that are not `NULL`. -/
def countOf (rows : List (Env V)) : Expr → Option Nat
  | .star => some rows.length
  | .distinct (.column a (some col)) => some (rows.filterMap fun env => env a col).toFinset.card
  | _ => none

/-- The value of a statement that selects one `COUNT`. -/
def Select.countValue (db : Database V) (atom : Env V → Expr → Truth) (s : Select) : Option Nat :=
  match s.items with
  | [{ expr := .call "COUNT" [arg], .. }] =>
    (s.kept db atom).bind fun rows => countOf (rows.map Prod.snd) arg
  | _ => none

/-- The number of rows of a statement's root table that some row it keeps extends. -/
def Select.returnedRoots (db : Database V) (atom : Env V → Expr → Truth) (s : Select) :
    Option Nat :=
  (s.kept db atom).map fun rows =>
    ((Finset.range (db s.table).length).filter fun i => ∃ x ∈ rows, x.1 = i).card

/-- A column whose values, where not `NULL`, are pairwise distinct, as `UNIQUE` asks. -/
def UniqueColumn (rows : List (Record V)) (col : String) : Prop :=
  (rows.filterMap (· col)).Nodup

/-- A column that is never `NULL` and unique, as `PRIMARY KEY` asks. -/
def KeyColumn (rows : List (Record V)) (col : String) : Prop :=
  (∀ t ∈ rows, (t col).isSome) ∧ (rows.map (· col)).Nodup

theorem cellEq_eq_yes {x y : Option V} : cellEq x y = .yes ↔ ∃ v, x = some v ∧ y = some v := by
  cases x <;> cases y <;> simp [cellEq, eq_comm]

variable {db : Database V} {atom : Env V → Expr → Truth}

theorem mem_extend {j : Join} {env e : Env V} (he : e ∈ j.extend db atom env) :
    ∃ t, e = Function.update env j.aliasName t := by
  unfold Join.extend at he
  split at he
  · exact ⟨Record.null, List.mem_singleton.mp he⟩
  · obtain ⟨t, -, rfl⟩ := List.mem_map.mp he
    exact ⟨t, rfl⟩

theorem extend_ne_nil (j : Join) (env : Env V) : j.extend db atom env ≠ [] := by
  unfold Join.extend
  split
  · simp
  · simpa

theorem length_extend {j : Join} {env : Env V} (h : (j.matches db atom env).length ≤ 1) :
    (j.extend db atom env).length = 1 := by
  unfold Join.extend
  split
  · rfl
  · next _ hne =>
    have := List.length_pos_iff.mpr hne
    simp only [List.length_map]
    omega

theorem mem_leftJoin {rows : List (Nat × Env V)} {j : Join} {x : Nat × Env V}
    (hx : x ∈ leftJoin db atom rows j) :
    ∃ y ∈ rows, x.1 = y.1 ∧ ∃ t, x.2 = Function.update y.2 j.aliasName t := by
  obtain ⟨y, hy, hx⟩ := List.mem_flatMap.mp hx
  obtain ⟨e, he, rfl⟩ := List.mem_map.mp hx
  exact ⟨y, hy, rfl, mem_extend he⟩

theorem exists_leftJoin {rows : List (Nat × Env V)} (j : Join) {y : Nat × Env V} (hy : y ∈ rows) :
    ∃ x ∈ leftJoin db atom rows j, x.1 = y.1 := by
  have hne : j.extend db atom y.2 ≠ [] := extend_ne_nil j y.2
  obtain ⟨e, he⟩ := List.exists_mem_of_ne_nil _ hne
  exact ⟨(y.1, e), List.mem_flatMap.mpr ⟨y, hy, List.mem_map_of_mem he⟩, rfl⟩

/-- A left join that matches each row at most once keeps the rows' root positions, in order. -/
theorem map_fst_leftJoin {j : Join} (hj : ∀ env, (j.matches db atom env).length ≤ 1)
    (rows : List (Nat × Env V)) : (leftJoin db atom rows j).map Prod.fst = rows.map Prod.fst := by
  induction rows with
  | nil => rfl
  | cons y rows ih =>
    obtain ⟨e, he⟩ := List.length_eq_one_iff.mp (length_extend (hj y.2))
    rw [leftJoin, List.flatMap_cons, he] at *
    simpa using ih

/-- What the rows of a join keep of its root table, under alias `a`: each extends the root row
at its position, and each root row is extended by one of them. -/
structure RootRows (roots : List (Record V)) (a : String) (rows : List (Nat × Env V)) : Prop where
  root : ∀ x ∈ rows, roots[x.1]? = some (x.2 a)
  covers : ∀ i < roots.length, ∃ x ∈ rows, x.1 = i

namespace RootRows

variable {roots : List (Record V)} {a : String} {rows : List (Nat × Env V)}

omit [DecidableEq V] in
theorem lt (h : RootRows roots a rows) {x : Nat × Env V} (hx : x ∈ rows) : x.1 < roots.length :=
  (List.getElem?_eq_some_iff.mp (h.root x hx)).1

/-- A left join under another alias keeps the root rows. -/
theorem leftJoin (h : RootRows roots a rows) {j : Join} (hj : j.aliasName ≠ a) :
    RootRows roots a (leftJoin db atom rows j) where
  root x hx := by
    obtain ⟨y, hy, h1, t, h2⟩ := mem_leftJoin hx
    rw [h1, h2, Function.update_of_ne hj.symm]
    exact h.root y hy
  covers i hi := by
    obtain ⟨y, hy, rfl⟩ := h.covers i hi
    exact exists_leftJoin j hy

/-- Left joins under other aliases keep the root rows. -/
theorem foldl (h : RootRows roots a rows) {js : List Join} (hjs : ∀ j ∈ js, j.aliasName ≠ a) :
    RootRows roots a (js.foldl (Sql.leftJoin db atom) rows) := by
  induction js generalizing rows with
  | nil => exact h
  | cons j js ih =>
    exact ih (h.leftJoin (hjs j List.mem_cons_self)) fun j' hj' =>
      hjs j' (List.mem_cons_of_mem j hj')

end RootRows

/-- Left joins that match each row at most once keep the rows' root positions, in order. -/
theorem map_fst_foldl_leftJoin {js : List Join}
    (hjs : ∀ j ∈ js, ∀ env, (j.matches db atom env).length ≤ 1) (rows : List (Nat × Env V)) :
    (js.foldl (leftJoin db atom) rows).map Prod.fst = rows.map Prod.fst := by
  induction js generalizing rows with
  | nil => rfl
  | cons j js ih =>
    rw [List.foldl_cons, ih (fun j' hj' => hjs j' (List.mem_cons_of_mem j hj')),
      map_fst_leftJoin (hjs j List.mem_cons_self)]

omit [DecidableEq V] in
theorem rootRows_rootRows (s : Select) : RootRows (db s.table) s.aliasName (s.rootRows db) where
  root x hx := by
    obtain ⟨y, hy, rfl⟩ := List.mem_map.mp hx
    dsimp only
    rw [Function.update_self]
    exact List.mem_zipIdx_iff_getElem?.mp hy
  covers i hi := by
    refine ⟨_, List.mem_map.mpr ⟨((db s.table)[i], i), ?_, rfl⟩, rfl⟩
    exact List.mem_zipIdx_iff_getElem?.mpr (List.getElem?_eq_getElem hi)

omit [DecidableEq V] in
theorem map_fst_rootRows (s : Select) :
    (s.rootRows db).map Prod.fst = List.range (db s.table).length := by
  rw [Select.rootRows, List.map_map, List.range_eq_range', ← List.zipIdx_map_snd 0]
  rfl

/-- A unique column holds a value in at most one row. -/
theorem UniqueColumn.length_filter_le {rows : List (Record V)} {col : String}
    (h : UniqueColumn rows col) (v : V) : (rows.filter fun t => t col = some v).length ≤ 1 := by
  induction rows with
  | nil => simp
  | cons t rows ih =>
    unfold UniqueColumn at h ih
    cases ht : t col with
    | none =>
      simp only [List.filterMap_cons, ht] at h
      simpa [ht] using ih h
    | some w =>
      simp only [List.filterMap_cons, ht] at h
      obtain ⟨hw, hnd⟩ := List.nodup_cons.mp h
      by_cases hv : w = v
      · -- no other row holds the value
        subst hv
        have hrest : (rows.filter fun t => t col = some w) = [] :=
          List.filter_eq_nil_iff.mpr fun t' ht' h' =>
            hw (List.mem_filterMap.mpr ⟨t', ht', by simpa using h'⟩)
        simp [ht, hrest]
      · simpa [ht, hv] using ih hnd

omit [DecidableEq V] in
/-- Two rows with one value in a primary key column are one row. -/
theorem KeyColumn.position_eq {roots : List (Record V)} {pk : String} (h : KeyColumn roots pk)
    {i j : Nat} {t t' : Record V} (hi : roots[i]? = some t) (hj : roots[j]? = some t')
    (he : t pk = t' pk) : i = j := by
  have hil : i < (roots.map (· pk)).length := by
    simpa using (List.getElem?_eq_some_iff.mp hi).1
  refine (List.getElem?_inj hil h.2).mp ?_
  simp [List.getElem?_map, hi, hj, he]

/-- Counting the distinct values of `f` counts the classes of `g` when the two tell the same
elements apart. -/
theorem card_toFinset_filterMap {α β γ : Type} [DecidableEq β] [DecidableEq γ] {f : α → Option β}
    {g : α → γ} {l : List α} (hsome : ∀ x ∈ l, (f x).isSome)
    (heq : ∀ x ∈ l, ∀ y ∈ l, f x = f y ↔ g x = g y) :
    (l.filterMap f).toFinset.card = (l.map g).toFinset.card := by
  induction l with
  | nil => rfl
  | cons a l ih =>
    obtain ⟨b, hb⟩ := Option.isSome_iff_exists.mp (hsome a List.mem_cons_self)
    have hmem : b ∈ (l.filterMap f).toFinset ↔ g a ∈ (l.map g).toFinset := by
      simp only [List.mem_toFinset, List.mem_filterMap, List.mem_map]
      constructor
      · rintro ⟨y, hy, hfy⟩
        exact ⟨y, hy, (heq y (List.mem_cons_of_mem a hy) a List.mem_cons_self).mp (hfy.trans hb.symm)⟩
      · rintro ⟨y, hy, hgy⟩
        exact ⟨y, hy, ((heq y (List.mem_cons_of_mem a hy) a List.mem_cons_self).mpr hgy).trans hb⟩
    rw [List.filterMap_cons_some hb, List.map_cons, List.toFinset_cons, List.toFinset_cons,
      Finset.card_insert_eq_ite, Finset.card_insert_eq_ite,
      ih (fun x hx => hsome x (List.mem_cons_of_mem a hx))
        (fun x hx y hy => heq x (List.mem_cons_of_mem a hx) y (List.mem_cons_of_mem a hy))]
    simp only [hmem]

omit [DecidableEq V] in
/-- The root positions of rows, all below `n`, are the positions below `n` that some row has. -/
theorem toFinset_map_fst {rows : List (Nat × Env V)} {n : Nat} (h : ∀ x ∈ rows, x.1 < n) :
    (rows.map Prod.fst).toFinset = (Finset.range n).filter fun i => ∃ x ∈ rows, x.1 = i := by
  ext i
  simp only [List.mem_toFinset, List.mem_map, Finset.mem_filter, Finset.mem_range]
  constructor
  · rintro ⟨x, hx, rfl⟩
    exact ⟨h x hx, x, hx, rfl⟩
  · rintro ⟨-, x, hx, rfl⟩
    exact ⟨x, hx, rfl⟩

/-- A join on the equality of a column under another alias with a unique column of the joined
table matches at most one row. -/
theorem matches_length_le {j : Join} {a sk tk : String}
    (hcond : j.condition = .binary (.column a (some sk)) .eq (.column j.aliasName (some tk)))
    (hne : a ≠ j.aliasName) (huniq : UniqueColumn (db j.table) tk) (env : Env V) :
    (j.matches db atom env).length ≤ 1 := by
  have hm : j.matches db atom env = (db j.table).filter fun t => cellEq (env a sk) (t tk) = .yes := by
    simp only [Join.matches, hcond, Expr.truth, Env.row, Function.update_of_ne hne,
      Function.update_self]
  rw [hm]
  cases hv : env a sk with
  | none => simp [cellEq]
  | some v => simpa [cellEq_eq_yes] using huniq.length_filter_le v

namespace Select

variable {s : Select}

/-- The rows of the joins of a statement whose aliases are distinct. -/
theorem kept_eq (hnd : s.aliases.Nodup) :
    s.kept db atom =
      some ((s.joins.foldl (leftJoin db atom) (s.rootRows db)).filter fun x => s.passes atom x.2) := by
  simp [kept, joined, hnd]

/-- The joins of a statement whose aliases are distinct keep its root rows. -/
theorem rootRows_foldl (hnd : s.aliases.Nodup) :
    RootRows (db s.table) s.aliasName (s.joins.foldl (leftJoin db atom) (s.rootRows db)) := by
  refine (rootRows_rootRows s).foldl fun j hj he => (List.nodup_cons.mp hnd).1 ?_
  exact he ▸ List.mem_map_of_mem hj

theorem returnedRoots_eq (hnd : s.aliases.Nodup) :
    s.returnedRoots db atom = some
      ((((s.joins.foldl (leftJoin db atom) (s.rootRows db)).filter fun x => s.passes atom x.2).map
        Prod.fst).toFinset.card) := by
  rw [returnedRoots, kept_eq hnd, Option.map_some,
    toFinset_map_fst fun x hx => (rootRows_foldl hnd).lt (List.mem_of_mem_filter hx)]

/-- With no `WHERE`, every root row is returned. -/
theorem returnedRoots_of_filter (hnd : s.aliases.Nodup)
    (hf : s.filter = none) : s.returnedRoots db atom = some (db s.table).length := by
  have hpass : ∀ env : Env V, s.passes atom env = true := fun env => by simp [passes, hf]
  rw [returnedRoots, kept_eq hnd, Option.map_some, List.filter_eq_self.mpr fun x _ => hpass x.2,
    Finset.filter_true_of_mem fun i hi => (rootRows_foldl hnd).covers i (Finset.mem_range.mp hi),
    Finset.card_range]

/-- `COUNT(*)` over joins that each match a row at most once counts the root rows returned. -/
theorem countValue_star (hnd : s.aliases.Nodup)
    (hitems : s.items = [{ expr := .call "COUNT" [.star], aliasName := some "count" }])
    (hjs : ∀ j ∈ s.joins, ∀ env, (j.matches db atom env).length ≤ 1) :
    s.countValue db atom = s.returnedRoots db atom := by
  rw [returnedRoots_eq hnd, countValue, hitems, kept_eq hnd]
  simp only [Option.bind_some, countOf, List.length_map]
  -- each root row is extended once, so the rows kept have distinct positions
  have hpos := map_fst_foldl_leftJoin hjs (s.rootRows db)
  rw [map_fst_rootRows] at hpos
  have hnodup : (((s.joins.foldl (leftJoin db atom) (s.rootRows db)).filter
      fun x => s.passes atom x.2).map Prod.fst).Nodup :=
    (List.filter_sublist.map Prod.fst).nodup (hpos ▸ List.nodup_range)
  rw [List.toFinset_card_of_nodup hnodup, List.length_map]

/-- `COUNT(DISTINCT)` of the root's primary key counts the root rows returned, whatever the joins
match. -/
theorem countValue_distinct (hnd : s.aliases.Nodup) {pk : String}
    (hitems : s.items =
      [{ expr := .call "COUNT" [.distinct (.column s.aliasName (some pk))], aliasName := some "count" }])
    (hkey : KeyColumn (db s.table) pk) :
    s.countValue db atom = s.returnedRoots db atom := by
  have hroot : RootRows (db s.table) s.aliasName (s.joins.foldl (leftJoin db atom) (s.rootRows db)) :=
    rootRows_foldl hnd
  rw [returnedRoots_eq hnd, countValue, hitems, kept_eq hnd]
  simp only [Option.bind_some, countOf, List.filterMap_map]
  congr 1
  apply card_toFinset_filterMap
  · -- every root row has a key
    intro x hx
    exact hkey.1 _ (List.mem_of_getElem? (hroot.root x (List.mem_of_mem_filter hx)))
  · -- rows extend one root row exactly when they have its key
    intro x hx y hy
    have hxr := hroot.root x (List.mem_of_mem_filter hx)
    have hyr := hroot.root y (List.mem_of_mem_filter hy)
    constructor
    · exact hkey.position_eq hxr hyr
    · intro hxy
      rw [hxy, hyr, Option.some.injEq] at hxr
      simp [hxr]

/-- Statements that share their tables, aliases, joins and filter return rows for the same root
rows. -/
theorem returnedRoots_congr {t : Select} (ht : s.table = t.table) (ha : s.aliasName = t.aliasName)
    (hj : s.joins = t.joins) (hf : s.filter = t.filter) :
    s.returnedRoots db atom = t.returnedRoots db atom := by
  have hal : s.aliases = t.aliases := by
    rw [aliases, aliases, ha, hj]
  simp only [returnedRoots, kept, joined, rootRows, passes, hal, ht, ha, hj, hf]

/-- A statement that declares two tables under one alias has no value. -/
theorem countValue_of_clash (h : ¬ s.aliases.Nodup) :
    s.countValue db atom = none := by
  have hkept : s.kept db atom = none := by
    simp [kept, joined, h]
  unfold countValue
  split
  · rw [hkept, Option.bind_none]
  · rfl

end Select

end Semantics

end Sql
end RestQuery
