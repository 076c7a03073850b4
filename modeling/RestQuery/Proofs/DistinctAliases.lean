import RestQuery.Proofs.TableAliases
import RestQuery.Proofs.FilterGrammar

/-!
# Distinct table aliases

A compiled statement declares the root table under the model's name and every
other node of the include tree under its path, the node's alias chain joined by
dots.  Every alias a request brings into the tree is the model name of a
segment of a dotted path, which holds no dot, and turning a segment into a
model name never brings one in: upper case maps no other character to a dot.
A chain of dot-free aliases is read back from its path by splitting at the
dots, so two nodes with one path have one chain, and are one node.  The joins
of a statement are therefore declared under pairwise distinct aliases.

The root is another matter.  Its alias is the model's name, and a join's path
spells it exactly when some node's chain is that name split at its dots: a
model with a relation aliased by its own name, included from the root, is
such a case, and the statement then declares one alias twice.

**Results.**
* `split_intercalate`, `intercalate_split`: splitting at a separator inverts
  joining with it, on pieces that do not hold it.
* `pascal_dotFree`: the model name of a dot-free text is dot-free.
* `requestRefs_dotFree`: no segment of a path a request names holds a dot.
* `compile_declaredAliases_nodup`: the joins of a compiled statement have
  distinct aliases, and the root's differs from all of them exactly when no
  node's chain spells the model's name.
-/

namespace RestQuery
namespace Text

theorem splitOnAux_eq_splitOnPPrepend (sep : Char) (acc cs : List Char) :
    splitOnAux sep acc cs = List.splitOnPPrepend (· == sep) cs acc := by
  induction cs generalizing acc with
  | nil => rfl
  | cons c rest ih =>
    rw [splitOnAux, List.splitOnPPrepend_cons_eq_if]
    by_cases h : c = sep <;> simp [h, ih]

/-- Splitting a character list is the library's `List.splitOn`. -/
theorem splitOn_eq (sep : Char) (cs : List Char) : splitOn sep cs = cs.splitOn sep :=
  splitOnAux_eq_splitOnPPrepend sep [] cs

theorem not_mem_of_mem_splitOnAux {sep : Char} {p : List Char} {cs : List Char} :
    ∀ {acc : List Char}, sep ∉ acc → p ∈ splitOnAux sep acc cs → sep ∉ p := by
  induction cs with
  | nil =>
    intro acc hacc hp
    rw [splitOnAux, List.mem_singleton] at hp
    rwa [hp, List.mem_reverse]
  | cons c rest ih =>
    intro acc hacc hp
    rw [splitOnAux] at hp
    split at hp
    · rcases List.mem_cons.mp hp with rfl | hp
      · rwa [List.mem_reverse]
      · exact ih List.not_mem_nil hp
    · rename_i hc
      exact ih (fun hm => (List.mem_cons.mp hm).elim (fun he => hc he.symm) hacc) hp

/-- No piece of a split holds the separator. -/
theorem not_mem_of_mem_split {s p : String} {sep : Char} (h : p ∈ split s sep) :
    sep ∉ p.toList := by
  obtain ⟨q, hq, rfl⟩ := List.mem_map.mp h
  rw [String.toList_ofList]
  exact not_mem_of_mem_splitOnAux List.not_mem_nil hq

/-- Joining pieces at a separator none of them holds, and splitting there again, gives the
pieces back. -/
theorem split_intercalate {ps : List String} {sep : Char} (hne : ps ≠ [])
    (hsep : ∀ p ∈ ps, sep ∉ p.toList) :
    split (String.intercalate (String.singleton sep) ps) sep = ps := by
  have hchars : (String.intercalate (String.singleton sep) ps).toList =
      [sep].intercalate (ps.map String.toList) := by
    simp
  rw [split, hchars, splitOn_eq,
    List.splitOn_intercalate sep (by simpa using hsep) (by simpa using hne), List.map_map]
  simp

/-- Splitting a text and joining the pieces again gives the text back. -/
theorem intercalate_split (s : String) (sep : Char) :
    String.intercalate (String.singleton sep) (split s sep) = s := by
  rw [← String.toList_inj, String.toList_intercalate, split, splitOn_eq, List.map_map]
  simp

/-- A nonempty list of pieces without the separator is the split of its joined text. -/
theorem intercalate_eq_iff {ps : List String} {sep : Char} (hne : ps ≠ [])
    (hsep : ∀ p ∈ ps, sep ∉ p.toList) {s : String} :
    String.intercalate (String.singleton sep) ps = s ↔ ps = split s sep := by
  constructor
  · rintro rfl
    exact (split_intercalate hne hsep).symm
  · rintro rfl
    exact intercalate_split s sep

/-- Trimming keeps only characters of the text. -/
theorem mem_of_mem_trim {c : Char} {s : String} (h : c ∈ (trim s).toList) : c ∈ s.toList := by
  simp only [trim, trimEnd, trimStart, dropBlank, String.toList_ofList, List.mem_reverse] at h
  exact (List.dropWhile_suffix _).subset (List.mem_reverse.mp ((List.dropWhile_suffix _).subset h))

namespace Case

/-- No run of the upper-case table reaches the dot: the one code point a run would move onto
it is not among those it covers. -/
theorem upperRuns_miss_dot : ∀ r ∈ upperRuns, r.covers (0x2E - r.shift).toNat = false := by
  decide +kernel

theorem upperExpansions_dotFree : ∀ e ∈ upperExpansions, 0x2E ∉ e.2 := by
  decide

/-- A code point that is no character is read as the null character. -/
theorem toNat_charOfNat (n : Nat) : (Char.ofNat n).toNat = if n.isValidChar then n else 0 := by
  by_cases hn : n.isValidChar
  · rw [if_pos hn]
    exact congrArg Char.toNat (dif_pos hn)
  · rw [if_neg hn]
    exact congrArg Char.toNat (dif_neg hn)

theorem ofNat_eq_dot {n : Nat} (h : Char.ofNat n = '.') : n = 0x2E := by
  have hv := toNat_charOfNat n
  rw [h] at hv
  split at hv
  · exact hv.symm
  · cases hv

theorem lookupRun_upper_ne_dot {n k : Nat} (h : lookupRun upperRuns n = some k) : k ≠ 0x2E := by
  obtain ⟨r, hr, rfl⟩ := Option.map_eq_some_iff.mp h
  intro hk
  have hcov := List.find?_some hr
  have hn : n = (0x2E - r.shift).toNat := by
    simp only [Run.apply, Int.ofNat_eq_natCast] at hk
    omega
  have hmiss := upperRuns_miss_dot r (List.mem_of_find?_eq_some hr)
  rw [← hn, hcov] at hmiss
  cases hmiss

/-- Raising a character gives a dot only from a dot: a small letter goes down to a capital. -/
theorem toUpper_eq_dot {c : Char} (h : c.toUpper = '.') : c = '.' := by
  unfold Char.toUpper at h
  split at h
  · -- a small letter goes 32 code points down, to a capital, far past the dot
    rename_i hc
    have ha : ('a' : Char).val.toNat ≤ c.val.toNat := UInt32.le_iff_toNat_le.mp hc.1
    have hz : c.val.toNat ≤ ('z' : Char).val.toNat := UInt32.le_iff_toNat_le.mp hc.2
    have hv := congrArg (fun d : Char => d.val.toNat) h
    simp only [UInt32.toNat_add] at hv
    have h32 : ('A'.val - 'a'.val).toNat = 4294967264 := rfl
    have hdot : ('.' : Char).val.toNat = 46 := rfl
    have h97 : ('a' : Char).val.toNat = 97 := rfl
    have h122 : ('z' : Char).val.toNat = 122 := rfl
    rw [h32, hdot] at hv
    omega
  · exact h

/-- Upper case gives a dot only from a dot. -/
theorem eq_dot_of_mem_upper {c : Char} (h : '.' ∈ upper c) : c = '.' := by
  unfold upper at h
  split at h
  · exact toUpper_eq_dot (List.mem_singleton.mp h).symm
  · split at h
    · -- an expansion: no code point the table expands to is the dot
      rename_i cs hcs
      obtain ⟨n, hn, hdot⟩ := List.mem_map.mp h
      obtain ⟨e, he, rfl⟩ := Option.map_eq_some_iff.mp hcs
      exact absurd (ofNat_eq_dot hdot ▸ hn)
        (upperExpansions_dotFree e (List.mem_of_find?_eq_some he))
    · split at h
      · rename_i k hk
        exact absurd (ofNat_eq_dot (List.mem_singleton.mp h).symm) (lookupRun_upper_ne_dot hk)
      · exact (List.mem_singleton.mp h).symm

end Case
end Text

namespace Naming

theorem dot_mem_of_mem_camelChars (cs : List Char) : '.' ∈ camelChars cs → '.' ∈ cs := by
  fun_induction camelChars cs with
  | case1 => simp
  | case2 c rest ih =>
    intro h
    rcases List.mem_append.mp h with h | h
    · exact List.mem_cons_of_mem _ (Text.Case.eq_dot_of_mem_upper h ▸ List.mem_cons_self)
    · exact List.mem_cons_of_mem _ (List.mem_cons_of_mem _ (ih h))
  | case3 c rest _ ih =>
    intro h
    rcases List.mem_cons.mp h with h | h
    · exact h ▸ List.mem_cons_self
    · exact List.mem_cons_of_mem _ (ih h)

theorem dot_mem_of_mem_capitalizeFirst {s : String} (h : '.' ∈ (capitalizeFirst s).toList) :
    '.' ∈ s.toList := by
  unfold capitalizeFirst at h
  split at h
  · simp at h
  · rename_i c rest hs
    rw [String.toList_ofList, List.mem_append] at h
    rw [hs]
    rcases h with h | h
    · exact Text.Case.eq_dot_of_mem_upper h ▸ List.mem_cons_self
    · exact List.mem_cons_of_mem _ h

/-- The model name of a dot-free text is dot-free. -/
theorem pascal_dotFree {s : String} (h : '.' ∉ s.toList) : '.' ∉ (pascal s).toList := by
  intro hd
  have hcamel := dot_mem_of_mem_capitalizeFirst hd
  rw [snakeToCamel, String.toList_ofList] at hcamel
  exact h (dot_mem_of_mem_camelChars _ hcamel)

end Naming

namespace Request

open Plan Schema IncludeTree

/-- A path none of whose segments holds a dot. -/
def DotFree (path : List String) : Prop :=
  ∀ seg ∈ path, '.' ∉ seg.toList

theorem dotFree_nil : DotFree [] :=
  fun _ h => absurd h List.not_mem_nil

theorem dotFree_split (s : String) : DotFree (Text.split s '.') :=
  fun _ h => Text.not_mem_of_mem_split h

theorem DotFree.of_prefix {c path : List String} (h : DotFree path) (hc : c <+: path) : DotFree c :=
  fun seg hseg => h seg (hc.subset hseg)

/-- Model names of dot-free segments are dot-free. -/
theorem DotFree.aliasPath {path : List String} (h : DotFree path) : DotFree (aliasPath path) := by
  intro seg hseg
  obtain ⟨s, hs, rfl⟩ := List.mem_map.mp hseg
  exact Naming.pascal_dotFree fun hd => h s hs (Text.mem_of_mem_trim hd)

theorem dotFree_dottedSegments (s : String) : DotFree (dottedSegments s) := by
  unfold dottedSegments
  split
  · exact dotFree_nil
  · exact dotFree_split s

theorem dotFree_of_refersTo {t column : String} {path : List String}
    (h : Filter.RefersTo t path column) : DotFree path := by
  rcases h with ⟨before, -, -, rfl⟩ | ⟨-, rfl, -⟩
  · exact dotFree_split before
  · exact dotFree_nil

/-- The path of a reference is what precedes its last dot, split at every dot. -/
theorem dotFree_referencePath (s : String) : DotFree (Reference.parse s).path := by
  rcases hp : Reference.parse s with ⟨path, column⟩
  exact dotFree_of_refersTo (Filter.refersTo_iff.mpr hp)

/-- Every clause of a filter text reads as the body of one of its brackets. -/
theorem Written.readsAs {cs : List Char} {cls : List Filter.Clause} (h : Filter.Written cs cls) :
    ∀ cl ∈ cls, ∃ body conn, Filter.ReadsAs body conn cl := by
  induction h with
  | blanks => simp
  | clause _ _ _ hr _ ih =>
    intro cl hcl
    rcases List.mem_cons.mp hcl with rfl | hcl
    · exact ⟨_, _, hr⟩
    · exact ih cl hcl

theorem dotFree_filterRefs (value : String) : ∀ r ∈ filterRefs value, DotFree r := by
  unfold filterRefs
  split
  · rename_i cls hcls
    intro r hr
    obtain ⟨cl, hcl, rfl⟩ := List.mem_map.mp hr
    obtain ⟨_, _, _, _, _, _, _, -, href, -⟩ := Written.readsAs (Filter.parse_eq_ok_iff.mp hcls) cl hcl
    exact dotFree_of_refersTo href
  · simp

theorem dotFree_aggregateRefs (fields : List String) : ∀ r ∈ aggregateRefs fields, DotFree r := by
  intro r hr
  rw [aggregateRefs, List.mem_cons] at hr
  rcases hr with hr | hr
  · rw [hr]
    exact dotFree_referencePath (fields.getD 0 "")
  · rw [groupRefs] at hr
    split at hr
    · cases hr
    · rw [List.mem_singleton.mp hr]
      exact dotFree_referencePath (fields.getD 3 "")

theorem dotFree_includeRefs (value : String) : ∀ r ∈ includeRefs value, DotFree r := by
  intro r hr
  obtain ⟨path, -, rfl⟩ := List.mem_map.mp hr
  exact dotFree_dottedSegments (Text.trim path)

theorem dotFree_attributeRefs (value : String) : ∀ r ∈ attributeRefs value, DotFree r := by
  intro r hr
  obtain ⟨group, -, rfl⟩ := List.mem_map.mp hr
  exact dotFree_dottedSegments (attributePath group)

theorem dotFree_orderRefs (value : String) : ∀ r ∈ orderRefs value, DotFree r := by
  intro r hr
  obtain ⟨group, -, rfl⟩ := List.mem_map.mp hr
  exact dotFree_referencePath ((Text.splitOnce group ',').getD (group, "")).1

/-- A parameter names only dot-free paths when every value of it does. -/
theorem dotFree_paramRefs {refs : String → List (List String)}
    (hrefs : ∀ v, ∀ r ∈ refs v, DotFree r) (value : Option String) :
    ∀ r ∈ paramRefs refs value, DotFree r := by
  intro r hr
  unfold paramRefs at hr
  cases hv : present value with
  | none => simp [hv] at hr
  | some v =>
    rw [hv] at hr
    exact hrefs v r hr

/-- No segment of a path that a request names holds a dot: every path is read by splitting
at the dots. -/
theorem requestRefs_dotFree (p : Params) : ∀ r ∈ requestRefs p, DotFree r := by
  intro r hr
  simp only [requestRefs, List.mem_append] at hr
  rcases hr with (((h | h) | h) | h) | h
  · exact dotFree_paramRefs dotFree_includeRefs p.includes r h
  · exact dotFree_paramRefs dotFree_filterRefs p.filter r h
  · exact dotFree_paramRefs dotFree_attributeRefs p.attributes r h
  · exact dotFree_paramRefs (fun v => dotFree_aggregateRefs (aggregateFields (stripBrackets v)))
      p.aggregate r h
  · exact dotFree_paramRefs dotFree_orderRefs p.order r h

/-- Every alias chain of a translated plan is dot-free. -/
theorem translate_chain_dotFree {tr : Translator} {route : String} {p : Params}
    {r : PlannedRequest} (h : (tr.translate route p).1 = .ok r) {c : List String}
    (hc : r.plan.tree.HasChain c) : DotFree c := by
  obtain ⟨model, -, -, hT, -⟩ := translate_spec h
  rcases (hT.2 c).mp hc with rfl | ⟨ref, href, hpre⟩
  · exact dotFree_nil
  · exact (requestRefs_dotFree p ref href).aliasPath.of_prefix hpre

end Request

namespace Plan
namespace IncludeTree

open Schema Request

variable {reg : Registry} {model : String} {t : IncludeTree}

theorem split_ne_nil (s : String) (sep : Char) : Text.split s sep ≠ [] := by
  simp [Text.split, Text.splitOn, Text.splitOnAux_ne_nil]

/-- In a tree whose chains are dot-free, a node other than the root has a path spelling a text
exactly when its chain is that text split at its dots. -/
theorem WellFormed.path_eq_iff (hwf : t.WellFormed reg model)
    (hdot : ∀ i < t.length, DotFree (t.aliasChain i)) {i : Nat} (hi : 0 < i) (hl : i < t.length)
    {s : String} :
    (t.node i).path = s ↔ t.aliasChain i = Text.split s '.' := by
  rw [hwf.path_eq_intercalate hl]
  exact Text.intercalate_eq_iff (hwf.aliasChain_ne_nil hi hl) (hdot i hl)

/-- The paths of the nodes after the root, in node order, are pairwise distinct. -/
theorem WellFormed.paths_nodup (hwf : t.WellFormed reg model)
    (hdot : ∀ i < t.length, DotFree (t.aliasChain i)) :
    ((List.range' 1 (t.length - 1)).map fun i => (t.node i).path).Nodup := by
  refine List.Nodup.map_on (fun i hi j hj he => ?_) List.nodup_range'
  rw [List.mem_range'_1] at hi hj
  -- one path, one chain, one node
  have hchain : t.aliasChain i = t.aliasChain j :=
    ((hwf.path_eq_iff hdot (by omega) (by omega)).mp he).trans
      ((hwf.path_eq_iff hdot (by omega) (by omega)).mp rfl).symm
  exact hwf.aliasChain_injective (by omega) (by omega) hchain

/-- A node after the root has a path spelling a text exactly when the tree has that text, split
at its dots, as a chain: the root's chain is empty, and no split is. -/
theorem WellFormed.mem_paths_iff (hwf : t.WellFormed reg model)
    (hdot : ∀ i < t.length, DotFree (t.aliasChain i)) {s : String} :
    s ∈ (List.range' 1 (t.length - 1)).map (fun i => (t.node i).path) ↔
      t.HasChain (Text.split s '.') := by
  rw [List.mem_map]
  constructor
  · rintro ⟨i, hi, hp⟩
    rw [List.mem_range'_1] at hi
    exact ⟨i, by omega, (hwf.path_eq_iff hdot (by omega) (by omega)).mp hp⟩
  · rintro ⟨i, hl, hc⟩
    have hi : i ≠ 0 := by
      rintro rfl
      rw [aliasChain_root] at hc
      exact split_ne_nil s '.' hc.symm
    exact ⟨i, List.mem_range'_1.mpr ⟨by omega, by omega⟩,
      (hwf.path_eq_iff hdot (by omega) hl).mpr hc⟩

end IncludeTree
end Plan

namespace Sql

open Plan Schema IncludeTree Request

variable {reg : Registry} {c : Compiler} {P : QueryPlan}

/-- The joins of the shared statement are declared under the paths of the nodes after the root,
in node order. -/
theorem base_joinAliases (hwf : P.tree.WellFormed reg P.model) {b : Select}
    {opts : List Optimization} (hb : c.base P = .ok (b, opts)) :
    b.joins.map (·.aliasName) =
      (List.range' 1 (P.tree.length - 1)).map fun i => (P.tree.node i).path := by
  obtain ⟨hlen, hjoin⟩ := base_joins hwf hb
  apply List.ext_getElem
  · simp only [List.length_map, List.length_range']
    omega
  · intro k hk _
    have hk' : k < b.joins.length := by simpa using hk
    simp only [List.getElem_map, List.getElem_range']
    rw [(hjoin k hk').1, nodeAlias_of_pos hwf (Nat.succ_pos k) (by omega), Nat.add_comm,
      Nat.one_mul]

/-- Both statements of a compiled plan declare the tables of the shared statement. -/
theorem compile_statement_base {out : Compiled} (hc : c.compile P = .ok out) :
    ∀ s ∈ out.select :: out.count.toList, ∃ b opts, c.base P = .ok (b, opts) ∧
      s.aliasName = b.aliasName ∧ s.joins = b.joins := by
  obtain ⟨hsel, hcount⟩ := compile_eq_ok hc
  intro s hs
  rcases List.mem_cons.mp hs with rfl | hs
  · obtain ⟨b, hb, -, hname, hjoins, -⟩ := selectStatement_eq_ok hsel
    exact ⟨b, _, hb, hname, hjoins⟩
  · obtain ⟨b, opts, hb, -, hname, hjoins, -⟩ :=
      countStatement_eq_ok (hcount s (Option.mem_toList.mp hs))
    exact ⟨b, opts, hb, hname, hjoins⟩

/-- The statements compiled from a translated request declare their joins under pairwise
distinct aliases; the root's alias, the model's name, differs from all of them exactly when no
node of the tree has the model's name, split at its dots, as its chain. -/
theorem compile_declaredAliases_nodup {tr : Translator} {route : String} {p : Params}
    {r : PlannedRequest} (h : (tr.translate route p).1 = .ok r) (c : Compiler) {out : Compiled}
    (hc : c.compile r.plan = .ok out) :
    ∀ s ∈ out.select :: out.count.toList,
      (s.joins.map (·.aliasName)).Nodup ∧
      ((s.aliasName :: s.joins.map (·.aliasName)).Nodup ↔
        ¬ r.plan.tree.HasChain (Text.split r.plan.model '.')) := by
  have hwf := (translate_translated h).wellFormed
  have hdot : ∀ i < r.plan.tree.length, DotFree (r.plan.tree.aliasChain i) :=
    fun i hi => translate_chain_dotFree h ⟨i, hi, rfl⟩
  intro s hs
  obtain ⟨b, opts, hb, hname, hjoins⟩ := compile_statement_base hc s hs
  have hnodup := hwf.paths_nodup hdot
  rw [hname, hjoins, (base_eq_ok hb).2.1, base_joinAliases hwf hb, List.nodup_cons,
    hwf.mem_paths_iff hdot]
  exact ⟨hnodup, fun hn => hn.1, fun hn => ⟨hn, hnodup⟩⟩

theorem shop_declaredAliases :
    ∃ r out, (shop.translate "customers" { includes := some "orders.line_items" }).1 = .ok r ∧
      shopCompiler.compile r.plan = .ok out ∧
      ∀ s ∈ out.select :: out.count.toList,
        (s.joins.map (·.aliasName)).Nodup ∧
        ((s.aliasName :: s.joins.map (·.aliasName)).Nodup ↔
          ¬ r.plan.tree.HasChain (Text.split r.plan.model '.')) := by
  obtain ⟨r, out, hres, hcomp, -⟩ := @exists_compiled
    (shop.translate "customers" { includes := some "orders.line_items" }).1 shopCompiler
    (fun _ _ => true) (by decide +kernel)
  exact ⟨r, out, hres, hcomp, compile_declaredAliases_nodup hres shopCompiler hcomp⟩

/-- A staff directory with one model, whose relation to each employee's reports is aliased by
the model's own name. -/
def staffConfig : ServiceConfig where
  models := [
    { name := "Employees", table := "employees", primaryKey := some "id",
      relations := [ServiceConfig.rel "Employees" "Employees" .hasMany "id" "manager_id"] }]

def staff : Translator := { registry := ⟨staffConfig.models⟩, access := staffConfig.enabledTables }

/-- The compiler of the staff directory, for PostgreSQL. -/
def staffCompiler : Compiler := { registry := staff.registry, dialect := .postgres }

/-- Including the reports of the root's own model declares the root's alias a second time, for
the join. -/
theorem staff_aliasClash :
    Translator.ofConfig staffConfig = .ok staff ∧
    ∃ r out, (staff.translate "employees" { includes := some "employees" }).1 = .ok r ∧
      staffCompiler.compile r.plan = .ok out ∧
      out.select.aliasName = "Employees" ∧ out.select.joins.map (·.aliasName) = ["Employees"] := by
  obtain ⟨r, out, hres, hcomp, hcheck⟩ := @exists_compiled
    (staff.translate "employees" { includes := some "employees" }).1 staffCompiler
    (fun _ out => out.select.aliasName == "Employees" &&
      out.select.joins.map (·.aliasName) == ["Employees"]) (by decide +kernel)
  simp only [Bool.and_eq_true, beq_iff_eq] at hcheck
  exact ⟨rfl, r, out, hres, hcomp, hcheck⟩

end Sql
end RestQuery
