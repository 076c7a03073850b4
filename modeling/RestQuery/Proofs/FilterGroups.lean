import RestQuery.Proofs.FilterGrammar
import RestQuery.Proofs.Window

/-!
# How a filter falls into groups

Folding the clauses of a filter keeps them in order and cuts them into
groups: the first clause opens the first group whatever its connective, and
every later clause opens a new group exactly when it is joined by `OR`.  A
fold of `n ≥ 1` clauses thus has one group more than there are `OR`s after
the first clause, and none of its groups is empty; only the fold of no
clause at all holds an empty group, its only one.

The argument is one step lemma, `fold_snoc`: the groups of the clauses before
a clause end in an open group that is empty exactly when there were none,
and the clause either opens a group after it or joins it.  Each fact about
the groups is a reverse induction over the clauses that uses this lemma.

A translated request never folds no clause.  Its `where` value is trimmed
and not empty, so its first character is not blank; stripping the outer
brackets keeps that character; and a text that reads as no clause is blank
throughout.

**Results.**
* `fold_snoc`: what one more clause does to the groups.
* `mem_groupStarts_fold`, `length_fold`: where the groups begin, and how
  many there are.
* `translate_filter_groups`: a translated filter has groups, none empty.
* `fold_grouping`: all of this together.
-/

namespace RestQuery
namespace Plan

open RestQuery.Filter (Connective)

/-- The offsets, in the concatenation of a list of groups, at which its groups begin. -/
def groupStarts {α : Type} : List (List α) → List Nat
  | [] => []
  | g :: gs => 0 :: (groupStarts gs).map (g.length + ·)

section Starts

variable {α : Type}

theorem groupStarts_append (gs hs : List (List α)) :
    groupStarts (gs ++ hs) = groupStarts gs ++ (groupStarts hs).map (gs.flatten.length + ·) := by
  induction gs with
  | nil => simp [groupStarts]
  | cons g gs ih => simp [groupStarts, ih, Function.comp_def, Nat.add_assoc]

/-- Where the last group begins does not depend on what it holds. -/
theorem groupStarts_snoc (gs : List (List α)) (g : List α) :
    groupStarts (gs ++ [g]) = groupStarts gs ++ [gs.flatten.length] := by
  simp [groupStarts_append, groupStarts]

/-- Groups that are not empty all begin before the end of their concatenation. -/
theorem lt_of_mem_groupStarts {gs : List (List α)} (hne : ∀ g ∈ gs, g ≠ []) :
    ∀ s ∈ groupStarts gs, s < gs.flatten.length := by
  induction gs with
  | nil => simp [groupStarts]
  | cons g gs ih =>
    have hg : 0 < g.length := List.length_pos_iff.mpr (hne g List.mem_cons_self)
    intro s hs
    simp only [groupStarts, List.mem_cons, List.mem_map] at hs
    rcases hs with rfl | ⟨s', hs', rfl⟩
    · simp only [List.flatten_cons, List.length_append]
      omega
    · have hlt := ih (fun g' hg' => hne g' (List.mem_cons_of_mem _ hg')) s' hs'
      simp only [List.flatten_cons, List.length_append]
      omega

end Starts

/-- A clause added to groups whose open group is `last` opens a new group when it is joined by
`OR` and the open group holds something, and joins the open group otherwise. -/
theorem foldStep_snoc (gs : List (List Condition)) (last : List Condition)
    (e : Connective × Condition) :
    foldStep (gs ++ [last]) e =
      if e.1 = .or ∧ last ≠ [] then gs ++ [last, [e.2]] else gs ++ [last ++ [e.2]] := by
  simp [foldStep]

theorem fold_append_singleton (es : List (Connective × Condition)) (e : Connective × Condition) :
    (FilterTree.fold (es ++ [e])).groups = foldStep (FilterTree.fold es).groups e := by
  simp [FilterTree.fold, List.foldl_append]

/-- The groups always end in an open group, which is empty exactly when no clause was folded;
the groups before it are never empty. -/
theorem fold_open (es : List (Connective × Condition)) :
    ∃ init last, (FilterTree.fold es).groups = init ++ [last] ∧ (∀ g ∈ init, g ≠ []) ∧
      (last = [] ↔ es = []) := by
  induction es using List.reverseRecOn with
  | nil => exact ⟨[], [], rfl, by simp, by simp⟩
  | append_singleton es e ih =>
    obtain ⟨init, last, h, hinit, -⟩ := ih
    rw [fold_append_singleton, h, foldStep_snoc]
    split
    · -- the open group is closed only when it holds something
      rename_i hopen
      refine ⟨init ++ [last], [e.2], by simp, fun g hg => ?_, by simp⟩
      rcases List.mem_append.mp hg with hg | hg
      · exact hinit g hg
      · exact List.mem_singleton.mp hg ▸ hopen.2
    · exact ⟨init, last ++ [e.2], rfl, hinit, by simp⟩

/-- One more clause: it opens a new group when it is joined by `OR` and some clause came before
it, and joins the open group of the clauses before it otherwise. -/
theorem fold_snoc (es : List (Connective × Condition)) (e : Connective × Condition) :
    ∃ init last, (FilterTree.fold es).groups = init ++ [last] ∧ (last = [] ↔ es = []) ∧
      (FilterTree.fold (es ++ [e])).groups =
        if e.1 = .or ∧ es ≠ [] then init ++ [last, [e.2]] else init ++ [last ++ [e.2]] := by
  obtain ⟨init, last, h, -, hlast⟩ := fold_open es
  refine ⟨init, last, h, hlast, ?_⟩
  rw [fold_append_singleton, h, foldStep_snoc]
  simp only [ne_eq, hlast]

theorem fold_nil : (FilterTree.fold []).groups = [[]] := rfl

/-- The connective of the first clause is never read: the clause opens the first group. -/
theorem fold_cons (k : Connective) (c : Condition) (rest : List (Connective × Condition)) :
    FilterTree.fold ((k, c) :: rest) = ⟨rest.foldl foldStep [[c]]⟩ := by
  simp [FilterTree.fold, foldStep]

theorem fold_groups_ne_nil (es : List (Connective × Condition)) : (FilterTree.fold es).groups ≠ [] := by
  obtain ⟨init, last, h, -, -⟩ := fold_open es
  simp [h]

/-- Once a clause is folded, no group is empty. -/
theorem fold_ne_nil_of_mem {es : List (Connective × Condition)} (hes : es ≠ []) :
    ∀ g ∈ (FilterTree.fold es).groups, g ≠ [] := by
  obtain ⟨init, last, h, hinit, hlast⟩ := fold_open es
  intro g hg
  rw [h, List.mem_append, List.mem_singleton] at hg
  rcases hg with hg | rfl
  · exact hinit g hg
  · exact fun hnil => hes (hlast.mp hnil)

/-- There is one group more than there are clauses joined by `OR` after the first. -/
theorem length_fold (es : List (Connective × Condition)) :
    (FilterTree.fold es).groups.length = 1 + (es.drop 1).countP (·.1 = .or) := by
  induction es using List.reverseRecOn with
  | nil => rfl
  | append_singleton es e ih =>
    obtain ⟨init, last, h, -, hsnoc⟩ := fold_snoc es e
    rw [h, List.length_append, List.length_singleton] at ih
    rw [hsnoc]
    by_cases hes : es = []
    · subst hes
      simp only [List.drop_nil, List.countP_nil, Nat.add_zero] at ih
      simp [List.length_eq_zero_iff.mp (by omega : init.length = 0)]
    · have hdrop : (es ++ [e]).drop 1 = es.drop 1 ++ [e] :=
        List.drop_append_of_le_length (List.length_pos_iff.mpr hes)
      rw [hdrop, List.countP_append, ← Nat.add_assoc, ← ih]
      by_cases he : e.1 = .or <;> simp [he, hes]

/-- Where the groups begin after one more clause: a new group begins at that clause exactly when
it opens one. -/
theorem groupStarts_fold_snoc (es : List (Connective × Condition)) (e : Connective × Condition) :
    groupStarts (FilterTree.fold (es ++ [e])).groups =
      groupStarts (FilterTree.fold es).groups ++ if e.1 = .or ∧ es ≠ [] then [es.length] else [] := by
  obtain ⟨init, last, h, -, hsnoc⟩ := fold_snoc es e
  have hlen : (init ++ [last]).flatten.length = es.length := by
    rw [← h, ← FilterTree.conditions, conditions_fold, List.length_map]
  rw [hsnoc, h]
  split
  · rw [show init ++ [last, [e.2]] = (init ++ [last]) ++ [[e.2]] by simp, groupStarts_snoc, hlen]
  · rw [groupStarts_snoc, groupStarts_snoc, List.append_nil]

/-- After the first clause, a clause opens a new group exactly when it is joined by `OR`. -/
theorem mem_groupStarts_fold {es : List (Connective × Condition)} {i : Nat} (h0 : 0 < i)
    (hi : i < es.length) : i ∈ groupStarts (FilterTree.fold es).groups ↔ es[i].1 = .or := by
  induction es using List.reverseRecOn generalizing i with
  | nil => exact absurd hi (Nat.not_lt_zero i)
  | append_singleton es e ih =>
    rw [groupStarts_fold_snoc, List.mem_append]
    rw [List.length_append, List.length_singleton] at hi
    rcases Nat.lt_or_ge i es.length with hlt | hge
    · -- an earlier clause: the new clause adds no group start before itself
      rw [List.getElem_append_left hlt, ← ih h0 hlt]
      have hne : i ≠ es.length := Nat.ne_of_lt hlt
      split <;> simp [hne]
    · -- the new clause itself, after at least one other
      have hieq : i = es.length := by omega
      subst hieq
      have hes : es ≠ [] := List.ne_nil_of_length_pos h0
      have hout : es.length ∉ groupStarts (FilterTree.fold es).groups := by
        intro hmem
        have hlt := lt_of_mem_groupStarts (fold_ne_nil_of_mem hes) _ hmem
        rw [← FilterTree.conditions, conditions_fold, List.length_map] at hlt
        exact Nat.lt_irrefl _ hlt
      rw [List.getElem_append_right (Nat.le_refl _)]
      simp [hout, hes]

end Plan

namespace Filter

/-- A text that reads as no clause is blank throughout. -/
theorem Written.blank_of_nil {cs : List Char} (h : Written cs []) : ∀ c ∈ cs, Text.isBlank c = true := by
  cases h with
  | blanks hw => exact hw

end Filter

namespace Request

open Plan

/-- A given parameter starts with a character that is not blank: it is trimmed and not empty. -/
theorem present_head {x : Option String} {v : String} (h : present x = some v) :
    ∃ c cs, v.toList = c :: cs ∧ Text.isBlank c = false := by
  cases x with
  | none => cases h
  | some s =>
    simp only [present] at h
    split at h
    · cases h
    · rename_i hne
      rw [← Option.some.inj h]
      -- trimming the end keeps a prefix of the text that trimming the start left
      have hpre : (Text.trim s).toList <+: Text.dropBlank s.toList := by
        have hsuf := List.reverse_prefix.mpr
          (List.dropWhile_suffix (l := (Text.dropBlank s.toList).reverse) Text.isBlank)
        rw [List.reverse_reverse] at hsuf
        simpa [Text.trim, Text.trimEnd, Text.trimStart, Text.dropBlank] using hsuf
      obtain ⟨c, cs, hcs⟩ : ∃ c cs, (Text.trim s).toList = c :: cs := by
        cases hv : (Text.trim s).toList with
        | nil => simp [String.isEmpty_iff, ← String.toList_inj, hv] at hne
        | cons c cs => exact ⟨c, cs, rfl⟩
      obtain ⟨rest, hrest⟩ := hpre
      have hd : Text.dropBlank s.toList ≠ [] := by simp [← hrest, hcs]
      have hhead : (Text.dropBlank s.toList).head hd = c := by simp [← hrest, hcs]
      refine ⟨c, cs, hcs, ?_⟩
      rw [← hhead]
      exact List.head_dropWhile_not Text.isBlank hd

/-- Stripping the outer brackets keeps the first character: a wrapped filter starts with `[[`. -/
theorem stripWrapper_head? (s : String) : (stripWrapper s).toList.head? = s.toList.head? := by
  unfold stripWrapper
  dsimp only
  split
  · rename_i h
    obtain ⟨htake, hdrop⟩ := h
    obtain ⟨r, hr⟩ : ∃ r, s.toList = '[' :: '[' :: r := by
      refine ⟨s.toList.drop 2, ?_⟩
      rw [← List.take_append_drop 2 s.toList, htake]
      simp
    rw [hr] at hdrop ⊢
    cases r with
    | nil => simp at hdrop
    | cons x r => simp
  · rfl

/-- A given `where` value, its wrapper stripped, reads as at least one clause when it reads. -/
theorem parse_present_ne_nil {x : Option String} {v : String} {clauses : List Filter.Clause}
    (hv : present x = some v) (hp : Filter.parse (stripWrapper v) = .ok clauses) : clauses ≠ [] := by
  rintro rfl
  obtain ⟨c, cs, hcs, hc⟩ := present_head hv
  have hblank := (Filter.parse_eq_ok_iff.mp hp).blank_of_nil
  have hfirst : (stripWrapper v).toList.head? = some c := by
    rw [stripWrapper_head?, hcs]
    rfl
  obtain ⟨ds, hds⟩ := List.head?_eq_some_iff.mp hfirst
  have := hblank c (by rw [hds]; exact List.mem_cons_self)
  rw [hc] at this
  cases this

/-- Every filter a translated plan carries has groups, and none of them is empty. -/
theorem translate_filter_groups {tr : Translator} {route : String} {p : Params} {r : PlannedRequest}
    (h : (tr.translate route p).1 = .ok r) :
    ∀ f ∈ r.plan.filter, f.groups ≠ [] ∧ ∀ g ∈ f.groups, g ≠ [] := by
  obtain ⟨model, w, -, hrun⟩ := translate_eq_ok h
  obtain ⟨hfilter, -⟩ := build_window tr model p _ rfl r w hrun
  intro f hf
  rw [hfilter] at hf
  simp only [Option.mem_def, Option.map_eq_some_iff, Option.bind_eq_some_iff] at hf
  obtain ⟨pf, ⟨v, hv, hpf⟩, rfl⟩ := hf
  unfold filterOf at hpf
  split at hpf
  · rename_i clauses hparse
    cases hpf
    have hne : clauses.map clauseEntry ≠ [] := by
      simpa using parse_present_ne_nil hv hparse
    exact ⟨fold_groups_ne_nil _, fold_ne_nil_of_mem hne⟩
  · cases hpf

end Request

open Plan Request in
/-- Folding clauses loses and repeats none of their conditions; no clause gives one empty group;
once a clause is folded no group is empty; after the first clause, whose connective is never
read, a clause opens a new group exactly when it is joined by `OR`, so there is one group more than
there are such clauses; and every filter a translated plan carries has groups, none of them
empty. -/
theorem fold_grouping (entries : List (Filter.Connective × Condition)) :
    (FilterTree.fold entries).conditions = entries.map Prod.snd ∧
    (entries = [] → (FilterTree.fold entries).groups = [[]]) ∧
    (entries ≠ [] → ∀ g ∈ (FilterTree.fold entries).groups, g ≠ []) ∧
    (∀ k, FilterTree.fold (entries.modifyHead fun e => (k, e.2)) = FilterTree.fold entries) ∧
    (∀ (i : Nat), 0 < i → ∀ (hi : i < entries.length),
      i ∈ groupStarts (FilterTree.fold entries).groups ↔ entries[i].1 = .or) ∧
    (FilterTree.fold entries).groups.length = 1 + (entries.drop 1).countP (·.1 = .or) ∧
    ∀ (tr : Translator) (route : String) (p : Params) (r : PlannedRequest),
      (tr.translate route p).1 = .ok r → ∀ f ∈ r.plan.filter, f.groups ≠ [] ∧ ∀ g ∈ f.groups, g ≠ [] := by
  refine ⟨conditions_fold entries, fun h => by rw [h]; rfl, fold_ne_nil_of_mem, fun k => ?_,
    fun i h0 hi => mem_groupStarts_fold h0 hi, length_fold entries,
    fun _ _ _ _ h => translate_filter_groups h⟩
  cases entries with
  | nil => rfl
  | cons e rest => rw [List.modifyHead_cons, fold_cons, fold_cons]

end RestQuery
