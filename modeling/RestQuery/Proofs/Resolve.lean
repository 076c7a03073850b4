import RestQuery.Request.Path
import RestQuery.Proofs.TreeShape
import RestQuery.Proofs.BuildTriple

/-!
# Resolving join paths

Resolving a path walks the include tree from a node, segment by segment:
each segment is trimmed, named in Pascal case, and must be a relation of the
model reached so far; the child under that alias is reused, or made.  This
module shows what a resolution that succeeds does to a well-formed tree.

**Alias paths.**  The aliases a list of segments names are the segments
trimmed and in Pascal case (`aliasPath`).  Resolving from a node with alias
chain `C` ends at the node whose chain is `C` followed by the alias path,
and the chains of the tree become those it had together with every prefix
of that chain, whether the nodes were made now or earlier.

The facts are carried by `Tracks`: the tree is well formed and its chains
are exactly the lists a predicate `S` holds of.

**Results.**
* `pascal_ne_empty`: a non-empty name has a non-empty Pascal form, so no
  alias is empty.
* `resolveStep_spec`, `resolveFrom_spec`, `resolveSegments_spec`: a
  resolution that succeeds keeps the tree well formed and adds exactly the
  prefixes of its alias path.
* `resolveSegments_raises`: a resolution that fails reports an unknown path.
-/

namespace RestQuery
namespace Request

open Plan Schema IncludeTree

section Names

open Text.Case in
theorem upperExpansions_ne_nil : ∀ e ∈ upperExpansions, e.2 ≠ [] := by
  decide

open Text.Case in
/-- Upper case never deletes a character. -/
theorem upper_ne_nil (c : Char) : upper c ≠ [] := by
  unfold upper
  split
  · simp
  · cases he : lookupExpansion upperExpansions c.toNat with
    | some cs =>
        simp only [lookupExpansion, Option.map_eq_some_iff] at he
        obtain ⟨e, hfind, rfl⟩ := he
        simpa using upperExpansions_ne_nil e (List.mem_of_find?_eq_some hfind)
    | none =>
        simp only
        cases lookupRun upperRuns c.toNat <;> simp

theorem camelChars_ne_nil {cs : List Char} (h : cs ≠ []) : Naming.camelChars cs ≠ [] := by
  cases cs with
  | nil => exact absurd rfl h
  | cons c rest =>
      cases rest with
      | nil => by_cases hc : c = '_' <;> simp [Naming.camelChars, hc]
      | cons d more =>
          by_cases hc : c = '_'
          · subst hc
            simp [Naming.camelChars, upper_ne_nil]
          · simp [Naming.camelChars, hc]

theorem pascal_ne_empty {s : String} (h : s ≠ "") : Naming.pascal s ≠ "" := by
  have hs : s.toList ≠ [] := by simpa using h
  have hc := camelChars_ne_nil hs
  unfold Naming.pascal Naming.capitalizeFirst Naming.snakeToCamel
  rw [String.toList_ofList]
  cases hcs : Naming.camelChars s.toList with
  | nil => exact absurd hcs hc
  | cons c rest =>
      simp only
      intro he
      have hl := congrArg String.length he
      simp only [String.length_ofList, List.length_append, String.length_empty] at hl
      have := List.length_pos_of_ne_nil (upper_ne_nil c)
      omega

end Names

/-- The aliases a list of segments names: each segment trimmed and in Pascal case. -/
def aliasPath (segments : List String) : List String :=
  segments.map fun s => Naming.pascal (Text.trim s)

@[simp] theorem aliasPath_nil : aliasPath [] = [] := rfl

@[simp] theorem aliasPath_cons (s : String) (rest : List String) :
    aliasPath (s :: rest) = Naming.pascal (Text.trim s) :: aliasPath rest := rfl

/-- The segments of a dotted path; the empty path has none. -/
def dottedSegments (dotted : String) : List String :=
  if dotted.isEmpty then [] else Text.split dotted '.'

theorem resolve_eq (reg : Registry) (start : NodeId) (dotted : String) :
    resolve reg start dotted = resolveSegments reg start (dottedSegments dotted) := by
  unfold resolve dottedSegments
  split <;> rfl

theorem segmentTarget_eq_some {reg : Registry} {t : IncludeTree} {cur : NodeId}
    {s a m : String} (h : segmentTarget reg t cur s = some (a, m)) :
    a = Naming.pascal s ∧ a ≠ "" ∧
      ∃ pm r, reg.get (t.node cur).model = some pm ∧ pm.relation a = some r ∧ r.target = m := by
  unfold segmentTarget at h
  dsimp only at h
  split_ifs at h with hcond
  simp only [Option.some.injEq, Prod.mk.injEq] at h
  obtain ⟨rfl, rfl⟩ := h
  simp only [Bool.or_eq_true, not_or, Bool.not_eq_true] at hcond
  obtain ⟨htable, hrel⟩ := hcond
  refine ⟨rfl, pascal_ne_empty ?_, ?_⟩
  · rintro rfl
    simp [Text.split, Text.splitOn, Text.splitOnAux] at htable
  · cases hpm : reg.get (t.node cur).model with
    | none => simp [hpm] at hrel
    | some pm =>
        cases hr : pm.relation (Naming.pascal s) with
        | none => simp [hpm, hr] at hrel
        | some r => exact ⟨pm, r, rfl, hr, by simpa [hpm, hr] using hrel⟩

theorem childByAlias_eq_some {t : IncludeTree} {cur c : NodeId} {a : String}
    (h : t.childByAlias cur a = some c) :
    c ∈ (t.node cur).children ∧ (t.node c).aliasName = a := by
  unfold IncludeTree.childByAlias at h
  exact ⟨List.mem_of_find?_eq_some h, by simpa using List.find?_some h⟩

theorem childByAlias_eq_none {t : IncludeTree} {cur : NodeId} {a : String}
    (h : t.childByAlias cur a = none) : ∀ c ∈ (t.node cur).children, (t.node c).aliasName ≠ a := by
  unfold IncludeTree.childByAlias at h
  intro c hc he
  exact List.find?_eq_none.mp h c hc (by simp [he])

theorem resolveStep_run (reg : Registry) (segments : List String) (cur : NodeId)
    (seg : String) (w : Workspace) :
    (resolveStep reg segments cur seg).run w =
      match segmentTarget reg w.tree cur (Text.trim seg) with
      | none => (.error (.unknownPath (String.intercalate "." segments) (Text.trim seg)), w)
      | some (a, m) =>
        match w.tree.childByAlias cur a with
        | some child => (.ok child, w)
        | none =>
          (.ok (w.tree.addChild cur m a).2, { w with tree := (w.tree.addChild cur m a).1 }) := by
  simp only [resolveStep, Build.run_bind, Build.run_currentTree]
  rcases segmentTarget reg w.tree cur (Text.trim seg) with _ | ⟨a, m⟩
  · rfl
  · dsimp only
    rcases w.tree.childByAlias cur a with _ | child
    · dsimp only
      rw [Build.run_bind, Build.run_updateTree]
      rfl
    · rfl

theorem resolveFrom_cons (reg : Registry) (segments : List String) (cur : NodeId)
    (seg : String) (rest : List String) :
    resolveFrom reg segments cur (seg :: rest) =
      resolveStep reg segments cur seg >>= fun next => resolveFrom reg segments next rest := rfl

/-- A tree is well formed for `reg` and `model`, and its alias chains are exactly the lists
that `S` holds of. -/
def Tracks (reg : Registry) (model : String) (S : List String → Prop) (t : IncludeTree) : Prop :=
  t.WellFormed reg model ∧ ∀ c, t.HasChain c ↔ S c

variable {reg : Registry} {model : String}

theorem Tracks.congr {S S' : List String → Prop} {t : IncludeTree} (h : Tracks reg model S t)
    (hS : ∀ c, S c ↔ S' c) : Tracks reg model S' t :=
  ⟨h.1, fun c => (h.2 c).trans (hS c)⟩

/-- One segment: the node reached has the chain of `cur` followed by the segment's alias, and
that chain is the only one added. -/
theorem resolveStep_spec (segments : List String) (cur : Nat) (seg : String)
    (C : List String) (S : List String → Prop) :
    Triple (fun w => Tracks reg model S w.tree ∧ cur < w.tree.length ∧ w.tree.aliasChain cur = C)
      (resolveStep reg segments cur seg)
      (fun n w => Tracks reg model (fun c => S c ∨ c = C ++ [Naming.pascal (Text.trim seg)]) w.tree ∧
        n < w.tree.length ∧ w.tree.aliasChain n = C ++ [Naming.pascal (Text.trim seg)]) := by
  rintro w ⟨⟨hwf, hS⟩, hcur, rfl⟩ n w' hrun
  rw [resolveStep_run] at hrun
  rcases htarget : segmentTarget reg w.tree cur (Text.trim seg) with _ | ⟨a, m⟩
  · simp only [htarget] at hrun
    cases hrun
  · obtain ⟨hpa, ha, hrel⟩ := segmentTarget_eq_some htarget
    rw [← hpa]
    simp only [htarget] at hrun
    rcases hchild : w.tree.childByAlias cur a with _ | child
    · simp only [hchild] at hrun
      cases hrun
      refine ⟨⟨hwf.addChild hcur hrel (childByAlias_eq_none hchild) ha, fun c => ?_⟩, ?_, ?_⟩
      · rw [hasChain_addChild hwf.parents_below hcur, hS]
      · show w.tree.length < (w.tree.addChild _ _ _).1.length
        rw [length_addChild]
        omega
      · exact aliasChain_addChild_fresh hwf.parents_below hcur
    · -- the child is already there: the tree is unchanged and already has its chain
      simp only [hchild, Prod.mk.injEq, Except.ok.injEq] at hrun
      obtain ⟨hn, hw⟩ := hrun
      subst hn hw
      obtain ⟨hmem, hal⟩ := childByAlias_eq_some hchild
      obtain ⟨hc0, hcl, hcp⟩ := (hwf.mem_children cur child hcur).mp hmem
      have hchain : w.tree.aliasChain child = w.tree.aliasChain cur ++ [a] := by
        rw [aliasChain_of_parent hwf.parents_below hc0 hcl hcp, hal]
      refine ⟨⟨hwf, fun c => ?_⟩, hcl, hchain⟩
      rw [hS]
      constructor
      · exact Or.inl
      · rintro (h | rfl)
        · exact h
        · exact (hS _).mp ⟨child, hcl, hchain⟩

/-- A walk that succeeds ends at the node whose chain is `C` followed by the alias path of the
segments, and adds the prefixes of that chain. -/
theorem resolveFrom_spec (segments : List String) :
    ∀ (rest : List String) (cur : Nat) (C : List String) (S : List String → Prop),
      Triple (fun w => Tracks reg model S w.tree ∧ cur < w.tree.length ∧ w.tree.aliasChain cur = C)
        (resolveFrom reg segments cur rest)
        (fun n w => Tracks reg model (fun c => S c ∨ c <+: C ++ aliasPath rest) w.tree ∧
          n < w.tree.length ∧ w.tree.aliasChain n = C ++ aliasPath rest)
  | [], cur, C, S => by
      refine Triple.pure cur ?_
      rintro w ⟨hT, hcur, hC⟩
      refine ⟨hT.congr fun c => ?_, hcur, by simpa using hC⟩
      simp only [aliasPath_nil, List.append_nil]
      constructor
      · exact Or.inl
      · rintro (h | h)
        · exact h
        · exact (hT.2 c).mp (hT.1.hasChain_prefix_closed ⟨cur, hcur, hC⟩ h)
  | seg :: rest, cur, C, S => by
      rw [resolveFrom_cons]
      refine Triple.bind (resolveStep_spec segments cur seg C S) fun next => ?_
      refine Triple.conseq (resolveFrom_spec segments rest next _ _) (fun w h => h) ?_
      rintro n w ⟨hT, hn, hchain⟩
      refine ⟨hT.congr fun c => ?_, hn, by simpa using hchain⟩
      simp only [aliasPath_cons, List.append_assoc, List.singleton_append]
      constructor
      · rintro ((h | rfl) | h)
        · exact Or.inl h
        · exact Or.inr ⟨aliasPath rest, by simp⟩
        · exact Or.inr h
      · rintro (h | h)
        · exact Or.inl (Or.inl h)
        · exact Or.inr h

/-- Resolving segments from the root ends at the node whose chain is their alias path, and adds
the prefixes of that path to the chains of the tree. -/
theorem resolveSegments_spec (segments : List String) (S : List String → Prop) :
    Triple (fun w => Tracks reg model S w.tree) (resolveSegments reg 0 segments)
      (fun n w => Tracks reg model (fun c => S c ∨ c <+: aliasPath segments) w.tree ∧
        n < w.tree.length ∧ w.tree.aliasChain n = aliasPath segments) :=
  Triple.conseq (resolveFrom_spec segments segments 0 [] S)
    (fun w h => ⟨h, h.1.length_pos, IncludeTree.aliasChain_root _⟩)
    (fun n w h => by simpa using h)

/-- The alias chain of a node of the current tree. -/
theorem chainOf_spec {P : Workspace → Prop} (n : NodeId) :
    Triple P (chainOf n) (fun c w => P w ∧ c = w.tree.aliasChain n) := by
  intro w hw a w' hrun
  cases hrun
  exact ⟨hw, rfl⟩


/-- The error of a path that does not resolve. -/
def UnknownPath (e : RequestError) : Prop :=
  ∃ path segment, e = .unknownPath path segment

theorem resolveStep_raises (segments : List String) (cur : NodeId) (seg : String) :
    Raises UnknownPath (resolveStep reg segments cur seg) := by
  intro w e w' hrun
  rw [resolveStep_run] at hrun
  rcases htarget : segmentTarget reg w.tree cur (Text.trim seg) with _ | ⟨a, m⟩
  · simp only [htarget, Prod.mk.injEq, Except.error.injEq] at hrun
    exact ⟨_, _, hrun.1.symm⟩
  · rcases hchild : w.tree.childByAlias cur a with _ | child <;> simp [htarget, hchild] at hrun

theorem resolveFrom_raises (segments : List String) :
    ∀ (rest : List String) (cur : NodeId), Raises UnknownPath (resolveFrom reg segments cur rest)
  | [], cur => Raises.pure cur
  | seg :: rest, cur => by
      rw [resolveFrom_cons]
      exact Raises.bind (resolveStep_raises segments cur seg) fun next =>
        resolveFrom_raises segments rest next

theorem resolveSegments_raises (start : NodeId) (segments : List String) :
    Raises UnknownPath (resolveSegments reg start segments) :=
  resolveFrom_raises segments segments start

end Request
end RestQuery
