import RestQuery.Request.Build
import Mathlib.Data.List.Forall2

/-!
# What a build step guarantees

A step of translation runs on a workspace and either fails or returns a value
together with the workspace it leaves.  The facts proved about translation are
of one shape: started in a workspace that satisfies a condition, a step that
succeeds leaves one that satisfies another, which may speak of the value it
returned.  `Triple P b Q` says this of a step `b`; failures are not
constrained, since a failed step ends the translation.

The rules below take such facts through the ways steps are put together:
sequencing, the primitive steps (reading and changing the tree, taking a
note, failing), and loops over lists with `forM` and `mapM`, where a
condition indexed by the elements already processed is carried from one
element to the next.

**Results.**
* `Build.run_bind`: running a sequence runs its first step, then the rest on
  the workspace it left, unless the first step failed.
* `Triple.bind`, `Triple.conseq`: sequencing and weakening.
* `Triple.forM`, `Triple.mapM`: loop rules; `mapM` relates each result to
  its element by `List.Forall₂`.
* `Sequential.forM`, `Sequential.mapM`: a property that `pure` has and
  sequencing keeps holds of loops.
* `Raises.bind`, `Raises.sequential`: the failures a step can end with, for the one
  place where a failure is caught and translation goes on.
-/

namespace RestQuery
namespace Request

open Plan

section Run

variable {α β : Type}

theorem Build.run_pure (a : α) (w : Workspace) : (pure a : Build α).run w = (.ok a, w) := rfl

theorem Build.run_throw (e : RequestError) (w : Workspace) :
    (throw e : Build α).run w = (.error e, w) := rfl

theorem Build.run_bind (x : Build α) (f : α → Build β) (w : Workspace) :
    (x >>= f).run w =
      match x.run w with
      | (.ok a, w₁) => (f a).run w₁
      | (.error e, w₁) => (.error e, w₁) := by
  simp only [Build.run, ExceptT.run_bind, StateT.run_bind]
  rcases (ExceptT.run x).run w with ⟨_ | _, w₁⟩ <;> rfl

theorem Build.run_note (n : Note) (w : Workspace) :
    (note n).run w = (.ok (), { w with notes := w.notes ++ [n] }) := rfl

theorem Build.run_currentTree (w : Workspace) : currentTree.run w = (.ok w.tree, w) := rfl

theorem Build.run_updateTree (f : IncludeTree → IncludeTree) (w : Workspace) :
    (updateTree f).run w = (.ok (), { w with tree := f w.tree }) := rfl

theorem Build.run_liftExcept (x : Except RequestError α) (w : Workspace) :
    (liftExcept x).run w = (x, w) := by
  cases x <;> rfl

theorem Build.run_map (f : α → β) (x : Build α) (w : Workspace) :
    (f <$> x).run w =
      match x.run w with
      | (.ok a, w₁) => (.ok (f a), w₁)
      | (.error e, w₁) => (.error e, w₁) := by
  rw [map_eq_pure_bind, Build.run_bind]
  rcases x.run w with ⟨_ | _, w₁⟩ <;> rfl

theorem Build.run_tryCatch (x : Build α) (h : RequestError → Build α) (w : Workspace) :
    (tryCatch x h).run w =
      match x.run w with
      | (.ok a, w₁) => (.ok a, w₁)
      | (.error e, w₁) => (h e).run w₁ := by
  change (ExceptT.tryCatch x h).run w = _
  simp only [Build.run, ExceptT.tryCatch, ExceptT.run_mk]
  show StateT.run (ExceptT.run x >>= _) w = _
  rw [StateT.run_bind]
  rcases (ExceptT.run x).run w with ⟨_ | _, w₁⟩ <;> rfl

end Run

/-! ## Properties that sequencing keeps -/

/-- A property of steps that every `pure` has and that sequencing keeps.  A step put together
from such steps by `map`, `if`, `forM` and `mapM` has it too. -/
structure Sequential (Φ : ∀ {α : Type}, Build α → Prop) : Prop where
  pure : ∀ {α : Type} (a : α), Φ (Pure.pure a : Build α)
  bind : ∀ {α β : Type} {x : Build α} {f : α → Build β}, Φ x → (∀ a, Φ (f a)) → Φ (x >>= f)

namespace Sequential

variable {Φ : ∀ {α : Type}, Build α → Prop} {α β γ : Type}

theorem ite {p : Prop} [Decidable p] {x y : Build α} (hx : Φ x) (hy : Φ y) :
    Φ (if p then x else y) := by
  split
  · exact hx
  · exact hy

variable (hΦ : Sequential Φ)
include hΦ

theorem map {f : α → β} {x : Build α} (hx : Φ x) : Φ (f <$> x) := by
  rw [map_eq_pure_bind]
  exact hΦ.bind hx fun a => hΦ.pure (f a)

theorem forM {f : β → Build PUnit} (hf : ∀ b, Φ (f b)) : ∀ xs : List β, Φ (xs.forM f)
  | [] => hΦ.pure _
  | x :: xs => by
    rw [List.forM_eq_forM, List.forM_cons]
    exact hΦ.bind (hf x) fun _ => forM hf xs

theorem mapM {f : β → Build γ} (hf : ∀ b, Φ (f b)) : ∀ xs : List β, Φ (xs.mapM f)
  | [] => hΦ.pure _
  | x :: xs => by
    rw [List.mapM_cons]
    exact hΦ.bind (hf x) fun y => hΦ.bind (mapM hf xs) fun ys => hΦ.pure (y :: ys)

end Sequential

/-- Started in a workspace that satisfies `P`, the step `b`, when it succeeds with `a`, leaves a
workspace that satisfies `Q a`. -/
def Triple {α : Type} (P : Workspace → Prop) (b : Build α) (Q : α → Workspace → Prop) : Prop :=
  ∀ w, P w → ∀ a w', b.run w = (.ok a, w') → Q a w'

namespace Triple

variable {α β γ : Type} {P P' : Workspace → Prop} {Q Q' : α → Workspace → Prop}

theorem conseq {b : Build α} (h : Triple P b Q) (hpre : ∀ w, P' w → P w)
    (hpost : ∀ a w, Q a w → Q' a w) : Triple P' b Q' := by
  intro w hw a w' hrun
  exact hpost a w' (h w (hpre w hw) a w' hrun)

/-- A fact that does not depend on the workspace is kept by every step. -/
theorem frame {b : Build α} {φ : Prop} (h : Triple P b Q) :
    Triple (fun w => P w ∧ φ) b (fun a w => Q a w ∧ φ) := by
  intro w hw a w' hrun
  exact ⟨h w hw.1 a w' hrun, hw.2⟩

theorem pure (a : α) (h : ∀ w, P w → Q a w) : Triple P (Pure.pure a : Build α) Q := by
  intro w hw a' w' hrun
  rw [Build.run_pure] at hrun
  cases hrun
  exact h w hw

theorem bind {R : β → Workspace → Prop} {x : Build α} {f : α → Build β} (hx : Triple P x Q)
    (hf : ∀ a, Triple (Q a) (f a) R) : Triple P (x >>= f) R := by
  intro w hw b w'' hrun
  rw [Build.run_bind] at hrun
  rcases hx' : x.run w with ⟨_ | a, w'⟩
  · rw [hx'] at hrun
    cases hrun
  · rw [hx'] at hrun
    exact hf a w' (hx w hw a w' hx') b w'' hrun

theorem throw (e : RequestError) : Triple P (MonadExcept.throw e : Build α) Q := by
  intro w _ a w' hrun
  cases hrun

theorem note (n : Note) (I : IncludeTree → Prop) :
    Triple (fun w => I w.tree) (Request.note n) (fun _ w => I w.tree) := by
  intro w hw a w' hrun
  rw [Build.run_note] at hrun
  cases hrun
  exact hw

/-- Taking a note changes nothing but the notes. -/
theorem note_tree (n : Note) :
    Triple P (Request.note n) (fun _ w => ∃ w₀, P w₀ ∧ w.tree = w₀.tree) := by
  intro w hw a w' hrun
  rw [Build.run_note] at hrun
  cases hrun
  exact ⟨w, hw, rfl⟩

theorem currentTree : Triple P Request.currentTree (fun t w => P w ∧ t = w.tree) := by
  intro w hw a w' hrun
  rw [Build.run_currentTree] at hrun
  cases hrun
  exact ⟨hw, rfl⟩

theorem updateTree (f : IncludeTree → IncludeTree) (I : IncludeTree → Prop) :
    Triple (fun w => I (f w.tree)) (Request.updateTree f) (fun _ w => I w.tree) := by
  intro w hw a w' hrun
  rw [Build.run_updateTree] at hrun
  cases hrun
  exact hw

theorem liftExcept (x : Except RequestError α) :
    Triple P (Request.liftExcept x) (fun a w => P w ∧ x = .ok a) := by
  intro w hw a w' hrun
  rw [Build.run_liftExcept] at hrun
  cases hrun
  exact ⟨hw, rfl⟩

/-- A check that fails unless its condition is false: what follows runs knowing it is false. -/
theorem check {p : Prop} [Decidable p] {e : RequestError} {k : PUnit → Build α}
    (h : ¬p → Triple P (k ()) Q) : Triple P (if p then MonadExcept.throw e >>= k else k ()) Q := by
  by_cases hp : p
  · rw [if_pos hp]
    exact bind (Q := fun _ _ => False) (throw e) fun _ w hw => absurd hw id
  · rw [if_neg hp]
    exact h hp

theorem map {f : α → β} {x : Build α} (h : Triple P x Q) :
    Triple P (f <$> x) (fun b w => ∃ a, b = f a ∧ Q a w) := by
  intro w hw b w' hrun
  rw [Build.run_map] at hrun
  rcases hx : x.run w with ⟨_ | a, w₁⟩
  · rw [hx] at hrun
    cases hrun
  · rw [hx] at hrun
    cases hrun
    exact ⟨a, rfl, h w hw a w' hx⟩

/-- A loop keeps a condition indexed by the elements done so far when each element takes it
from those before to those up to itself. -/
theorem forM {f : β → Build PUnit} (I : List β → Workspace → Prop)
    (hstep : ∀ pre x, Triple (I pre) (f x) (fun _ => I (pre ++ [x]))) :
    ∀ (xs pre : List β), Triple (I pre) (xs.forM f) (fun _ => I (pre ++ xs))
  | [], pre => by
      simpa using Triple.pure (P := I pre) (Q := fun _ => I pre) PUnit.unit (fun _ h => h)
  | x :: xs, pre => by
      rw [List.forM_eq_forM, List.forM_cons]
      refine bind (hstep pre x) fun _ => ?_
      simpa using forM I hstep xs (pre ++ [x])

/-- A `mapM` loop keeps a condition indexed by the elements done so far, and relates every
result to its element. -/
theorem mapM {f : β → Build γ} (I : List β → Workspace → Prop) (R : β → γ → Prop)
    (hstep : ∀ pre x, Triple (I pre) (f x) (fun y w => I (pre ++ [x]) w ∧ R x y)) :
    ∀ (xs pre : List β), Triple (I pre) (xs.mapM f)
      (fun ys w => I (pre ++ xs) w ∧ List.Forall₂ R xs ys)
  | [], pre => by
      rw [List.mapM_nil]
      exact Triple.pure [] fun w h => ⟨by simpa using h, List.Forall₂.nil⟩
  | x :: xs, pre => by
      rw [List.mapM_cons]
      refine bind (hstep pre x) fun y => ?_
      refine bind (frame (mapM I R hstep xs (pre ++ [x]))) fun ys => ?_
      exact Triple.pure (y :: ys) fun w h => ⟨by simpa using h.1.1, List.Forall₂.cons h.2 h.1.2⟩

end Triple

/-- Every failure of `b` is one that `E` allows. -/
def Raises {α : Type} (E : RequestError → Prop) (b : Build α) : Prop :=
  ∀ w e w', b.run w = (.error e, w') → E e

namespace Raises

variable {α β : Type} {E : RequestError → Prop}

theorem pure (a : α) : Raises E (Pure.pure a : Build α) := by
  intro w e w' hrun
  cases hrun

theorem throw {e : RequestError} (h : E e) : Raises E (MonadExcept.throw e : Build α) := by
  intro w e' w' hrun
  cases hrun
  exact h

theorem bind {x : Build α} {f : α → Build β} (hx : Raises E x) (hf : ∀ a, Raises E (f a)) :
    Raises E (x >>= f) := by
  intro w e w'' hrun
  rw [Build.run_bind] at hrun
  rcases hx' : x.run w with ⟨e₁ | a, w₁⟩
  · rw [hx'] at hrun
    simp only [Prod.mk.injEq, Except.error.injEq] at hrun
    rw [hrun.1] at hx'
    exact hx w e w₁ hx'
  · rw [hx'] at hrun
    exact hf a w₁ e w'' hrun

theorem sequential : Sequential fun {α} => @Raises α E :=
  ⟨pure, bind⟩

end Raises

end Request
end RestQuery
