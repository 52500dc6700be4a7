import Mathlib.Tactic

/-!
# Executors and outstanding work

An executor belongs to an execution context. A tracked executor is outstanding work of its
context, and so is every copy of it: the `run()` of a context returns only when no tracked
executor of the context is left.
-/

namespace WorkQueue

/-- A type of executors over a type of contexts. `prefer` asks for the tracked version of an
executor, which is on the same context; a tracked executor is its own tracked version. -/
structure Executors (E κ : Type*) where
  context : E → κ
  tracked : E → Bool
  prefer : E → E
  context_prefer : ∀ e, context (prefer e) = context e
  tracked_prefer : ∀ e, tracked (prefer e) = true
  prefer_of_tracked : ∀ e, tracked e = true → prefer e = e

namespace Executors

variable {E κ : Type*} (X : Executors E κ)

lemma prefer_eq_self_iff {e : E} : X.prefer e = e ↔ X.tracked e = true := by
  refine ⟨?_, X.prefer_of_tracked e⟩
  intro h
  rw [← h]
  exact X.tracked_prefer e

variable [DecidableEq κ]

/-- How much work the executors in a list are for a context. -/
def work (held : List E) (c : κ) : ℕ :=
  held.countP fun e => X.tracked e && decide (X.context e = c)

/-- A stored tracked copy is work. -/
lemma work_pos {held : List E} {e : E} (h : X.prefer e ∈ held) : 0 < X.work held (X.context e) := by
  refine List.countP_pos_iff.mpr ⟨X.prefer e, h, ?_⟩
  simp [X.tracked_prefer, X.context_prefer]

end Executors

/-- Executors that are a context and whether they are tracked. -/
def plain (κ : Type*) : Executors (κ × Bool) κ where
  context := Prod.fst
  tracked := Prod.snd
  prefer := fun e => (e.1, true)
  context_prefer := fun _ => rfl
  tracked_prefer := fun _ => rfl
  prefer_of_tracked := fun _ h => Prod.ext rfl h.symm

end WorkQueue
