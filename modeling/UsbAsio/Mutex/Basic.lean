import Mathlib.Tactic

/-!
# Mutual exclusion

A mutex with at most one owner, and the threads that are inside the sections it guards. As long
as the two agree, at most one thread is inside.
-/

namespace Mutex

variable {θ : Type*} {owner : Option θ} {inside : θ → Bool} {x y : θ}

/-- The owner of the mutex is the thread inside. -/
def Agrees (owner : Option θ) (inside : θ → Bool) : Prop :=
  ∀ x, inside x = true ↔ owner = some x

/-- Two threads are not inside at once. -/
lemma Agrees.exclusive (h : Agrees owner inside) (hx : inside x = true) (hy : inside y = true) :
    x = y :=
  Option.some.inj (((h x).mp hx).symm.trans ((h y).mp hy))

variable [DecidableEq θ]

/-- A free mutex is taken, and its new owner goes in. -/
lemma Agrees.lock (h : Agrees none inside) (x : θ) :
    Agrees (some x) (Function.update inside x true) := by
  intro y
  by_cases hy : y = x
  · rw [hy, Function.update_self]
    exact ⟨fun _ => rfl, fun _ => rfl⟩
  · rw [Function.update_of_ne hy, h y]
    constructor
    · intro hnone
      cases hnone
    · intro hsome
      exact absurd (Option.some.inj hsome).symm hy

/-- The thread inside gives the mutex back and leaves. -/
lemma Agrees.unlock (h : Agrees owner inside) (hx : inside x = true) :
    Agrees none (Function.update inside x false) := by
  intro y
  by_cases hy : y = x
  · rw [hy, Function.update_self]
    constructor <;> intro hfalse <;> cases hfalse
  · rw [Function.update_of_ne hy]
    constructor
    · intro hin
      exact absurd (h.exclusive hin hx) hy
    · intro hnone
      cases hnone

/-- A thread that moves on without the mutex stays inside or outside. -/
lemma Agrees.stay (h : Agrees owner inside) {b : Bool} (hb : b = inside x) :
    Agrees owner (Function.update inside x b) := by
  rw [hb, Function.update_eq_self]
  exact h

end Mutex
