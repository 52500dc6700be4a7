import Mathlib.Tactic

/-!
# Queues that stop when they run out of work

A queue of functions with a count of outstanding work, as an event loop keeps it: posted
functions and guards count as work, the last work that finishes stops the queue, and a thread
that enters the queue when there is no work leaves it at once. One thread serves the queue.

`Balanced` says what the count consists of. A queue with a guard on it never stops.
-/

namespace WorkQueue

/-- Functions are named by `α`. -/
structure Queue (α : Type*) where
  pending : List α := []
  work : ℕ := 0
  stopped : Bool := false

/-- Where the serving thread is. -/
inductive Runner (α : Type*) where
  | entered            -- about to look at the work count
  | serving
  | executing (fn : α)
  | returned

variable {α : Type*}

namespace Queue

/-- A guard is taken. -/
def workStarted (q : Queue α) : Queue α := { q with work := q.work + 1 }

/-- A guard or a function is done with; the last one stops the queue. -/
def workFinished (q : Queue α) : Queue α :=
  { q with work := q.work - 1, stopped := q.stopped || q.work = 1 }

def post (q : Queue α) (fn : α) : Queue α :=
  { q.workStarted with pending := q.pending ++ [fn] }

end Queue

/-- The next step of the serving thread; `none` while it has nothing to do. -/
def advance (q : Queue α) : Runner α → Option (Queue α × Runner α)
  | .entered      =>
    if q.work = 0 then some ({ q with stopped := true }, .returned) else some (q, .serving)
  | .serving      =>
    if q.stopped then some (q, .returned)
    else
      match q.pending with
      | []         => none
      | fn :: rest => some ({ q with pending := rest }, .executing fn)
  | .executing _  => some (q.workFinished, .serving)
  | .returned     => none

/-! ### The work count -/

/-- The work of the thread itself. -/
def Runner.load : Runner α → ℕ
  | .executing _ => 1
  | .entered | .serving | .returned => 0

/-- The work consists of `guards`, of the functions in the queue and of the one that is being
executed. -/
def Balanced (q : Queue α) (r : Runner α) (guards : ℕ) : Prop :=
  q.work = guards + q.pending.length + r.load

variable {q q' : Queue α} {r r' : Runner α} {guards : ℕ}

lemma Balanced.workStarted (h : Balanced q r guards) : Balanced q.workStarted r (guards + 1) := by
  simp only [Balanced, Queue.workStarted] at *
  omega

lemma Balanced.workFinished (h : Balanced q r (guards + 1)) :
    Balanced q.workFinished r guards := by
  simp only [Balanced, Queue.workFinished] at *
  omega

lemma Balanced.post (h : Balanced q r guards) (fn : α) : Balanced (q.post fn) r guards := by
  simp only [Balanced, Queue.post, Queue.workStarted, List.length_append,
    List.length_singleton] at *
  omega

lemma Balanced.guards_le (h : Balanced q r guards) : guards ≤ q.work := by
  rw [Balanced] at h
  omega

/-- The thread keeps the balance. -/
lemma Balanced.advance (h : Balanced q r guards) (hstep : advance q r = some (q', r')) :
    Balanced q' r' guards := by
  rw [Balanced] at h ⊢
  cases r with
  | entered =>
    simp only [WorkQueue.advance] at hstep
    split_ifs at hstep <;> cases hstep <;> exact h
  | serving =>
    simp only [WorkQueue.advance] at hstep
    split_ifs at hstep with hstopped
    · cases hstep
      exact h
    · cases hpending : q.pending with
      | nil => simp [hpending] at hstep
      | cons fn rest =>
        rw [hpending] at h hstep
        cases hstep
        exact h
  | executing fn =>
    cases hstep
    simp only [Queue.workFinished, Runner.load] at h ⊢
    omega
  | returned => cases hstep

/-! ### Liveness of the queue -/

/-- The queue runs the functions posted to it, and the thread serves it. -/
structure Serves (q : Queue α) (r : Runner α) : Prop where
  running : q.stopped = false
  present : r ≠ .returned

lemma Serves.workFinished (h : Serves q r) (hwork : q.work ≠ 1) : Serves q.workFinished r :=
  ⟨by simp [Queue.workFinished, h.running, hwork], h.present⟩

/-- With a guard on the queue, the thread stays in it. -/
lemma Serves.advance (h : Serves q r) (hbal : Balanced q r (guards + 1))
    (hstep : advance q r = some (q', r')) : Serves q' r' := by
  rw [Balanced] at hbal
  cases r with
  | entered =>
    rw [WorkQueue.advance, if_neg (by omega)] at hstep
    cases hstep
    exact ⟨h.running, nofun⟩
  | serving =>
    rw [WorkQueue.advance, if_neg (by simp [h.running])] at hstep
    cases hpending : q.pending with
    | nil => simp [hpending] at hstep
    | cons fn rest =>
      rw [hpending] at hstep
      cases hstep
      exact ⟨h.running, nofun⟩
  | executing fn =>
    cases hstep
    have hload : (Runner.executing fn).load = 1 := rfl
    have hwork : q.work ≠ 1 := by omega
    exact ⟨(h.workFinished hwork).running, nofun⟩
  | returned => exact absurd rfl h.present

/-- Without work, the thread leaves. -/
lemma advance_entered_of_idle (h : q.work = 0) :
    advance q .entered = some ({ q with stopped := true }, .returned) := if_pos h

/-- A thread that has left does not come back. -/
lemma advance_returned (q : Queue α) : advance q .returned = none := rfl

end WorkQueue
