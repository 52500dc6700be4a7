import UsbAsio.WorkQueue.Basic

/-!
# Queues that run empty

A queue stops exactly when it runs out of work, and its thread leaves it only then. So when the
last guard is gone the thread executes what has been posted, in the order of the posts, and
leaves.
-/

namespace WorkQueue

variable {α : Type*} {q q' : Queue α} {r r' : Runner α} {guards : ℕ}

/-! ### Stopping in time -/

/-- The queue has stopped only without work, and without work the thread has been told so. -/
structure Exact (q : Queue α) (r : Runner α) (guards : ℕ) : Prop where
  balanced : Balanced q r guards
  stopped : q.stopped = true → q.work = 0
  idle : r = .serving → q.work = 0 → q.stopped = true
  returned : r = .returned → q.stopped = true

/-- A queue that is served, with a guard on it. -/
lemma Exact.of_serves (hbal : Balanced q r (guards + 1)) (h : Serves q r) :
    Exact q r (guards + 1) where
  balanced := hbal
  stopped hstopped := by
    rw [h.running] at hstopped
    cases hstopped
  idle _ hwork := by
    have hle := hbal.guards_le
    omega
  returned hr := absurd hr h.present

/-- With a guard on it the queue has not stopped. -/
lemma Exact.running (h : Exact q r (guards + 1)) : q.stopped = false := by
  cases hstopped : q.stopped with
  | false => rfl
  | true =>
    have hwork := h.stopped hstopped
    have hle := h.balanced.guards_le
    omega

lemma Exact.post (h : Exact q r (guards + 1)) (fn : α) : Exact (q.post fn) r (guards + 1) where
  balanced := h.balanced.post fn
  stopped hstopped := by
    have hrunning : (q.post fn).stopped = false := h.running
    rw [hrunning] at hstopped
    cases hstopped
  idle _ hwork := by
    have hpos : (q.post fn).work = q.work + 1 := rfl
    omega
  returned hr := h.returned hr

/-- One guard fewer; the last work stops the queue. -/
lemma Exact.workFinished (h : Exact q r (guards + 1)) : Exact q.workFinished r guards := by
  have hrunning := h.running
  refine ⟨h.balanced.workFinished, ?_, ?_, ?_⟩
  · simp only [Queue.workFinished, hrunning, Bool.false_or, decide_eq_true_eq]
    omega
  · intro _ hwork
    have hle := h.balanced.guards_le
    simp only [Queue.workFinished, hrunning, Bool.false_or, decide_eq_true_eq] at hwork ⊢
    omega
  · intro hr
    simp [Queue.workFinished, h.returned hr]

/-- The thread leaves a queue without work. -/
lemma Exact.of_left (hbal : Balanced q .returned guards) (hwork : q.work = 0)
    (hstopped : q.stopped = true) : Exact q .returned guards where
  balanced := hbal
  stopped _ := hwork
  idle hr := by cases hr
  returned _ := hstopped

/-- The thread keeps the queue exact. -/
lemma Exact.advance (h : Exact q r guards) (hstep : WorkQueue.advance q r = some (q', r')) :
    Exact q' r' guards := by
  have hbal := h.balanced.advance hstep
  cases r with
  | entered =>
    simp only [WorkQueue.advance] at hstep
    split_ifs at hstep with hwork <;> cases hstep
    · exact .of_left hbal hwork rfl
    · refine ⟨hbal, h.stopped, fun _ hidle => absurd hidle hwork, ?_⟩
      intro hr
      cases hr
  | serving =>
    simp only [WorkQueue.advance] at hstep
    split_ifs at hstep with hstopped
    · cases hstep
      exact .of_left hbal (h.stopped hstopped) hstopped
    · cases hpending : q.pending with
      | nil => simp [hpending] at hstep
      | cons fn rest =>
        rw [hpending] at hstep
        cases hstep
        refine ⟨hbal, h.stopped, ?_, ?_⟩ <;> intro hr <;> cases hr
  | executing fn =>
    cases hstep
    -- the function itself is the last piece of work, if there is no other
    have hload : q.work = guards + q.pending.length + 1 := h.balanced
    refine ⟨hbal, ?_, ?_, ?_⟩
    · simp only [Queue.workFinished, Bool.or_eq_true, decide_eq_true_eq]
      rintro (hstopped | hlast)
      · have hwork := h.stopped hstopped
        omega
      · omega
    · intro _ hwork
      simp only [Queue.workFinished, Bool.or_eq_true, decide_eq_true_eq] at hwork ⊢
      right
      omega
    · intro hr
      cases hr
  | returned => cases hstep

/-- When the thread has left, everything that had been posted has been executed, and nobody holds
the queue. -/
lemma Exact.empty (h : Exact q .returned guards) : guards = 0 ∧ q.pending = [] := by
  have hwork := h.stopped (h.returned rfl)
  have hbal : q.work = guards + q.pending.length + 0 := h.balanced
  refine ⟨by omega, List.length_eq_zero_iff.mp ?_⟩
  omega

/-- A thread that can do nothing has left, or waits for work that somebody may still post. -/
lemma Exact.stuck (h : Exact q r guards) (hstep : WorkQueue.advance q r = none) :
    r = .returned ∨ 0 < guards := by
  cases r with
  | entered =>
    simp only [WorkQueue.advance] at hstep
    split_ifs at hstep
  | serving =>
    simp only [WorkQueue.advance] at hstep
    split_ifs at hstep with hstopped
    cases hpending : q.pending with
    | nil =>
      right
      have hbal : q.work = guards + q.pending.length + 0 := h.balanced
      have hwork : q.work ≠ 0 := fun hwork => hstopped (h.idle rfl hwork)
      rw [hpending, List.length_nil] at hbal
      omega
    | cons fn rest => simp [hpending] at hstep
  | executing fn => cases hstep
  | returned => exact .inl rfl

/-! ### The steps of the thread -/

def Runner.rank : Runner α → ℕ
  | .entered     => 2
  | .serving     => 1
  | .executing _ => 2
  | .returned    => 0

/-- The steps that the thread can still take if nothing more is posted. -/
def steps (q : Queue α) (r : Runner α) : ℕ := 2 * q.pending.length + r.rank

/-- The queue is destroyed; what is pending is not executed. -/
def Queue.discard (q : Queue α) : Queue α := { q with pending := [] }

lemma steps_discard (q : Queue α) (r : Runner α) : steps q.discard r ≤ steps q r := by
  simp [steps, Queue.discard]

@[simp] lemma steps_workFinished (q : Queue α) (r : Runner α) :
    steps q.workFinished r = steps q r := rfl

lemma steps_advance (hstep : advance q r = some (q', r')) : steps q' r' < steps q r := by
  cases r with
  | entered =>
    simp only [advance] at hstep
    split_ifs at hstep <;> cases hstep <;> simp [steps, Runner.rank]
  | serving =>
    simp only [advance] at hstep
    split_ifs at hstep
    · cases hstep
      simp [steps, Runner.rank]
    · cases hpending : q.pending with
      | nil => simp [hpending] at hstep
      | cons fn rest =>
        rw [hpending] at hstep
        cases hstep
        simp only [steps, hpending, List.length_cons, Runner.rank]
        omega
  | executing fn =>
    cases hstep
    simp [steps, Queue.workFinished, Runner.rank]
  | returned => cases hstep

/-! ### The order of the functions -/

/-- What has been executed, latest first, and what is pending are what has been posted. -/
def Ordered (posted executed : List α) (q : Queue α) : Prop :=
  executed.reverse ++ q.pending = posted

variable {posted executed : List α}

lemma Ordered.post (h : Ordered posted executed q) (fn : α) :
    Ordered (posted ++ [fn]) executed (q.post fn) := by
  rw [Ordered] at h ⊢
  rw [← h, List.append_assoc]
  rfl

lemma Ordered.congr (h : Ordered posted executed q) (hpending : q'.pending = q.pending) :
    Ordered posted executed q' := by
  rw [Ordered, hpending]
  exact h

/-- Functions numbered in the order of the posts: the next one is numbered by how many have been
executed. -/
lemma Ordered.next {n fn : ℕ} {executed rest : List ℕ} {q : Queue ℕ}
    (h : Ordered (List.range n) executed q) (hpending : q.pending = fn :: rest) :
    fn = executed.length ∧ executed.length < n := by
  rw [Ordered, hpending] at h
  have hget : (List.range n)[executed.length]? = some fn := by
    rw [← h, ← List.length_reverse, List.getElem?_append_right le_rfl, Nat.sub_self]
    rfl
  obtain ⟨hlt, hfn⟩ := List.getElem?_eq_some_iff.mp hget
  rw [List.length_range] at hlt
  rw [List.getElem_range] at hfn
  exact ⟨hfn.symm, hlt⟩

/-- The functions that the thread has begun to execute after a step. -/
def Runner.record : Runner α → List α → List α
  | .executing fn, executed => fn :: executed
  | _, executed             => executed

lemma Ordered.advance (h : Ordered posted executed q)
    (hstep : WorkQueue.advance q r = some (q', r')) :
    Ordered posted (r'.record executed) q' := by
  cases r with
  | entered =>
    simp only [WorkQueue.advance] at hstep
    split_ifs at hstep <;> cases hstep <;> exact h
  | serving =>
    simp only [WorkQueue.advance] at hstep
    split_ifs at hstep
    · cases hstep
      exact h
    · cases hpending : q.pending with
      | nil => simp [hpending] at hstep
      | cons fn rest =>
        rw [hpending] at hstep
        cases hstep
        rw [Ordered, hpending] at h
        simpa [Ordered, Runner.record] using h
  | executing fn =>
    cases hstep
    exact h
  | returned => cases hstep

end WorkQueue
