import UsbAsio.Service.BlockingThread
import UsbAsio.WorkQueue.Drain

/-!
# What the blocking thread executes

The functions posted to `blocking_op_ioc_` are executed in the order of the posts, each of them
once. A thread that is in `run()` stays there until the last copy of `blocking_op_executor_` is
gone and the last function has been executed.
-/

namespace UsbAsio.BlockingThread

open Transition WorkQueue

variable {s t : State} {a : Action}

/-- What has been executed and what is pending are what has been posted, in this order. -/
def InOrder (s : State) : Prop := Ordered (List.range s.nextFn) s.executed s.ioc

lemma inOrder_init : InOrder init := rfl

/-- What a step of the thread records. -/
lemma executed_run (ht : step s .run = some t) :
    ∃ r q r', s.thread = some r ∧ advance s.ioc r = some (q, r') ∧
      t = { s with ioc := q, thread := some r', executed := r'.record s.executed } := by
  cases hthread : s.thread with
  | none => simp [step, hthread] at ht
  | some r =>
    cases hadv : advance s.ioc r with
    | none => simp [step, hthread, hadv] at ht
    | some x =>
      obtain ⟨q, r'⟩ := x
      refine ⟨r, q, r', rfl, hadv, ?_⟩
      simp only [step, hthread, hadv, Option.some.injEq] at ht
      cases r' <;> exact ht.symm

lemma InOrder.of_step (h : InOrder s) (ht : step s a = some t) : InOrder t := by
  cases a with
  | run =>
    obtain ⟨r, q, r', -, hadv, rfl⟩ := executed_run ht
    exact Ordered.advance h hadv
  | post =>
    obtain ⟨-, rfl⟩ := Option.ite_some_none_eq_some.mp ht
    have hpost := Ordered.post h s.nextFn
    rw [← List.range_succ] at hpost
    exact hpost
  | startThread | takeExecutor | blockingOpExecutor | dropExecutor =>
    obtain ⟨-, rfl⟩ := Option.ite_some_none_eq_some.mp ht
    exact h

instance (s : State) (a : Action) : Decidable (EnterLast s a) :=
  match a with
  | .run =>
    match hthread : s.thread with
    | some .entered => decidable_of_iff (s.ctor = .finished) (by simp [EnterLast, hthread])
    | some .serving | some (.executing _) | some .returned | none =>
      isTrue (by simp [EnterLast, hthread])
  | .startThread | .takeExecutor | .blockingOpExecutor | .post | .dropExecutor =>
    inferInstanceAs (Decidable True)

/-! ### Until the queue is empty -/

/-- The thread has been started, and there are `guards` tracked executors. -/
structure Busy (s : State) (r : Runner ℕ) (guards : ℕ) : Prop where
  ctor : s.ctor = .finished
  thread : s.thread = some r
  exact : Exact s.ioc r guards

/-- Once the constructor has finished, one of the executors is that of the service. -/
lemma Inv.busy (h : Inv s) (hctor : s.ctor = .finished) : ∃ r, Busy s r (s.copies + 1) := by
  cases h with
  | iocConstructed hctor' | threadStarted hctor' => simp [hctor] at hctor'
  | finished _ r hthread hbal hserves => exact ⟨r, hctor, hthread, .of_serves hbal hserves⟩

/-- The steps of the thread, and of callers that hold a copy of the executor. -/
lemma Busy.of_step {r : Runner ℕ} (h : Busy s r s.copies)
    (ha : a = .run ∨ a = .post ∨ a = .dropExecutor) (ht : step s a = some t) :
    ∃ r', Busy t r' t.copies := by
  rcases ha with rfl | rfl | rfl
  · obtain ⟨r₀, q, r', hthread, hadv, rfl⟩ := executed_run ht
    obtain rfl : r = r₀ := Option.some.inj (h.thread.symm.trans hthread)
    exact ⟨r', h.ctor, rfl, h.exact.advance hadv⟩
  · obtain ⟨hpos, rfl⟩ := Option.ite_some_none_eq_some.mp ht
    have hexact := h.exact
    obtain ⟨n, hn⟩ := Nat.exists_eq_add_of_le' hpos
    rw [hn] at hexact
    refine ⟨r, h.ctor, h.thread, ?_⟩
    show Exact (s.ioc.post s.nextFn) r s.copies
    rw [hn]
    exact hexact.post _
  · obtain ⟨hpos, rfl⟩ := Option.ite_some_none_eq_some.mp ht
    have hexact := h.exact
    rw [← Nat.sub_add_cancel hpos] at hexact
    exact ⟨r, h.ctor, h.thread, hexact.workFinished⟩

/-- A thread that can do nothing has left, or a copy of the executor is left. -/
lemma Busy.stuck {r : Runner ℕ} {guards : ℕ} (h : Busy s r guards) (hstuck : step s .run = none) :
    r = .returned ∨ 0 < guards := by
  cases hadv : advance s.ioc r with
  | none => exact h.exact.stuck hadv
  | some x => simp [step, h.thread, hadv] at hstuck

/-- The steps that the thread can still take if nothing more is posted. -/
def State.steps (s : State) : ℕ :=
  match s.thread with
  | none   => 0
  | some r => WorkQueue.steps s.ioc r

lemma steps_run (ht : step s .run = some t) : t.steps < s.steps := by
  obtain ⟨r, q, r', hthread, hadv, rfl⟩ := executed_run ht
  simp only [State.steps, hthread]
  exact steps_advance hadv

/-- What happens to the queue alone. -/
lemma steps_le_of_ioc {q : Queue ℕ} (h : ∀ r, WorkQueue.steps q r ≤ WorkQueue.steps s.ioc r) :
    { s with ioc := q }.steps ≤ s.steps := by
  cases hthread : s.thread with
  | none => simp [State.steps, hthread]
  | some r => simpa [State.steps, hthread] using h r

end UsbAsio.BlockingThread
