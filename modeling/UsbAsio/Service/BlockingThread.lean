import UsbAsio.Transition.Basic
import UsbAsio.WorkQueue.Basic

/-!
# The thread for blocking operations

The constructor of a `usb_service` starts `blocking_op_thread_` before it takes the tracked
`blocking_op_executor_`. A thread that is quick to enter `blocking_op_ioc_.run()` finds no work
there, and leaves; the operations posted later are never executed. The thread stays exactly when
its first look at the work count comes after the executor has been taken.
-/

namespace UsbAsio.BlockingThread

open Transition WorkQueue

/-- Where the constructor of the service is, from `blocking_op_ioc_` on. -/
inductive CtorPc where
  | iocConstructed
  | threadStarted
  | finished        -- `blocking_op_executor_` taken
  deriving DecidableEq

/-- Posted functions are numbered in the order of the posts. -/
structure State where
  ctor : CtorPc := .iocConstructed
  ioc : Queue ℕ := {}
  /-- `blocking_op_thread_`, once it has been started. -/
  thread : Option (Runner ℕ) := none
  /-- Copies of `blocking_op_executor_` that callers hold; each of them is tracked. -/
  copies : ℕ := 0
  nextFn : ℕ := 0
  /-- The functions that the thread has begun to execute, latest first. -/
  executed : List ℕ := []

def init : State := {}

inductive Action where
  | startThread
  | takeExecutor
  | blockingOpExecutor
  | post
  | dropExecutor
  | run
  deriving DecidableEq

/-- One step: of the constructor (`startThread`, `takeExecutor`), of a thread that initiates an
operation (`blockingOpExecutor`, `post`, `dropExecutor`), or of `blocking_op_ioc_.run()`. -/
def step (s : State) : Action → Option State
  | .startThread        =>
    if s.ctor = .iocConstructed then
      some { s with ctor := .threadStarted, thread := some .entered }
    else none
  | .takeExecutor       =>
    if s.ctor = .threadStarted then
      some { s with ctor := .finished, ioc := s.ioc.workStarted }
    else none
  | .blockingOpExecutor =>
    if s.ctor = .finished then
      some { s with copies := s.copies + 1, ioc := s.ioc.workStarted }
    else none
  | .post               =>
    if 0 < s.copies then
      some { s with nextFn := s.nextFn + 1, ioc := s.ioc.post s.nextFn }
    else none
  | .dropExecutor       =>
    if 0 < s.copies then
      some { s with copies := s.copies - 1, ioc := s.ioc.workFinished }
    else none
  | .run                =>
    match s.thread with
    | none   => none
    | some r =>
      match advance s.ioc r with
      | none         => none
      | some (q, r') =>
        let executed := match r' with
          | .executing fn => fn :: s.executed
          | _             => s.executed
        some { s with ioc := q, thread := some r', executed := executed }

/-- `blocking_op_ioc_` accepts functions, and its `run()` has not returned. -/
structure Served (s : State) : Prop where
  running : s.ioc.stopped = false
  present : s.thread ≠ some .returned

/-- The thread looks at the work count for the first time when the constructor has finished. -/
def EnterLast (s : State) : Action → Prop
  | .run => s.thread = some .entered → s.ctor = .finished
  | _    => True

/-! ### The invariant -/

/-- Nothing touches `blocking_op_ioc_` before the constructor has finished; from then on there is
a guard on it besides the copies. -/
inductive Inv (s : State) : Prop
  | iocConstructed (hctor : s.ctor = .iocConstructed) (hioc : s.ioc = {})
      (hthread : s.thread = none) (hcopies : s.copies = 0)
  | threadStarted (hctor : s.ctor = .threadStarted) (hioc : s.ioc = {})
      (hthread : s.thread = some .entered) (hcopies : s.copies = 0)
  | finished (hctor : s.ctor = .finished) (r : Runner ℕ) (hthread : s.thread = some r)
      (hbal : Balanced s.ioc r (s.copies + 1)) (hserves : Serves s.ioc r)

lemma inv_init : Inv init := .iocConstructed rfl rfl rfl rfl

lemma Inv.served {s : State} (h : Inv s) : Served s := by
  cases h with
  | iocConstructed _ hioc hthread =>
    exact ⟨by rw [hioc], by rw [hthread]; exact nofun⟩
  | threadStarted _ hioc hthread =>
    refine ⟨by rw [hioc], ?_⟩
    rw [hthread]
    exact nofun
  | finished _ r hthread _ hserves =>
    refine ⟨hserves.running, ?_⟩
    rw [hthread]
    intro hr
    exact hserves.present (Option.some.inj hr)

/-- A caller has a copy only when the constructor has finished. -/
lemma Inv.finished_of_copies {s : State} (h : Inv s) (hpos : 0 < s.copies) :
    s.ctor = .finished ∧ ∃ r, s.thread = some r ∧ Balanced s.ioc r (s.copies + 1) ∧
      Serves s.ioc r := by
  cases h with
  | iocConstructed _ _ _ hcopies | threadStarted _ _ _ hcopies => omega
  | finished hctor r hthread hbal hserves => exact ⟨hctor, r, hthread, hbal, hserves⟩

/-! ### One step -/

/-- What a step of the thread does. -/
lemma step_run {s t : State} (ht : step s .run = some t) :
    ∃ r q r', s.thread = some r ∧ advance s.ioc r = some (q, r') ∧ t.ctor = s.ctor ∧ t.ioc = q ∧
      t.thread = some r' ∧ t.copies = s.copies := by
  cases hthread : s.thread with
  | none => simp [step, hthread] at ht
  | some r =>
    cases hadv : advance s.ioc r with
    | none => simp [step, hthread, hadv] at ht
    | some x =>
      simp only [step, hthread, hadv, Option.some.injEq] at ht
      subst ht
      exact ⟨r, x.1, x.2, rfl, hadv, rfl, rfl, rfl, rfl⟩

lemma inv_step {s t : State} {a : Action} (h : Inv s) (hlast : EnterLast s a)
    (ht : step s a = some t) : Inv t := by
  cases a with
  | startThread =>
    simp only [step] at ht
    split_ifs at ht with hctor
    cases ht
    cases h with
    | iocConstructed _ hioc _ hcopies => exact .threadStarted rfl hioc rfl hcopies
    | threadStarted hctor' | finished hctor' => simp [hctor] at hctor'
  | takeExecutor =>
    simp only [step] at ht
    split_ifs at ht with hctor
    cases ht
    cases h with
    | threadStarted _ hioc hthread hcopies =>
      have hempty : Balanced s.ioc .entered 0 := by rw [hioc]; rfl
      refine .finished rfl .entered hthread ?_ ⟨by simp [hioc, Queue.workStarted], nofun⟩
      rw [hcopies]
      exact hempty.workStarted
    | iocConstructed hctor' | finished hctor' => simp [hctor] at hctor'
  | blockingOpExecutor =>
    simp only [step] at ht
    split_ifs at ht with hctor
    cases ht
    cases h with
    | finished _ r hthread hbal hserves =>
      exact .finished hctor r hthread hbal.workStarted ⟨hserves.running, hserves.present⟩
    | iocConstructed hctor' | threadStarted hctor' => simp [hctor] at hctor'
  | post =>
    simp only [step] at ht
    split_ifs at ht with hpos
    cases ht
    obtain ⟨hctor, r, hthread, hbal, hserves⟩ := h.finished_of_copies hpos
    exact .finished hctor r hthread (hbal.post _) ⟨hserves.running, hserves.present⟩
  | dropExecutor =>
    simp only [step] at ht
    split_ifs at ht with hpos
    cases ht
    obtain ⟨hctor, r, hthread, hbal, hserves⟩ := h.finished_of_copies hpos
    -- the guard of the service remains
    have hwork : s.ioc.work ≠ 1 := by
      have := hbal.guards_le
      omega
    refine .finished hctor r hthread ?_ (hserves.workFinished hwork)
    rw [← Nat.sub_add_cancel hpos] at hbal
    exact hbal.workFinished
  | run =>
    obtain ⟨r, q, r', hthread, hadv, hctor, hioc, hthread', hcopies⟩ := step_run ht
    cases h with
    | iocConstructed _ _ hnone => simp [hnone] at hthread
    | threadStarted hctor' _ hentered => simp [hlast hentered] at hctor'
    | finished hfin r₀ hr₀ hbal hserves =>
      obtain rfl : r₀ = r := Option.some.inj (hr₀.symm.trans hthread)
      refine .finished (hctor.trans hfin) r' hthread' ?_ ?_
      · rw [hioc, hcopies]
        exact hbal.advance hadv
      · rw [hioc]
        exact hserves.advance hbal hadv

/-- A thread that is too early finds no work and leaves. -/
lemma not_served_step {s t : State} {a : Action} (h : Inv s) (hlast : ¬ EnterLast s a)
    (ht : step s a = some t) : ¬ Served t := by
  cases a with
  | run =>
    obtain ⟨hentered, hctor⟩ := Classical.not_imp.mp hlast
    obtain ⟨r, q, r', hthread, hadv, -, -, hthread', -⟩ := step_run ht
    obtain rfl : .entered = r := Option.some.inj (hentered.symm.trans hthread)
    have hidle : s.ioc.work = 0 := by
      cases h with
      | iocConstructed _ hioc | threadStarted _ hioc => rw [hioc]
      | finished hctor' => exact absurd hctor' hctor
    rw [advance_entered_of_idle hidle] at hadv
    cases hadv
    exact fun hserved => hserved.present hthread'
  | startThread | takeExecutor | blockingOpExecutor | post | dropExecutor =>
    exact absurd trivial hlast

/-! ### All runs -/

/-- `run()` has not returned in any state of a run exactly when the thread enters it after the
constructor has taken the tracked executor. -/
theorem served_iff_enterLast (as : List Action) :
    Always step Served init as ↔ Along step EnterLast init as :=
  always_iff_along (fun _ _ _ h hlast ht => inv_step h hlast ht)
    (fun _ _ _ h hlast ht => not_served_step h hlast ht) (fun _ h => h.served) inv_init

/-- Once `run()` has returned, no function is executed any more, however many are posted. -/
theorem executed_of_returned {s : State} (hctor : s.ctor ≠ .iocConstructed)
    (hthread : s.thread = some .returned) (as : List Action) :
    Always step (fun t => t.executed = s.executed) s as := by
  let I : State → Prop := fun t =>
    t.ctor ≠ .iocConstructed ∧ t.thread = some .returned ∧ t.executed = s.executed
  have hstep : ∀ t a u, I t → step t a = some u → I u := by
    intro t a u ⟨hctor, hthread, hexecuted⟩ hu
    cases a with
    | run => simp [step, hthread, advance_returned] at hu
    | startThread => simp [step, hctor] at hu
    | takeExecutor | blockingOpExecutor | post | dropExecutor =>
      simp only [step] at hu
      split_ifs at hu
      cases hu
      exact ⟨by simp [hctor], hthread, hexecuted⟩
  exact always_of_preserved hstep (fun t ht => ht.2.2) ⟨hctor, hthread, rfl⟩ as

/-- The thread is started and enters `run()` while the constructor is about to take the
executor; the function posted later stays in the queue. -/
theorem not_served_early_thread : ¬ ∀ as : List Action, Always step Served init as := by
  intro h
  have hreturned : (exec step init [.startThread, .run]).map
      (fun s => decide (s.ioc.stopped = true)) = some true := by decide
  obtain ⟨s, hs, hs'⟩ := Option.map_eq_some_iff.mp hreturned
  have hrunning := ((h _).last hs).running
  simp [hrunning] at hs'

end UsbAsio.BlockingThread
