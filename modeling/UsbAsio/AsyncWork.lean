import UsbAsio.Transfer.Pending
import UsbAsio.WorkQueue.Executor

/-!
# Outstanding work of the operations

An asynchronous operation takes tracked copies of two executors when it is initiated: of its I/O
executor, and of the executor associated with its completion handler. A blocking operation keeps
them in the function that it posts to the blocking thread, a transfer in its handler slot. The
void overload of `async_try_blocking_with_ec` captures its I/O executor as it came, and not the
tracked copy. Every pending operation keeps both contexts at work exactly when no step relies on
the missing copy, and the handlers in the slots are not lost.
-/

namespace UsbAsio.AsyncWork

open Transition WorkQueue

variable {E κ τ R : Type*}

/-! ### Blocking operations -/

/-- The two overloads of `async_try_blocking_with_ec`; the result of `blocking_fn` decides. -/
inductive Overload where
  | value
  | void
  deriving DecidableEq

/-- Where the function posted to `blocking_op_executor` is. -/
inductive BlockingPc where
  | queued
  | running
  | posted   -- it has posted the completion handler, and is destroyed
  deriving DecidableEq

structure BlockingOp (E : Type*) where
  executor : E
  /-- The executor associated with the completion handler, if there is one. -/
  associated : Option E
  pc : BlockingPc
  /-- The executors in the captures of the posted function. -/
  captured : List E

/-- `asio::get_associated_executor(completion_handler, executor)`. -/
def getAssociatedExecutor (associated : Option E) (executor : E) : E := associated.getD executor

/-- The operation that `async_try_blocking_with_ec` initiates. -/
def asyncTryBlockingWithEc (X : Executors E κ) (overload : Overload) (executor : E)
    (associated : Option E) : BlockingOp E :=
  let trackedExecutor := X.prefer executor
  let completionExecutor := X.prefer (getAssociatedExecutor associated executor)
  let captured := match overload with
    | .value => [trackedExecutor, completionExecutor]
    | .void  => [executor, completionExecutor]
  ⟨executor, associated, .queued, captured⟩

/-! ### All operations -/

/-- The `executor_` of each transfer, and the executor associated with the completion handler of
each of its operations. -/
structure Setup (τ E : Type*) where
  executor : τ → E
  associated : τ → ℕ → Option E

/-- The executors in the `handler_impl` that `completion_handler_t{executor, handler}` makes. -/
def Setup.handlerImpl (X : Executors E κ) (setup : Setup τ E) (t : τ) (op : ℕ) : List E :=
  let executor := setup.executor t
  let trackedEx := X.prefer executor
  let trackedCompletionEx := X.prefer (getAssociatedExecutor (setup.associated t op) executor)
  [trackedEx, trackedCompletionEx]

/-- The blocking operations in the order of their initiations, and the transfers. -/
structure State (τ E R : Type*) where
  blocking : List (BlockingOp E) := []
  transfers : τ → Transfer.State R := fun _ => Transfer.init R

def init (τ E R : Type*) : State τ E R := {}

inductive Action (τ E R : Type*) where
  | asyncTryBlockingWithEc (overload : Overload) (executor : E) (associated : Option E)
  | invokeBlockingFn (i : ℕ)
  | postHandler (i : ℕ)
  | transfer (t : τ) (a : Transfer.Action R)

/-- The executor for blocking operations runs what is posted to it in any order; the threads and
the callbacks of the transfers take their own steps. -/
def step [DecidableEq τ] [Inhabited R] (X : Executors E κ) (s : State τ E R) :
    Action τ E R → Option (State τ E R)
  | .asyncTryBlockingWithEc overload executor associated =>
    let r := AsyncWork.asyncTryBlockingWithEc X overload executor associated
    some { s with blocking := s.blocking ++ [r] }
  | .invokeBlockingFn i =>
    match s.blocking[i]? with
    | none   => none
    | some r =>
      if r.pc = .queued then
        some { s with blocking := s.blocking.set i { r with pc := .running } }
      else none
  | .postHandler i =>
    match s.blocking[i]? with
    | none   => none
    | some r =>
      if r.pc = .running then
        some { s with blocking := s.blocking.set i { r with pc := .posted, captured := [] } }
      else none
  | .transfer t a =>
    match Transfer.step (s.transfers t) a with
    | none   => none
    | some u => some { s with transfers := Function.update s.transfers t u }

/-! ### The property and the condition -/

/-- The executors stored in an operation of a transfer, as long as its handler is in the slot. -/
def State.stored (X : Executors E κ) (setup : Setup τ E) (s : State τ E R) (t : τ) (op : ℕ) :
    List E :=
  if (s.transfers t).slot = some op then setup.handlerImpl X t op else []

/-- An operation that has been initiated and whose handler has not been posted: its I/O executor,
the associated executor of its handler, and the executors stored in it. -/
inductive State.Pending (X : Executors E κ) (setup : Setup τ E) (s : State τ E R) :
    E → E → List E → Prop
  | blocking (r : BlockingOp E) (hr : r ∈ s.blocking) (hpc : r.pc ≠ .posted) :
      Pending X setup s r.executor (getAssociatedExecutor r.associated r.executor) r.captured
  | transfer (t : τ) (op : ℕ) (hop : ((s.transfers t).ops op).Pending) :
      Pending X setup s (setup.executor t)
        (getAssociatedExecutor (setup.associated t op) (setup.executor t)) (s.stored X setup t op)

/-- The outstanding work that the operations are for a context. -/
def State.work [DecidableEq κ] [Fintype τ] (X : Executors E κ) (setup : Setup τ E)
    (s : State τ E R) (c : κ) : ℕ :=
  (s.blocking.map fun r => X.work r.captured c).sum +
    ∑ t, match (s.transfers t).slot with
      | none    => 0
      | some op => X.work (setup.handlerImpl X t op) c

/-- Every pending operation stores a tracked copy of its I/O executor and one of the associated
executor of its handler, and neither of their contexts is without work. -/
structure Guarded [DecidableEq κ] [Fintype τ] (X : Executors E κ) (setup : Setup τ E)
    (s : State τ E R) : Prop where
  stored : ∀ executor completion held, s.Pending X setup executor completion held →
    X.prefer executor ∈ held ∧ X.prefer completion ∈ held
  work : ∀ executor completion held, s.Pending X setup executor completion held →
    0 < s.work X setup (X.context executor) ∧ 0 < s.work X setup (X.context completion)

/-- The void overload is given a tracked executor, or one that differs from the associated
executor in tracking at most; a transfer stores and resets a handler only when the handler in its
slot has been posted. -/
def Careful (X : Executors E κ) (s : State τ E R) : Action τ E R → Prop
  | .asyncTryBlockingWithEc .void executor associated =>
    X.tracked executor = true ∨
      X.prefer (getAssociatedExecutor associated executor) = X.prefer executor
  | .transfer t a => Transfer.SlotSpent (s.transfers t) a
  | .asyncTryBlockingWithEc .value _ _ | .invokeBlockingFn _ | .postHandler _ => True

/-! ### The captures of a blocking operation -/

/-- Both tracked copies are captured. -/
def BlockingOp.Holds (X : Executors E κ) (r : BlockingOp E) : Prop :=
  X.prefer r.executor ∈ r.captured ∧
    X.prefer (getAssociatedExecutor r.associated r.executor) ∈ r.captured

lemma holds_value (X : Executors E κ) (executor : E) (associated : Option E) :
    (asyncTryBlockingWithEc X .value executor associated).Holds X := by
  constructor <;> simp [asyncTryBlockingWithEc]

/-- In the void overload, the captured executor or the copy for the handler has to stand in for
the copy that is missing. -/
lemma holds_void_iff (X : Executors E κ) (executor : E) (associated : Option E) :
    (asyncTryBlockingWithEc X .void executor associated).Holds X ↔ X.tracked executor = true ∨
      X.prefer (getAssociatedExecutor associated executor) = X.prefer executor := by
  rw [← X.prefer_eq_self_iff]
  simp [BlockingOp.Holds, asyncTryBlockingWithEc, eq_comm]

/-! ### The invariant -/

structure Inv (X : Executors E κ) (s : State τ E R) : Prop where
  holds : ∀ r ∈ s.blocking, r.pc ≠ .posted → r.Holds X
  wellFormed : ∀ t, Transfer.WellFormed (s.transfers t)
  inSlot : ∀ t, Transfer.PendingInSlot (s.transfers t)

lemma inv_init (X : Executors E κ) : Inv X (init τ E R) where
  holds := fun r hr => by simp [init] at hr
  wellFormed := fun _ => Transfer.wellFormed_init
  inSlot := fun _ => Transfer.pendingInSlot_init

section Guarded

variable [DecidableEq κ] [Fintype τ] {X : Executors E κ} {setup : Setup τ E} {s : State τ E R}

/-- What is captured counts. -/
lemma work_le_of_blocking {r : BlockingOp E} (hr : r ∈ s.blocking) (c : κ) :
    X.work r.captured c ≤ s.work X setup c := by
  have hle : X.work r.captured c ≤ (s.blocking.map fun r => X.work r.captured c).sum :=
    List.single_le_sum (fun _ _ => Nat.zero_le _) _ (List.mem_map_of_mem hr)
  exact hle.trans (Nat.le_add_right _ _)

/-- What is in a slot counts. -/
lemma work_le_of_slot {t : τ} {op : ℕ} (hslot : (s.transfers t).slot = some op) (c : κ) :
    X.work (setup.handlerImpl X t op) c ≤ s.work X setup c := by
  let f : τ → ℕ := fun t => match (s.transfers t).slot with
    | none    => 0
    | some op => X.work (setup.handlerImpl X t op) c
  have hf : f t = X.work (setup.handlerImpl X t op) c := by simp only [f, hslot]
  have hle : f t ≤ ∑ t, f t := Finset.single_le_sum (fun _ _ => Nat.zero_le _) (Finset.mem_univ t)
  rw [← hf]
  exact hle.trans (Nat.le_add_left _ _)

/-- The copies are stored, and are all counted. -/
lemma Inv.pending (h : Inv X s) {executor completion : E} {held : List E}
    (hp : s.Pending X setup executor completion held) :
    (X.prefer executor ∈ held ∧ X.prefer completion ∈ held) ∧
      ∀ c, X.work held c ≤ s.work X setup c := by
  cases hp with
  | blocking r hr hpc => exact ⟨h.holds r hr hpc, work_le_of_blocking hr⟩
  | transfer t op hop =>
    have hslot := (h.inSlot t).inSlot op hop
    rw [State.stored, if_pos hslot]
    refine ⟨?_, work_le_of_slot hslot⟩
    simp [Setup.handlerImpl]

lemma Inv.guarded (h : Inv X s) : Guarded X setup s := by
  constructor
  · intro executor completion held hp
    exact (h.pending hp).1
  · intro executor completion held hp
    obtain ⟨⟨hexecutor, hcompletion⟩, hle⟩ := h.pending hp
    exact ⟨(X.work_pos hexecutor).trans_le (hle _), (X.work_pos hcompletion).trans_le (hle _)⟩

end Guarded

/-! ### Steps -/

section Steps

variable [DecidableEq τ] [Inhabited R] {X : Executors E κ} {s t : State τ E R}

/-- What a step does to the blocking operations and to the transfers. -/
inductive Rule (X : Executors E κ) (s : State τ E R) : Action τ E R → State τ E R → Prop
  | asyncTryBlockingWithEc (overload : Overload) (executor : E) (associated : Option E) :
      Rule X s (.asyncTryBlockingWithEc overload executor associated)
        { s with blocking := s.blocking ++
            [AsyncWork.asyncTryBlockingWithEc X overload executor associated] }
  | invokeBlockingFn (i : ℕ) (r : BlockingOp E) (hr : s.blocking[i]? = some r)
      (hpc : r.pc = .queued) : Rule X s (.invokeBlockingFn i)
        { s with blocking := s.blocking.set i { r with pc := .running } }
  | postHandler (i : ℕ) (r : BlockingOp E) (hr : s.blocking[i]? = some r)
      (hpc : r.pc = .running) : Rule X s (.postHandler i)
        { s with blocking := s.blocking.set i { r with pc := .posted, captured := [] } }
  | transfer (k : τ) (a : Transfer.Action R) (u : Transfer.State R)
      (hu : Transfer.step (s.transfers k) a = some u) : Rule X s (.transfer k a)
        { s with transfers := Function.update s.transfers k u }

lemma Rule.of_step {a : Action τ E R} (ht : step X s a = some t) : Rule X s a t := by
  cases a with
  | asyncTryBlockingWithEc overload executor associated =>
    cases ht
    exact .asyncTryBlockingWithEc overload executor associated
  | invokeBlockingFn i =>
    simp only [step] at ht
    split at ht
    · cases ht
    · next r hr =>
      obtain ⟨hpc, rfl⟩ := Option.ite_some_none_eq_some.mp ht
      exact .invokeBlockingFn i r hr hpc
  | postHandler i =>
    simp only [step] at ht
    split at ht
    · cases ht
    · next r hr =>
      obtain ⟨hpc, rfl⟩ := Option.ite_some_none_eq_some.mp ht
      exact .postHandler i r hr hpc
  | transfer k a =>
    simp only [step] at ht
    split at ht
    · cases ht
    · next u hu =>
      cases ht
      exact .transfer k a u hu

omit [DecidableEq τ] [Inhabited R] in
/-- An operation moves on, and keeps its captures until it posts. -/
lemma Inv.setBlocking (h : Inv X s) (i : ℕ) {r : BlockingOp E} (hr : r.pc ≠ .posted → r.Holds X) :
    Inv X { s with blocking := s.blocking.set i r } := by
  refine ⟨?_, h.wellFormed, h.inSlot⟩
  intro r' hr' hpc
  rcases List.mem_or_eq_of_mem_set hr' with hold | rfl
  · exact h.holds r' hold hpc
  · exact hr hpc

lemma Inv.of_step {a : Action τ E R} (h : Inv X s) (hc : Careful X s a)
    (ht : step X s a = some t) : Inv X t := by
  -- the executors are captured by the call; a step keeps them until the handler is posted
  cases Rule.of_step ht with
  | asyncTryBlockingWithEc overload executor associated =>
    have hnew : (AsyncWork.asyncTryBlockingWithEc X overload executor associated).Holds X := by
      cases overload with
      | value => exact holds_value X executor associated
      | void => exact (holds_void_iff X executor associated).mpr hc
    refine ⟨?_, h.wellFormed, h.inSlot⟩
    intro r hr hpc
    rcases List.mem_append.mp hr with hold | hlast
    · exact h.holds r hold hpc
    · rw [List.mem_singleton.mp hlast]
      exact hnew
  | invokeBlockingFn i r hr hpc =>
    apply h.setBlocking
    intro _
    exact h.holds r (List.mem_of_getElem? hr) (by simp [hpc])
  | postHandler i r =>
    apply h.setBlocking
    intro hpc
    exact absurd rfl hpc
  | transfer k a u hu =>
    refine ⟨h.holds, ?_, ?_⟩
    · intro k'
      by_cases hk : k' = k
      · rw [hk]
        simpa using (h.wellFormed k).of_step hu
      · simpa [hk] using h.wellFormed k'
    · intro k'
      by_cases hk : k' = k
      · rw [hk]
        simpa using (h.inSlot k).of_step (h.wellFormed k) hc hu
      · simpa [hk] using h.inSlot k'

variable [DecidableEq κ] [Fintype τ] {setup : Setup τ E}

/-- A step that is not careful leaves an operation without one of its copies. -/
lemma Inv.not_guarded {a : Action τ E R} (h : Inv X s) (hc : ¬ Careful X s a)
    (ht : step X s a = some t) : ¬ Guarded X setup t := by
  intro hguarded
  cases Rule.of_step ht with
  | asyncTryBlockingWithEc overload executor associated =>
    cases overload with
    | value => exact hc trivial
    | void =>
      apply hc
      rw [Careful, ← holds_void_iff]
      refine hguarded.stored _ _ _ (.blocking _ ?_ ?_)
      · simp
      · simp [AsyncWork.asyncTryBlockingWithEc]
  | invokeBlockingFn | postHandler => exact hc trivial
  | transfer k a u hu =>
    obtain ⟨op, hop, hslot⟩ := (h.inSlot k).lost hc hu
    have hstored := hguarded.stored _ _ _ (.transfer k op (by simpa using hop))
    simp [State.stored, hslot] at hstored

/-! ### All runs -/

/-- In every state of a run, every pending operation keeps both its contexts at work, exactly
when all steps of the run are careful. -/
theorem guarded_iff_careful (X : Executors E κ) (setup : Setup τ E) (as : List (Action τ E R)) :
    Always (step X) (Guarded X setup) (init τ E R) as ↔
      Along (step X) (Careful X) (init τ E R) as :=
  always_iff_along (fun _ _ _ h hc ht => h.of_step hc ht)
    (fun _ _ _ h hc ht => h.not_guarded hc ht) (fun _ h => h.guarded) (inv_init X)

end Steps

/-- A void operation on an executor of context 0, with a handler bound to context 1: context 0
has no work while the operation waits in the queue. -/
theorem not_guarded_void : ¬ ∀ as : List (Action Empty (ℕ × Bool) ℕ),
    Always (step (plain ℕ)) (Guarded (plain ℕ) ⟨Empty.elim, Empty.elim⟩)
      (init Empty (ℕ × Bool) ℕ) as := by
  intro h
  let a : Action Empty (ℕ × Bool) ℕ := .asyncTryBlockingWithEc .void (0, false) (some (1, false))
  have hguarded := (h [a]).last rfl
  have hpos := (hguarded.work _ _ _ (.blocking _ (List.mem_singleton_self _) (by decide))).1
  exact absurd hpos (by decide)

end UsbAsio.AsyncWork
