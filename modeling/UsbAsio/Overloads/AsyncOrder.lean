import UsbAsio.Overloads.AsyncMembers

/-!
# Asynchronous members in order

The asynchronous operations on all objects of a service go through its one blocking thread. From
any number of threads, they have the effect of the members with an `error_code&`, called one after
the other in the order of the initiations.
-/

namespace UsbAsio.Overloads.Async

open Effects Transition WorkQueue

variable {δ ι : Type} [DecidableEq δ] [DecidableEq ι]

/-- An operation that has been initiated, and what it has posted to the blocking thread. -/
structure Initiated (δ ι : Type) where
  member : AsyncMember δ ι
  fn : BlockingFn δ ι

/-- The operations are numbered in the order of their posts. -/
structure World (δ ι : Type) where
  thread : BlockingThread.State
  machine : Machine (Objects δ ι)
  ops : List (Initiated δ ι)
  /-- The completion handlers that have been posted with their codes, latest first. -/
  posted : List (ℕ × ErrorCode)

def start (m : Machine (Objects δ ι)) : World δ ι := ⟨{}, m, [], []⟩

inductive Action (δ ι : Type) where
  | thread (a : BlockingThread.Action)
  /-- `async_try_blocking_with_ec` posts the function of the member. -/
  | initiate (member : AsyncMember δ ι)
  | run

/-- A step of the blocking thread; where it ends the function that it executes, the function has
run and posted the handler. -/
def run (w : World δ ι) : Option (World δ ι) :=
  match BlockingThread.step w.thread .run, w.thread.thread with
  | none, _                     => none
  | some t, some (.executing n) =>
    match w.ops[n]? with
    | none    => none
    | some op =>
      match (op.fn .clear).run w.machine with
      | .ok x m    => some { w with thread := t, machine := m, posted := (n, x.2) :: w.posted }
      | .error _ _ => none  -- `std::terminate`
  | some t, _                   => some { w with thread := t }

def step (w : World δ ι) : Action δ ι → Option (World δ ι)
  | .thread .post | .thread .run => none
  | .thread a                    =>
    (BlockingThread.step w.thread a).map fun t => { w with thread := t }
  | .initiate member             =>
    (BlockingThread.step w.thread .post).map fun t =>
      { w with thread := t, ops := w.ops ++ [⟨member, member.blockingFn w.machine.object⟩] }
  | .run                         => run w

def World.members (w : World δ ι) : List (AsyncMember δ ι) := w.ops.map Initiated.member

/-- The handlers posted so far are those of the first operations, in order, each posted once with
the code that the member with an `error_code&` returns when these are called one after the other;
libusb has been called as by these, and the objects are what they make of them. -/
structure Sequential (m₀ : Machine (Objects δ ι)) (w : World δ ι) : Prop where
  started : w.posted.length ≤ w.ops.length
  machine : w.machine = (callAll m₀ (w.members.take w.posted.length)).1
  posted : w.posted.reverse = (List.range w.posted.length).zip
    (callAll m₀ (w.members.take w.posted.length)).2

/-- The blocking thread enters `run()` when the constructor has taken the executor. -/
def EnterLast (w : World δ ι) : Action δ ι → Prop
  | .thread a   => BlockingThread.EnterLast w.thread a
  | .run        => BlockingThread.EnterLast w.thread .run
  | .initiate _ => True

instance (w : World δ ι) (a : Action δ ι) : Decidable (EnterLast w a) :=
  match a with
  | .thread a   => inferInstanceAs (Decidable (BlockingThread.EnterLast w.thread a))
  | .run        => inferInstanceAs (Decidable (BlockingThread.EnterLast w.thread .run))
  | .initiate _ => inferInstanceAs (Decidable True)

/-! ### What the steps do -/

inductive Rule (w : World δ ι) : Action δ ι → World δ ι → Prop where
  | thread (a : BlockingThread.Action) (t : BlockingThread.State)
      (ha : a ≠ .post ∧ a ≠ .run) (ht : BlockingThread.step w.thread a = some t) :
      Rule w (.thread a) { w with thread := t }
  | initiate (member : AsyncMember δ ι) (t : BlockingThread.State)
      (ht : BlockingThread.step w.thread .post = some t) : Rule w (.initiate member)
        { w with thread := t, ops := w.ops ++ [⟨member, member.blockingFn w.machine.object⟩] }
  | finish (n : ℕ) (op : Initiated δ ι) (ec : ErrorCode) (m : Machine (Objects δ ι))
      (t : BlockingThread.State) (hthread : w.thread.thread = some (.executing n))
      (ht : BlockingThread.step w.thread .run = some t) (hop : w.ops[n]? = some op)
      (hrun : (op.fn .clear).run w.machine = .ok ((), ec) m) :
      Rule w .run { w with thread := t, machine := m, posted := (n, ec) :: w.posted }
  | run (t : BlockingThread.State) (hthread : ∀ n, w.thread.thread ≠ some (.executing n))
      (ht : BlockingThread.step w.thread .run = some t) : Rule w .run { w with thread := t }

omit [DecidableEq δ] in
lemma Rule.of_step {w w' : World δ ι} {a : Action δ ι} (h : step w a = some w') :
    Rule w a w' := by
  cases a with
  | thread a =>
    cases a with
    | post | run => cases h
    | startThread | takeExecutor | blockingOpExecutor | dropExecutor =>
      obtain ⟨t, ht, rfl⟩ := Option.map_eq_some_iff.mp h
      refine .thread _ t ⟨?_, ?_⟩ ht <;> intro ha <;> cases ha
  | initiate member =>
    obtain ⟨t, ht, rfl⟩ := Option.map_eq_some_iff.mp h
    exact .initiate member t ht
  | run =>
    simp only [step, Async.run] at h
    split at h
    · cases h
    · next t n ht hthread =>
      split at h
      · cases h
      · next op hop =>
        split at h
        · next x m hrun =>
          cases h
          exact .finish n op x.2 m t hthread ht hop hrun
        · cases h
    · next t ht hnot =>
      cases h
      exact .run t hnot ht

/-! ### The invariant -/

/-- How many handlers have been posted when the thread is at this point. -/
def Posted (w : World δ ι) : Option (Runner ℕ) → Prop
  | some (.executing n) => n = w.posted.length ∧ w.thread.executed.length = n + 1
  | _                   => w.thread.executed.length = w.posted.length

structure Inv (m₀ : Machine (Objects δ ι)) (w : World δ ι) : Prop where
  inOrder : BlockingThread.InOrder w.thread
  count : w.ops.length = w.thread.nextFn
  unstarted : w.thread.ctor = .iocConstructed → w.thread.thread = none
  /-- What has been captured is still so. -/
  captured : ∀ op ∈ w.ops, ∀ m, SameHandles m₀.object m.object →
    (op.fn .clear).run m = (op.member.twin .clear).run m
  thread : Posted w w.thread.thread
  sequential : Sequential m₀ w

lemma inv_start (m₀ : Machine (Objects δ ι)) : Inv m₀ (start m₀) where
  inOrder := BlockingThread.inOrder_init
  count := rfl
  unstarted _ := rfl
  captured _ h := by simp [start] at h
  thread := rfl
  sequential := ⟨le_rfl, rfl, rfl⟩

variable {m₀ : Machine (Objects δ ι)} {w w' : World δ ι}

lemma Inv.sameHandles (h : Inv m₀ w) : SameHandles m₀.object w.machine.object := by
  rw [h.sequential.machine]
  exact sameHandles_callAll m₀ _

/-- Nothing is executed that has not been posted. -/
lemma executed_le {s : BlockingThread.State} (h : BlockingThread.InOrder s) :
    s.executed.length ≤ s.nextFn := by
  have hlength := congrArg List.length h
  rw [List.length_append, List.length_reverse, List.length_range] at hlength
  omega

lemma Sequential.withThread (h : Sequential m₀ w) (t : BlockingThread.State) :
    Sequential m₀ { w with thread := t } := ⟨h.started, h.machine, h.posted⟩

/-! ### Steps -/

/-- A step that neither posts nor executes. -/
lemma Inv.thread_step (h : Inv m₀ w) {a : BlockingThread.Action} {t : BlockingThread.State}
    (ha : a ≠ .post ∧ a ≠ .run) (ht : BlockingThread.step w.thread a = some t) :
    Inv m₀ { w with thread := t } := by
  have hinOrder := h.inOrder.of_step ht
  cases a with
  | post => exact absurd rfl ha.1
  | run => exact absurd rfl ha.2
  | startThread =>
    obtain ⟨hctor, rfl⟩ := Option.ite_some_none_eq_some.mp ht
    have hposted := h.thread
    rw [h.unstarted hctor] at hposted
    refine ⟨hinOrder, h.count, ?_, h.captured, hposted, h.sequential.withThread _⟩
    intro hctor'
    cases hctor'
  | takeExecutor =>
    obtain ⟨-, rfl⟩ := Option.ite_some_none_eq_some.mp ht
    refine ⟨hinOrder, h.count, ?_, h.captured, h.thread, h.sequential.withThread _⟩
    intro hctor
    cases hctor
  | blockingOpExecutor | dropExecutor =>
    obtain ⟨-, rfl⟩ := Option.ite_some_none_eq_some.mp ht
    exact ⟨hinOrder, h.count, h.unstarted, h.captured, h.thread, h.sequential.withThread _⟩

/-- An operation is initiated behind the others. -/
lemma Inv.initiate (h : Inv m₀ w) (member : AsyncMember δ ι) {t : BlockingThread.State}
    (ht : BlockingThread.step w.thread .post = some t) : Inv m₀
      { w with thread := t, ops := w.ops ++ [⟨member, member.blockingFn w.machine.object⟩] } := by
  have hinOrder := h.inOrder.of_step ht
  obtain ⟨-, rfl⟩ := Option.ite_some_none_eq_some.mp ht
  let op : Initiated δ ι := ⟨member, member.blockingFn w.machine.object⟩
  have htake : ((w.ops ++ [op]).map Initiated.member).take w.posted.length =
      w.members.take w.posted.length := by
    rw [List.map_append]
    apply List.take_append_of_le_length
    rw [List.length_map]
    exact h.sequential.started
  refine ⟨hinOrder, ?_, h.unstarted, ?_, h.thread, ?_⟩
  · rw [List.length_append, h.count]
    rfl
  · intro op hop m hm
    rcases List.mem_append.mp hop with hold | hnew
    · exact h.captured op hold m hm
    · rw [List.mem_singleton.mp hnew]
      apply AsyncMember.run_blockingFn
      intro d
      exact (hm d).trans (h.sameHandles d).symm
  · refine ⟨?_, ?_, ?_⟩
    · rw [List.length_append]
      exact h.sequential.started.trans (Nat.le_add_right _ _)
    · rw [World.members, htake]
      exact h.sequential.machine
    · rw [World.members, htake]
      exact h.sequential.posted

/-- The thread takes the next function from the queue, or moves without one. -/
lemma Inv.run (h : Inv m₀ w) {t : BlockingThread.State}
    (hthread : ∀ n, w.thread.thread ≠ some (.executing n))
    (ht : BlockingThread.step w.thread .run = some t) : Inv m₀ { w with thread := t } := by
  have hinOrder := h.inOrder.of_step ht
  obtain ⟨r, q, r', hr, hadv, rfl⟩ := BlockingThread.executed_run ht
  have hposted : w.thread.executed.length = w.posted.length := by
    have hposted := h.thread
    rw [hr] at hposted
    cases r with
    | executing n => exact absurd hr (hthread n)
    | entered | serving | returned => exact hposted
  refine ⟨hinOrder, h.count, ?_, h.captured, ?_, h.sequential.withThread _⟩
  · intro hctor
    rw [h.unstarted hctor] at hr
    cases hr
  · cases r with
    | executing n => exact absurd hr (hthread n)
    | returned => cases hadv
    | entered =>
      simp only [advance] at hadv
      split_ifs at hadv <;> cases hadv <;> exact hposted
    | serving =>
      simp only [advance] at hadv
      split_ifs at hadv
      · cases hadv
        exact hposted
      · cases hpending : w.thread.ioc.pending with
        | nil => simp [hpending] at hadv
        | cons fn rest =>
          rw [hpending] at hadv
          cases hadv
          obtain ⟨hfn, -⟩ := Ordered.next h.inOrder hpending
          exact ⟨hfn.trans hposted, congrArg Nat.succ hfn.symm⟩

/-- The function of the next operation runs as its twin would. -/
lemma Inv.finish (h : Inv m₀ w) {n : ℕ} {op : Initiated δ ι} {ec : ErrorCode}
    {m : Machine (Objects δ ι)} {t : BlockingThread.State}
    (hthread : w.thread.thread = some (.executing n))
    (ht : BlockingThread.step w.thread .run = some t) (hop : w.ops[n]? = some op)
    (hrun : (op.fn .clear).run w.machine = .ok ((), ec) m) :
    Inv m₀ { w with thread := t, machine := m, posted := (n, ec) :: w.posted } := by
  have hinOrder := h.inOrder.of_step ht
  obtain ⟨r, q, r', hr, hadv, rfl⟩ := BlockingThread.executed_run ht
  obtain rfl : .executing n = r := Option.some.inj (hthread.symm.trans hr)
  cases hadv
  have hposted := h.thread
  rw [hthread] at hposted
  obtain ⟨hn, hexecuted⟩ := hposted
  have hlt : n < w.ops.length := (List.getElem?_eq_some_iff.mp hop).1
  have hmember : w.members[n]? = some op.member := by
    rw [World.members, List.getElem?_map, hop]
    rfl
  have htake : w.members.take (n + 1) = w.members.take n ++ [op.member] := by
    rw [List.take_add_one, hmember]
    rfl
  -- the handles are those of the call, so the function does what its twin does now
  have htwin : (op.member.twin .clear).run (callAll m₀ (w.members.take n)).1 =
      .ok ((), ec) m := by
    rw [hn, ← h.sequential.machine,
      ← h.captured op (List.mem_of_getElem? hop) _ h.sameHandles, hrun]
  have hall := callAll_concat htwin
  have hcodes : (callAll m₀ (w.members.take n)).2.length = n := by
    rw [length_callAll, List.length_take, World.members, List.length_map]
    exact min_eq_left hlt.le
  refine ⟨hinOrder, h.count, ?_, h.captured, ?_, ?_⟩
  · intro hctor
    rw [h.unstarted hctor] at hthread
    cases hthread
  · show w.thread.executed.length = w.posted.length + 1
    rw [hexecuted, hn]
  · refine ⟨?_, ?_, ?_⟩
    · show w.posted.length + 1 ≤ w.ops.length
      omega
    · show m = (callAll m₀ (w.members.take (w.posted.length + 1))).1
      rw [← hn, htake, hall]
    · show ((n, ec) :: w.posted).reverse = (List.range (w.posted.length + 1)).zip
        (callAll m₀ (w.members.take (w.posted.length + 1))).2
      rw [← hn, htake, hall, List.reverse_cons, h.sequential.posted, ← hn, List.range_succ,
        List.zip_append]
      · rfl
      · rw [List.length_range, hcodes]

lemma inv_step {a : Action δ ι} (h : Inv m₀ w) (ht : step w a = some w') : Inv m₀ w' := by
  cases Rule.of_step ht with
  | thread a t ha hstep => exact h.thread_step ha hstep
  | initiate member t hstep => exact h.initiate member hstep
  | finish n op ec m t hthread hstep hop hrun => exact h.finish hthread hstep hop hrun
  | run t hthread hstep => exact h.run hthread hstep

/-! ### A thread with nothing to do -/

/-- What the thread executes comes to an end. -/
lemma Inv.run_of_executing (h : Inv m₀ w) {n : ℕ}
    (hthread : w.thread.thread = some (.executing n)) : ∃ w', step w .run = some w' := by
  have hposted := h.thread
  rw [hthread] at hposted
  have hlt : n < w.ops.length := by
    have hle := executed_le h.inOrder
    rw [hposted.2, ← h.count] at hle
    exact hle
  have hop : w.ops[n]? = some w.ops[n] := List.getElem?_eq_getElem hlt
  obtain ⟨ec, m, hrun, -⟩ := w.ops[n].member.run_twin .clear w.machine
  rw [← h.captured _ (List.getElem_mem hlt) _ h.sameHandles] at hrun
  simp [step, Async.run, BlockingThread.step, hthread, advance, hop, hrun]

/-- A thread that serves the queue and cannot move has emptied it. -/
lemma pending_of_stuck {s : BlockingThread.State} (h : BlockingThread.Inv s)
    (hstuck : BlockingThread.step s .run = none) : s.ioc.pending = [] := by
  cases h with
  | iocConstructed _ hioc => rw [hioc]
  | threadStarted _ hioc => rw [hioc]
  | finished _ r hthread _ hserves =>
    have hadv : advance s.ioc r = none := by
      cases hadv : advance s.ioc r with
      | none => rfl
      | some x => simp [BlockingThread.step, hthread, hadv] at hstuck
    cases r with
    | entered =>
      simp only [advance] at hadv
      split_ifs at hadv
    | serving =>
      rw [advance, if_neg (by simp [hserves.running])] at hadv
      cases hpending : s.ioc.pending with
      | nil => rfl
      | cons fn rest => simp [hpending] at hadv
    | executing => cases hadv
    | returned => exact absurd rfl hserves.present

lemma Inv.all_posted (h : Inv m₀ w) (hthread : BlockingThread.Inv w.thread)
    (hidle : step w .run = none) : w.posted.length = w.ops.length := by
  have hnot : ∀ n, w.thread.thread ≠ some (.executing n) := by
    intro n hn
    obtain ⟨w', hw'⟩ := h.run_of_executing hn
    rw [hidle] at hw'
    cases hw'
  have hstuck : BlockingThread.step w.thread .run = none := by
    cases ht : BlockingThread.step w.thread .run with
    | none => rfl
    | some t =>
      exfalso
      simp only [step, Async.run, ht] at hidle
      cases hidle
  have hposted : w.thread.executed.length = w.posted.length := by
    have hposted := h.thread
    cases hr : w.thread.thread with
    | none => rwa [hr] at hposted
    | some r =>
      rw [hr] at hposted
      cases r with
      | executing n => exact absurd hr (hnot n)
      | entered | serving | returned => exact hposted
  have hall := h.inOrder
  rw [BlockingThread.InOrder, Ordered, pending_of_stuck hthread hstuck, List.append_nil] at hall
  calc w.posted.length
    _ = w.thread.executed.reverse.length := by rw [List.length_reverse, hposted]
    _ = w.thread.nextFn := by rw [hall, List.length_range]
    _ = w.ops.length := h.count.symm

/-! ### All runs -/

/-- In every state of every run, what the asynchronous operations have done is what the members with
an `error_code&` do when they are called one after the other. When the thread has entered `run()`
after the constructor and has nothing left to do, all handlers have been posted. -/
theorem async_sequential (m₀ : Machine (Objects δ ι)) (as : List (Action δ ι)) :
    Always step (Sequential m₀) (start m₀) as ∧
      (Along step EnterLast (start m₀) as → ∀ w, exec step (start m₀) as = some w →
        step w .run = none → w.posted.length = w.ops.length) := by
  refine ⟨always_of_preserved (fun _ _ _ h ht => inv_step h ht) (fun _ h => h.sequential)
    (inv_start m₀) as, ?_⟩
  intro hlast w hw hidle
  have hinv : Inv m₀ w :=
    (always_of_preserved (fun _ _ _ h ht => inv_step h ht) (fun _ h => h) (inv_start m₀) as).last hw
  have hstep : ∀ (w : World δ ι) a w', BlockingThread.Inv w.thread → EnterLast w a →
      step w a = some w' → BlockingThread.Inv w'.thread := by
    intro w a w' h hc ht
    cases Rule.of_step ht with
    | thread a t _ hstep => exact BlockingThread.inv_step h hc hstep
    | initiate member t hstep => exact BlockingThread.inv_step (a := .post) h trivial hstep
    | finish _ _ _ _ t _ hstep => exact BlockingThread.inv_step (a := .run) h hc hstep
    | run t _ hstep => exact BlockingThread.inv_step (a := .run) h hc hstep
  have hthread : BlockingThread.Inv w.thread :=
    (always_of_invariant hstep (fun _ h => h) BlockingThread.inv_init hlast).last hw
  exact hinv.all_posted hthread hidle

/-- A reset of a closed device, which libusb refuses. -/
theorem async_sequential_reset :
    let answer : Answer := ⟨-4, ⟨1, by decide, by decide⟩, .zero, ⟨0⟩⟩
    let m₀ : Machine (Objects Unit Unit) :=
      .start (fun _ => answer) ⟨fun _ => ⟨none, []⟩, fun _ => ⟨none, 0⟩⟩
    let as : List (Action Unit Unit) := [.thread .startThread, .thread .takeExecutor, .run,
      .thread .blockingOpExecutor, .initiate (.resetDevice ()), .thread .dropExecutor, .run, .run]
    ∃ w, exec step (start m₀) as = some w ∧ w.posted.length = w.ops.length := by
  intro answer m₀ as
  obtain ⟨w, hw⟩ := Option.isSome_iff_exists.mp
    (show (exec step (start m₀) as).isSome = true by decide)
  have hnone : (exec step (start m₀) (as ++ [.run])).isNone = true := by decide
  have hidle : step w .run = none := by
    rw [exec_append hw, Option.isNone_iff_eq_none] at hnone
    cases hrun : step w .run with
    | none => rfl
    | some w' => simp [exec, hrun] at hnone
  exact ⟨w, hw, (async_sequential m₀ as).2 (by decide) w hw hidle⟩

end UsbAsio.Overloads.Async
