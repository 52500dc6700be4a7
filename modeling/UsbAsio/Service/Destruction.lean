import UsbAsio.Service.BlockingDrain
import UsbAsio.Service.Shutdown
import UsbAsio.Service.Wakeup
import UsbAsio.Transition.Progress

/-!
# Destroying the service

An execution context calls `shutdown` of its services before it destroys them. The destructor of
a `usb_service` is the one the compiler writes: the members go in the reverse of their order, and
the two threads are joined on the way, each before what it uses is destroyed. The blocking thread
executes all that has been posted first. The destructor returns unless the event thread has missed
the notification of `shutdown`.
-/

namespace UsbAsio.Destruction

open Transition WorkQueue

/-- What the destructor is about to do. -/
inductive DtorPc where
  | alive
  | dropExecutor        -- `blocking_op_executor_`
  | joinBlockingThread  -- `blocking_op_thread_`
  | destroyIoc          -- `blocking_op_ioc_`
  | joinEventThread     -- `usb_event_thread_`, whose stop has been requested
  | destroyEventLoop    -- the condition variable, the mutex and the counter
  | exit                -- `handle_`: `libusb_exit`
  | destroyed
  deriving DecidableEq

/-- The two threads with their callers, and the destructor. -/
structure State (τ : Type*) where
  events : EventThread.State τ := {}
  blocking : BlockingThread.State := {}
  pc : DtorPc := .alive

def init (τ : Type*) : State τ := {}

inductive Action (τ : Type*) where
  | events (a : EventThread.Action τ)
  | blocking (a : BlockingThread.Action)
  | destruct

variable {τ : Type*}

/-- The steps that use the service itself; the owner of a copy of `blocking_op_executor_` may go
on posting through it. -/
def Action.usesService : Action τ → Bool
  | .events .event | .blocking .run | .blocking .post | .blocking .dropExecutor | .destruct => false
  | .events (.notifyDevOpened _) | .events .notifyDevClosed | .events .shutdown
  | .blocking .startThread | .blocking .takeExecutor | .blocking .blockingOpExecutor => true

/-- The destructor of a service that has been constructed and shut down, and that no thread is
inside. -/
def destruct [Fintype τ] (s : State τ) : Option (State τ) :=
  match s.pc with
  | .alive              =>
    if s.events.shutdown = .returned ∧ s.blocking.ctor = .finished ∧
        ∀ t, s.events.opener t = .idle then
      some { s with pc := .dropExecutor }
    else none
  | .dropExecutor       =>
    some { s with blocking := { s.blocking with ioc := s.blocking.ioc.workFinished }
                  pc := .joinBlockingThread }
  | .joinBlockingThread =>
    if s.blocking.thread matches some .returned then some { s with pc := .destroyIoc } else none
  | .destroyIoc         =>
    some { s with blocking := { s.blocking with ioc := s.blocking.ioc.discard }
                  pc := .joinEventThread }
  | .joinEventThread    =>
    if s.events.event = .stopped then some { s with pc := .destroyEventLoop } else none
  | .destroyEventLoop   => some { s with pc := .exit }
  | .exit               => some { s with pc := .destroyed }
  | .destroyed          => none

variable [DecidableEq τ]

/-- Nobody uses the service once its destructor has begun. -/
def step [Fintype τ] (s : State τ) (a : Action τ) : Option (State τ) :=
  if a.usesService ∧ s.pc ≠ .alive then none
  else
    match a with
    | .events a   => (EventThread.step s.events a).map fun events => { s with events := events }
    | .blocking a =>
      (BlockingThread.step s.blocking a).map fun blocking => { s with blocking := blocking }
    | .destruct   => destruct s

/-! ### What the steps do -/

inductive Rule (s : State τ) : Action τ → State τ → Prop where
  | events (a : EventThread.Action τ) (e : EventThread.State τ)
      (hstep : EventThread.step s.events a = some e) (halive : a = .event ∨ s.pc = .alive) :
      Rule s (.events a) { s with events := e }
  | blocking (a : BlockingThread.Action) (b : BlockingThread.State)
      (hstep : BlockingThread.step s.blocking a = some b)
      (halive : a = .run ∨ a = .post ∨ a = .dropExecutor ∨ s.pc = .alive) :
      Rule s (.blocking a) { s with blocking := b }
  | begin (hpc : s.pc = .alive) (hshutdown : s.events.shutdown = .returned)
      (hctor : s.blocking.ctor = .finished) (hidle : ∀ t, s.events.opener t = .idle) :
      Rule s .destruct { s with pc := .dropExecutor }
  | dropExecutor (hpc : s.pc = .dropExecutor) : Rule s .destruct
      { s with blocking := { s.blocking with ioc := s.blocking.ioc.workFinished }
               pc := .joinBlockingThread }
  | joinBlockingThread (hpc : s.pc = .joinBlockingThread)
      (hthread : s.blocking.thread = some .returned) :
      Rule s .destruct { s with pc := .destroyIoc }
  | destroyIoc (hpc : s.pc = .destroyIoc) : Rule s .destruct
      { s with blocking := { s.blocking with ioc := s.blocking.ioc.discard }
               pc := .joinEventThread }
  | joinEventThread (hpc : s.pc = .joinEventThread) (hevent : s.events.event = .stopped) :
      Rule s .destruct { s with pc := .destroyEventLoop }
  | destroyEventLoop (hpc : s.pc = .destroyEventLoop) : Rule s .destruct { s with pc := .exit }
  | exit (hpc : s.pc = .exit) : Rule s .destruct { s with pc := .destroyed }

lemma Rule.of_destruct [Fintype τ] {s t : State τ} (h : destruct s = some t) :
    Rule s .destruct t := by
  cases hpc : s.pc with
  | alive =>
    simp only [destruct, hpc] at h
    obtain ⟨⟨hshutdown, hctor, hidle⟩, rfl⟩ := Option.ite_some_none_eq_some.mp h
    exact .begin hpc hshutdown hctor hidle
  | dropExecutor =>
    simp only [destruct, hpc] at h
    cases h
    exact .dropExecutor hpc
  | joinBlockingThread =>
    simp only [destruct, hpc] at h
    split at h
    · next hthread =>
      cases h
      exact .joinBlockingThread hpc hthread
    · simp at h
  | destroyIoc =>
    simp only [destruct, hpc] at h
    cases h
    exact .destroyIoc hpc
  | joinEventThread =>
    simp only [destruct, hpc] at h
    obtain ⟨hevent, rfl⟩ := Option.ite_some_none_eq_some.mp h
    exact .joinEventThread hpc hevent
  | destroyEventLoop =>
    simp only [destruct, hpc] at h
    cases h
    exact .destroyEventLoop hpc
  | exit =>
    simp only [destruct, hpc] at h
    cases h
    exact .exit hpc
  | destroyed => simp [destruct, hpc] at h

lemma Rule.of_step [Fintype τ] {s t : State τ} {a : Action τ} (h : step s a = some t) :
    Rule s a t := by
  simp only [step] at h
  split_ifs at h with huses
  have halive : a.usesService = true → s.pc = .alive := by
    intro hserv
    by_contra hpc
    exact huses ⟨hserv, hpc⟩
  cases a with
  | events a =>
    obtain ⟨e, he, rfl⟩ := Option.map_eq_some_iff.mp h
    refine .events a e he ?_
    cases a with
    | event => exact .inl rfl
    | notifyDevOpened | notifyDevClosed | shutdown => exact .inr (halive rfl)
  | blocking a =>
    obtain ⟨b, hb, rfl⟩ := Option.map_eq_some_iff.mp h
    refine .blocking a b hb ?_
    cases a with
    | run => exact .inl rfl
    | post => exact .inr (.inl rfl)
    | dropExecutor => exact .inr (.inr (.inl rfl))
    | startThread | takeExecutor | blockingOpExecutor => exact .inr (.inr (.inr (halive rfl)))
  | destruct => exact Rule.of_destruct h

/-! ### The property -/

/-- How many steps of the destructor are left. -/
def DtorPc.rank : DtorPc → ℕ
  | .alive              => 7
  | .dropExecutor       => 6
  | .joinBlockingThread => 5
  | .destroyIoc         => 4
  | .joinEventThread    => 3
  | .destroyEventLoop   => 2
  | .exit               => 1
  | .destroyed          => 0

/-- When a thread has been joined, nothing is left for it to do: every function that was posted has
been executed, in the order of the posts, and nobody can post another one; the event thread has
left the mutex and the condition variable, and makes no more calls of libusb. -/
structure Orderly (s : State τ) : Prop where
  blocking : s.pc.rank < 5 → s.blocking.thread = some .returned ∧ s.blocking.copies = 0 ∧
    s.blocking.executed.reverse = List.range s.blocking.nextFn
  events : s.pc.rank < 3 → s.events.event = .stopped ∧ s.events.owner = none

/-- The blocking thread enters `run()` when the constructor has taken the executor. -/
def EnterLast (s : State τ) : Action τ → Prop
  | .blocking a         => BlockingThread.EnterLast s.blocking a
  | .events _ | .destruct => True

/-- `shutdown` does not notify in the window of the event thread. -/
def NotifyHeard (s : State τ) : Action τ → Prop
  | .events a             => EventThread.NotifyHeard s.events a
  | .blocking _ | .destruct => True

instance (s : State τ) (a : Action τ) : Decidable (EnterLast s a) :=
  match a with
  | .blocking a => inferInstanceAs (Decidable (BlockingThread.EnterLast s.blocking a))
  | .events _ | .destruct => inferInstanceAs (Decidable True)

/-! ### The invariant -/

/-- How far the blocking thread and its queue are. -/
inductive Draining (s : State τ) : Prop
  | guarded (hpc : s.pc = .alive ∨ s.pc = .dropExecutor) (hinv : BlockingThread.Inv s.blocking)
  | joining (hpc : s.pc = .joinBlockingThread) (r : Runner ℕ)
      (hbusy : BlockingThread.Busy s.blocking r s.blocking.copies)
  | joined (hpc : s.pc.rank < 5) (hthread : s.blocking.thread = some .returned)
      (hcopies : s.blocking.copies = 0) (hpending : s.blocking.ioc.pending = [])

/-- The service has been constructed and shut down, and nobody is inside. -/
structure Abandoned (s : State τ) : Prop where
  shutdown : s.events.shutdown = .returned
  ctor : s.blocking.ctor = .finished
  idle : ∀ t, s.events.opener t = .idle

structure Inv (s : State τ) : Prop where
  events : EventThread.Inv s.events
  begun : s.pc ≠ .alive → Abandoned s
  draining : Draining s
  ordered : BlockingThread.InOrder s.blocking
  stopped : s.pc.rank < 3 → s.events.event = .stopped

omit [DecidableEq τ] in
lemma inv_init : Inv (init τ) where
  events := EventThread.inv_init
  begun h := absurd rfl h
  draining := .guarded (.inl rfl) BlockingThread.inv_init
  ordered := BlockingThread.inOrder_init
  stopped h := by simp [init, DtorPc.rank] at h

omit [DecidableEq τ] in
/-- Without an opener inside, the mutex belongs to the event thread or to nobody. -/
lemma owner_eq_none {e : EventThread.State τ} (h : EventThread.Inv e)
    (hidle : ∀ t, e.opener t = .idle) (hevent : e.event.inside = false) : e.owner = none := by
  cases howner : e.owner with
  | none => rfl
  | some x =>
    have hinside := (h.mutex x).mpr howner
    cases x with
    | event => simp [EventThread.State.inside, hevent] at hinside
    | opener t => simp [EventThread.State.inside, hidle t, EventThread.OpenerPc.inside] at hinside

omit [DecidableEq τ] in
lemma Inv.orderly {s : State τ} (h : Inv s) : Orderly s := by
  constructor
  · intro hpc
    cases h.draining with
    | guarded hpc' => rcases hpc' with hpc' | hpc' <;> simp [hpc', DtorPc.rank] at hpc
    | joining hpc' => simp [hpc', DtorPc.rank] at hpc
    | joined _ hthread hcopies hpending =>
      have hordered := h.ordered
      rw [BlockingThread.InOrder, Ordered, hpending, List.append_nil] at hordered
      exact ⟨hthread, hcopies, hordered⟩
  · intro hpc
    have halive : s.pc ≠ .alive := by
      intro halive
      simp [halive, DtorPc.rank] at hpc
    have hstopped := h.stopped hpc
    refine ⟨hstopped, owner_eq_none h.events (h.begun halive).idle ?_⟩
    rw [hstopped]
    rfl

/-! ### One step -/

/-- The event thread does not call the functions that it listens to. -/
lemma event_frame {e e' : EventThread.State τ} (h : EventThread.step e .event = some e') :
    e'.shutdown = e.shutdown ∧ e'.opener = e.opener := by
  cases EventThread.Rule.of_step h <;> exact ⟨rfl, rfl⟩

omit [DecidableEq τ] in
/-- The state of the blocking thread is all that this looks at. -/
lemma Draining.congr {s t : State τ} (h : Draining s) (hpc : t.pc = s.pc)
    (hblocking : t.blocking = s.blocking) : Draining t := by
  cases h with
  | guarded hpc' hinv => exact .guarded (hpc ▸ hpc') (hblocking ▸ hinv)
  | joining hpc' r hbusy => exact .joining (hpc ▸ hpc') r (hblocking ▸ hbusy)
  | joined hpc' hthread hcopies hpending =>
    refine .joined (hpc ▸ hpc') ?_ ?_ ?_ <;> rw [hblocking] <;> assumption

lemma Inv.events_step {s : State τ} (h : Inv s) {a : EventThread.Action τ}
    {e : EventThread.State τ} (hstep : EventThread.step s.events a = some e)
    (halive : a = .event ∨ s.pc = .alive) : Inv { s with events := e } := by
  refine ⟨EventThread.inv_step h.events hstep, ?_, h.draining.congr rfl rfl, h.ordered, ?_⟩
  · intro hpc
    obtain rfl := halive.resolve_right hpc
    obtain ⟨hshutdown, hopener⟩ := event_frame hstep
    have hbegun := h.begun hpc
    refine ⟨hshutdown.trans hbegun.shutdown, hbegun.ctor, fun t => ?_⟩
    show e.opener t = .idle
    rw [hopener]
    exact hbegun.idle t
  · intro hpc
    have hstopped := h.stopped hpc
    obtain rfl := halive.resolve_right (by
      intro halive
      simp [halive, DtorPc.rank] at hpc)
    simp [EventThread.step, EventThread.stepEvent, hstopped] at hstep

omit [DecidableEq τ] in
lemma Inv.blocking_step {s : State τ} (h : Inv s) {a : BlockingThread.Action}
    {b : BlockingThread.State} (hstep : BlockingThread.step s.blocking a = some b)
    (halive : a = .run ∨ a = .post ∨ a = .dropExecutor ∨ s.pc = .alive)
    (hlast : BlockingThread.EnterLast s.blocking a) : Inv { s with blocking := b } := by
  have hdraining : Draining { s with blocking := b } := by
    cases h.draining with
    | guarded hpc hinv => exact .guarded hpc (BlockingThread.inv_step hinv hlast hstep)
    | joining hpc r hbusy =>
      have ha : a = .run ∨ a = .post ∨ a = .dropExecutor := by
        rcases halive with ha | ha | ha | halive
        · exact .inl ha
        · exact .inr (.inl ha)
        · exact .inr (.inr ha)
        · simp [hpc] at halive
      obtain ⟨r', hbusy'⟩ := hbusy.of_step ha hstep
      exact .joining hpc r' hbusy'
    | joined hpc hthread hcopies hpending =>
      -- nothing of the blocking thread is left to move
      exfalso
      rcases halive with rfl | rfl | rfl | halive
      · simp [BlockingThread.step, hthread, advance_returned] at hstep
      · simp [BlockingThread.step, hcopies] at hstep
      · simp [BlockingThread.step, hcopies] at hstep
      · simp [halive, DtorPc.rank] at hpc
  refine ⟨h.events, ?_, hdraining, h.ordered.of_step hstep, h.stopped⟩
  intro hpc
  have hbegun := h.begun hpc
  refine ⟨hbegun.shutdown, ?_, hbegun.idle⟩
  rcases halive with rfl | rfl | rfl | halive
  · obtain ⟨-, -, -, -, -, rfl⟩ := BlockingThread.executed_run hstep
    exact hbegun.ctor
  · obtain ⟨-, rfl⟩ := Option.ite_some_none_eq_some.mp hstep
    exact hbegun.ctor
  · obtain ⟨-, rfl⟩ := Option.ite_some_none_eq_some.mp hstep
    exact hbegun.ctor
  · exact absurd halive hpc

omit [DecidableEq τ] in
/-- While the destructor has not joined the event thread, it need not have stopped. -/
lemma Inv.advance {s : State τ} (h : Inv s) {pc : DtorPc} {b : BlockingThread.State}
    (hbegun : Abandoned s) (hctor : b.ctor = s.blocking.ctor)
    (hdraining : Draining { s with blocking := b, pc := pc }) (hordered : BlockingThread.InOrder b)
    (hstopped : pc.rank < 3 → s.events.event = .stopped) :
    Inv { s with blocking := b, pc := pc } :=
  ⟨h.events, fun _ => ⟨hbegun.shutdown, hctor.trans hbegun.ctor, hbegun.idle⟩, hdraining, hordered,
    hstopped⟩

variable [Fintype τ]

lemma inv_step {s t : State τ} {a : Action τ} (h : Inv s) (hlast : EnterLast s a)
    (ht : step s a = some t) : Inv t := by
  -- the destructor only moves forwards: at each step all phases but one are behind it or ahead
  cases Rule.of_step ht with
  | events a e hstep halive => exact h.events_step hstep halive
  | blocking a b hstep halive => exact h.blocking_step hstep halive hlast
  | begin hpc hshutdown hctor hidle =>
    cases h.draining with
    | guarded _ hinv =>
      exact h.advance ⟨hshutdown, hctor, hidle⟩ rfl (.guarded (.inr rfl) hinv) h.ordered
        (by simp [DtorPc.rank])
    | joining hpc' => simp [hpc] at hpc'
    | joined hpc' => simp [hpc, DtorPc.rank] at hpc'
  | dropExecutor hpc =>
    have hbegun := h.begun (by simp [hpc])
    cases h.draining with
    | guarded _ hinv =>
      obtain ⟨r, hbusy⟩ := hinv.busy hbegun.ctor
      refine h.advance hbegun rfl (.joining rfl r ?_) h.ordered (by simp [DtorPc.rank])
      exact ⟨hbusy.ctor, hbusy.thread, hbusy.exact.workFinished⟩
    | joining hpc' => simp [hpc] at hpc'
    | joined hpc' => simp [hpc, DtorPc.rank] at hpc'
  | joinBlockingThread hpc hthread =>
    have hbegun := h.begun (by simp [hpc])
    cases h.draining with
    | guarded hpc' => simp [hpc] at hpc'
    | joining _ r hbusy =>
      obtain rfl : r = .returned := Option.some.inj (hbusy.thread.symm.trans hthread)
      obtain ⟨hcopies, hpending⟩ := hbusy.exact.empty
      exact h.advance hbegun rfl (.joined (by simp [DtorPc.rank]) hthread hcopies hpending)
        h.ordered (by simp [DtorPc.rank])
    | joined hpc' => simp [hpc, DtorPc.rank] at hpc'
  | destroyIoc hpc =>
    have hbegun := h.begun (by simp [hpc])
    cases h.draining with
    | guarded hpc' | joining hpc' => simp [hpc] at hpc'
    | joined _ hthread hcopies hpending =>
      refine h.advance hbegun rfl (.joined (by simp [DtorPc.rank]) hthread hcopies rfl) ?_
        (by simp [DtorPc.rank])
      exact Ordered.congr h.ordered hpending.symm
  | joinEventThread hpc hevent =>
    have hbegun := h.begun (by simp [hpc])
    cases h.draining with
    | guarded hpc' | joining hpc' => simp [hpc] at hpc'
    | joined _ hthread hcopies hpending =>
      exact h.advance hbegun rfl (.joined (by simp [DtorPc.rank]) hthread hcopies hpending)
        h.ordered fun _ => hevent
  | destroyEventLoop hpc | exit hpc =>
    have hbegun := h.begun (by simp [hpc])
    cases h.draining with
    | guarded hpc' | joining hpc' => simp [hpc] at hpc'
    | joined _ hthread hcopies hpending =>
      refine h.advance hbegun rfl (.joined (by simp [DtorPc.rank]) hthread hcopies hpending)
        h.ordered fun _ => ?_
      exact h.stopped (by simp [hpc, DtorPc.rank])

/-! ### The destructor ends -/

/-- The steps of the event thread between a stop request and its end, at most. -/
def eventRank : EventThread.EventPc → ℕ
  | .block        => 7
  | .blocked _    => 6
  | .handleEvents => 6
  | .lock         => 5
  | .readOpen     => 4
  | .readStop     => 3
  | .unlock       => 2
  | .checkStop    => 1
  | .stopped      => 0

/-- The steps that are left: of the destructor, of the two threads, and of those who hold a copy of
the executor. -/
def State.work (s : State τ) : ℕ :=
  s.pc.rank + eventRank s.events.event + s.blocking.steps + s.blocking.copies

/-- The steps of the service's own threads and of its destructor; the copies of the executor are
given back. -/
def Own (_ : State τ) : Action τ → Prop
  | .events a   => a = .event
  | .blocking a => a = .run ∨ a = .dropExecutor
  | .destruct   => True

omit [Fintype τ] in
/-- After a stop request the event thread goes one way. -/
lemma eventRank_step {e e' : EventThread.State τ} (hshutdown : e.shutdown = .returned)
    (h : EventThread.step e .event = some e') : eventRank e'.event < eventRank e.event := by
  cases EventThread.Rule.of_step h with
  | sawNoStop _ hstop => simp [hshutdown] at hstop
  | checkStop pc hpc hpc' =>
    rcases hpc' with rfl | rfl
    · simp [EventThread.State.setEvent, hpc, eventRank]
    · simp only [EventThread.step, EventThread.stepEvent, hpc, EventThread.State.stopRequested,
        hshutdown, Option.some.injEq] at h
      have hevent := congrArg EventThread.State.event h
      simp [EventThread.State.setEvent] at hevent
  | lock hpc | somethingOpen hpc | nothingOpen hpc | sawStop hpc | block hpc | wakeUp _ hpc
  | unlock hpc | handleEvents hpc =>
    simp [EventThread.State.setEvent, hpc, eventRank]

/-- What a step of one's own leaves to be done. -/
lemma own_step {s t : State τ} {a : Action τ} (h : Inv s) (hpc : s.pc ≠ .alive) (ha : Own s a)
    (ht : step s a = some t) : Inv t ∧ t.pc ≠ .alive ∧ t.work < s.work := by
  have hbegun := h.begun hpc
  have hlast : EnterLast s a := by
    cases a with
    | events | destruct => trivial
    | blocking a => rcases ha with rfl | rfl <;> simp [EnterLast, BlockingThread.EnterLast,
        hbegun.ctor]
  refine ⟨inv_step h hlast ht, ?_⟩
  -- a thread does a part of its own work, and each line of the destructor is one less to come
  cases Rule.of_step ht with
  | events a e hstep =>
    obtain rfl : a = .event := ha
    have hrank := eventRank_step hbegun.shutdown hstep
    refine ⟨hpc, ?_⟩
    simp only [State.work]
    omega
  | blocking a b hstep =>
    refine ⟨hpc, ?_⟩
    rcases ha with rfl | rfl
    · have hsteps := BlockingThread.steps_run hstep
      have hcopies : b.copies = s.blocking.copies := by
        obtain ⟨-, -, -, -, -, rfl⟩ := BlockingThread.executed_run hstep
        rfl
      simp only [State.work]
      omega
    · obtain ⟨hpos, rfl⟩ := Option.ite_some_none_eq_some.mp hstep
      simp only [State.work, BlockingThread.State.steps, steps_workFinished]
      omega
  | begin hpc' => exact absurd hpc' hpc
  | dropExecutor hpc' =>
    simp [State.work, hpc', DtorPc.rank, BlockingThread.State.steps]
  | destroyIoc hpc' =>
    have hsteps := BlockingThread.steps_le_of_ioc (steps_discard s.blocking.ioc)
    refine ⟨by simp, ?_⟩
    simp only [State.work, hpc', DtorPc.rank]
    omega
  | joinBlockingThread hpc' | joinEventThread hpc' | destroyEventLoop hpc' | exit hpc' =>
    simp [State.work, hpc', DtorPc.rank]

/-- Someone can move: no thread has to be woken for no reason. -/
def Moves (s : State τ) : Prop :=
  ∃ a t, Own s a ∧ (a = .events .event → ¬ s.events.Asleep) ∧ step s a = some t

lemma moves_of_destruct {s : State τ} (h : destruct s ≠ none) : Moves s := by
  obtain ⟨t, ht⟩ := Option.ne_none_iff_exists'.mp h
  refine ⟨.destruct, t, trivial, ?_, ?_⟩
  · intro ha
    cases ha
  · simp [step, Action.usesService, ht]

/-- The event thread is only ever held up by its sleep. -/
lemma moves_of_event {s : State τ} (h : Inv s) (hidle : ∀ t, s.events.opener t = .idle)
    (hstopped : s.events.event ≠ .stopped) (hasleep : ¬ s.events.Asleep) : Moves s := by
  have hsome : ∃ e, EventThread.step s.events .event = some e := by
    cases hevent : s.events.event with
    | lock =>
      have howner : s.events.owner = none := owner_eq_none h.events hidle (by rw [hevent]; rfl)
      simp [EventThread.step, EventThread.stepEvent, hevent, howner]
    | stopped => exact absurd hevent hstopped
    | readOpen | readStop | block | blocked | unlock | checkStop | handleEvents =>
      simp [EventThread.step, EventThread.stepEvent, hevent]
  obtain ⟨e, he⟩ := hsome
  refine ⟨.events .event, { s with events := e }, rfl, fun _ => hasleep, ?_⟩
  simp [step, Action.usesService, he]

/-- The destructor waits for the blocking thread only as long as somebody can move. -/
lemma moves_of_busy {s : State τ} {r : Runner ℕ} (hpc : s.pc = .joinBlockingThread)
    (h : BlockingThread.Busy s.blocking r s.blocking.copies) : Moves s := by
  cases hrun : BlockingThread.step s.blocking .run with
  | some b =>
    refine ⟨.blocking .run, { s with blocking := b }, .inl rfl, ?_, ?_⟩
    · intro ha
      cases ha
    · simp [step, Action.usesService, hrun]
  | none =>
    rcases h.stuck hrun with rfl | hcopies
    · apply moves_of_destruct
      simp [destruct, hpc, h.thread]
    · obtain ⟨b, hdrop⟩ : ∃ b, BlockingThread.step s.blocking .dropExecutor = some b :=
        ⟨_, if_pos hcopies⟩
      refine ⟨.blocking .dropExecutor, { s with blocking := b }, .inr rfl, ?_, ?_⟩
      · intro ha
        cases ha
      · simp [step, Action.usesService, hdrop]

/-- The only place where the destructor can get stuck. -/
lemma Inv.moves {s : State τ} (h : Inv s) (hpc : s.pc ≠ .alive) :
    s.pc = .destroyed ∨ Moves s ∨ s.pc = .joinEventThread ∧ s.events.Missed := by
  have hbegun := h.begun hpc
  cases hs : s.pc with
  | alive => exact absurd hs hpc
  | destroyed => exact .inl rfl
  | dropExecutor | destroyIoc | destroyEventLoop | exit =>
    refine .inr (.inl (moves_of_destruct ?_))
    simp [destruct, hs]
  | joinBlockingThread =>
    cases h.draining with
    | guarded hpc' => simp [hs] at hpc'
    | joining _ r hbusy => exact .inr (.inl (moves_of_busy hs hbusy))
    | joined hpc' => simp [hs, DtorPc.rank] at hpc'
  | joinEventThread =>
    right
    by_cases hstopped : s.events.event = .stopped
    · left
      apply moves_of_destruct
      simp [destruct, hs, hstopped]
    · by_cases hasleep : s.events.Asleep
      · exact .inr ⟨rfl, hbegun.shutdown, hasleep⟩
      · exact .inl (moves_of_event h hbegun.idle hstopped hasleep)

/-- A notification that is heard stays heard, whatever the other threads do. -/
lemma heard_step {s t : State τ} {a : Action τ} (h : s.events.Heard) (hheard : NotifyHeard s a)
    (ht : step s a = some t) : t.events.Heard := by
  cases Rule.of_step ht with
  | events a e hstep => exact EventThread.heard_step h hheard hstep
  | blocking | begin | dropExecutor | joinBlockingThread | destroyIoc | joinEventThread
  | destroyEventLoop | exit => exact h

/-! ### All runs -/

/-- When the blocking thread has entered `run()` after the constructor, the destructor destroys
nothing that a thread still uses, and discards no function. -/
theorem orderly_of_enterLast (as : List (Action τ)) (hlast : Along step EnterLast (init τ) as) :
    Always step Orderly (init τ) as :=
  always_of_invariant (fun _ _ _ h hc ht => inv_step h hc ht) (fun _ h => h.orderly) inv_init hlast

/-- A function is posted before the destructor begins, and executed while it waits. -/
theorem orderly_one_function :
    let as : List (Action Unit) := [.blocking .startThread, .blocking .takeExecutor,
      .blocking .run, .blocking .blockingOpExecutor, .blocking .post, .blocking .dropExecutor,
      .events .shutdown, .events .shutdown, .destruct, .destruct, .blocking .run, .blocking .run,
      .blocking .run, .destruct, .destruct, .events .event, .events .event, .events .event,
      .events .event, .events .event, .destruct, .destruct, .destruct]
    (exec step (init Unit) as).isSome ∧ Always step Orderly (init Unit) as :=
  ⟨by decide, orderly_of_enterLast _ (by decide)⟩

/-- A destructor that has begun ends after finitely many steps, in whatever order the threads take
them, or it waits for an event thread that has missed the notification of `shutdown`. -/
theorem destructor_ends {s t : State τ} (as bs : List (Action τ))
    (hlast : Along step EnterLast (init τ) as) (hs : exec step (init τ) as = some s)
    (hpc : s.pc ≠ .alive) (hown : Along step Own s bs) (ht : exec step s bs = some t) :
    bs.length ≤ s.work ∧
      (t.pc = .destroyed ∨ Moves t ∨ t.pc = .joinEventThread ∧ t.events.Missed) ∧
      (Along step NotifyHeard (init τ) as → ¬ t.events.Missed) := by
  have hinv : Inv s := by
    have hall := always_of_invariant (fun _ _ _ h hc ht => inv_step h hc ht) (fun _ h => h)
      inv_init hlast
    exact hall.last hs
  have hless : ∀ (s : State τ) a t, Inv s ∧ s.pc ≠ .alive → Own s a → step s a = some t →
      (Inv t ∧ t.pc ≠ .alive) ∧ t.work < s.work := by
    intro s a t h ha ht
    obtain ⟨hinv', hpc', hwork⟩ := own_step h.1 h.2 ha ht
    exact ⟨⟨hinv', hpc'⟩, hwork⟩
  obtain ⟨⟨hinvt, hpct⟩, hlength⟩ := length_le_measure hless ⟨hinv, hpc⟩ hown ht
  refine ⟨hlength, hinvt.moves hpct, fun hheard => ?_⟩
  have hstep : ∀ (s : State τ) a t, s.events.Heard → NotifyHeard s a → step s a = some t →
      t.events.Heard := fun _ _ _ h hc ht => heard_step h hc ht
  -- the destructor's own steps do not call `shutdown`, so its notification stays heard
  have hreached : s.events.Heard :=
    (always_of_invariant hstep (fun _ h => h) EventThread.heard_init hheard).last hs
  have hown' : Along step NotifyHeard s bs := by
    refine hown.imp fun s a ha => ?_
    cases a with
    | events a =>
      obtain rfl : a = .event := ha
      trivial
    | blocking | destruct => trivial
  exact ((always_of_invariant hstep (fun _ h => h) hreached hown').last ht).not_missed

/-- The destructor has begun, and the blocking thread has not entered `run()` yet. -/
theorem destructor_ends_late_thread : ∃ s t : State Unit,
    exec step (init Unit) [.blocking .startThread, .blocking .takeExecutor, .events .shutdown,
      .events .shutdown, .destruct] = some s ∧
    exec step s [.destruct, .blocking .run] = some t ∧
    (t.pc = .destroyed ∨ Moves t ∨ t.pc = .joinEventThread ∧ t.events.Missed) := by
  obtain ⟨s, hs⟩ := Option.isSome_iff_exists.mp (show (exec step (init Unit)
    [.blocking .startThread, .blocking .takeExecutor, .events .shutdown, .events .shutdown,
      .destruct]).isSome = true by decide)
  obtain ⟨t, ht⟩ := Option.isSome_iff_exists.mp (show (exec step (init Unit)
    [.blocking .startThread, .blocking .takeExecutor, .events .shutdown, .events .shutdown,
      .destruct, .destruct, .blocking .run]).isSome = true by decide)
  have hbegun : (exec step (init Unit) [.blocking .startThread, .blocking .takeExecutor,
      .events .shutdown, .events .shutdown, .destruct]).map State.pc = some .dropExecutor := by
    decide
  have hpc : s.pc = .dropExecutor := by simpa [hs] using hbegun
  have hrest : exec step s [.destruct, .blocking .run] = some t := by
    rw [← exec_append hs]
    exact ht
  have hown : Along step Own s [.destruct, .blocking .run] := by
    refine along_cons_iff.mpr fun u _ => ⟨trivial, ?_⟩
    exact along_cons_iff.mpr fun u' _ => ⟨.inl rfl, trivial⟩
  exact ⟨s, t, hs, hrest,
    (destructor_ends _ _ (by decide) hs (by simp [hpc]) hown hrest).2.1⟩

end UsbAsio.Destruction
