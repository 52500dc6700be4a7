import UsbAsio.Mutex.Basic
import UsbAsio.Service.Counter
import UsbAsio.Transition.Basic

/-!
# The event thread

`run_usb_event_thread` and the calls that it is to hear about: `notify_dev_opened` and
`notify_dev_closed`, from any number of threads, and `shutdown`. A step is one access to the
mutex, to the counter, to the stop flag or to the condition variable, so a run is an
interleaving of the threads.
-/

namespace UsbAsio.EventThread

/-- Where the event thread is. -/
inductive EventPc where
  | lock                        -- about to lock the mutex, first or after a wake-up
  | readOpen                    -- in the wait predicate, about to read `open_devices_`
  | readStop                    -- it was 0, about to read the stop flag
  | block                       -- so was the stop flag, about to unlock and block
  | blocked (notified : Bool)  -- on the condition variable
  | unlock                      -- the predicate holds
  | checkStop
  | handleEvents
  | stopped
  deriving DecidableEq

/-- Where a thread is in `notify_dev_opened`. -/
inductive OpenerPc where
  | idle
  | lock
  | fetchAdd
  | unlockFirst  -- the old value was 0, about to unlock and notify
  | notify
  | unlock       -- it was not
  deriving DecidableEq

/-- Where the thread that shuts the service down is. -/
inductive ShutdownPc where
  | notCalled
  | stopRequested  -- about to notify
  | returned
  deriving DecidableEq

/-- The threads that lock the mutex; those that open devices are named by `τ`. -/
inductive Thread (τ : Type*) where
  | event
  | opener (t : τ)
  deriving DecidableEq

structure State (τ : Type*) where
  owner : Option (Thread τ) := none
  openDevices : ℕ := 0
  event : EventPc := .lock
  opener : τ → OpenerPc := fun _ => .idle
  shutdown : ShutdownPc := .notCalled
  /-- Devices counted by `notify_dev_opened` and not given to `notify_dev_closed` yet. -/
  counted : ℕ := 0

def init (τ : Type*) : State τ := {}

variable {τ : Type*} [DecidableEq τ]

namespace State

variable (s : State τ)

/-- `stop_token.stop_requested()`. -/
def stopRequested : Bool := s.shutdown ≠ .notCalled

def setEvent (pc : EventPc) : State τ := { s with event := pc }

def setOpener (t : τ) (pc : OpenerPc) : State τ :=
  { s with opener := Function.update s.opener t pc }

def setOwner (owner : Option (Thread τ)) : State τ := { s with owner := owner }

/-- `usb_event_loop_cv_.notify_one()`: only a thread that is blocked hears it. -/
def notifyOne : State τ :=
  match s.event with
  | .blocked _ => s.setEvent (.blocked true)
  | _          => s

end State

inductive Action (τ : Type*) where
  | event
  | notifyDevOpened (t : τ)
  | notifyDevClosed
  | shutdown

/-- One step of `run_usb_event_thread`; a blocked thread may also wake up for no reason. -/
def stepEvent (s : State τ) : Option (State τ) :=
  match s.event with
  | .lock         =>
    if s.owner = none then some ((s.setOwner (some .event)).setEvent .readOpen) else none
  | .readOpen     => some (s.setEvent (if 0 < s.openDevices then .unlock else .readStop))
  | .readStop     => some (s.setEvent (if s.stopRequested then .unlock else .block))
  | .block        => some ((s.setOwner none).setEvent (.blocked false))
  | .blocked _    => some (s.setEvent .lock)
  | .unlock       => some ((s.setOwner none).setEvent .checkStop)
  | .checkStop    => some (s.setEvent (if s.stopRequested then .stopped else .handleEvents))
  | .handleEvents => some (s.setEvent .lock)
  | .stopped      => none

/-- One step of `notify_dev_opened` in thread `t`. Fewer than `2 ^ 64` devices are open at a
time. -/
def stepOpener (s : State τ) (t : τ) : Option (State τ) :=
  match s.opener t with
  | .idle        => some (s.setOpener t .lock)
  | .lock        =>
    if s.owner = none then some ((s.setOwner (some (.opener t))).setOpener t .fetchAdd) else none
  | .fetchAdd    =>
    if s.counted + 1 < 2 ^ 64 then
      let old := s.openDevices
      some ({ s with openDevices := incrementDevices old, counted := s.counted + 1 }.setOpener t
        (if old = 0 then .unlockFirst else .unlock))
    else none
  | .unlockFirst => some ((s.setOwner none).setOpener t .notify)
  | .notify      => some (s.notifyOne.setOpener t .idle)
  | .unlock      => some ((s.setOwner none).setOpener t .idle)

/-- One step of the system. `notify_dev_closed` is called for devices that have been counted. -/
def step (s : State τ) : Action τ → Option (State τ)
  | .event             => stepEvent s
  | .notifyDevOpened t => stepOpener s t
  | .notifyDevClosed   =>
    if 0 < s.counted then
      let n := decrementDevices s.openDevices
      some { s with openDevices := n, counted := s.counted - 1 }
    else none
  | .shutdown          =>
    match s.shutdown with
    | .notCalled     => some { s with shutdown := .stopRequested }
    | .stopRequested => some { s.notifyOne with shutdown := .returned }
    | .returned      => none

/-- What the steps do. -/
inductive Rule (s : State τ) : Action τ → State τ → Prop where
  | lock (hpc : s.event = .lock) (hfree : s.owner = none) :
      Rule s .event ((s.setOwner (some .event)).setEvent .readOpen)
  | somethingOpen (hpc : s.event = .readOpen) (hopen : 0 < s.openDevices) :
      Rule s .event (s.setEvent .unlock)
  | nothingOpen (hpc : s.event = .readOpen) (hopen : s.openDevices = 0) :
      Rule s .event (s.setEvent .readStop)
  | sawStop (hpc : s.event = .readStop) (hstop : s.shutdown ≠ .notCalled) :
      Rule s .event (s.setEvent .unlock)
  | sawNoStop (hpc : s.event = .readStop) (hstop : s.shutdown = .notCalled) :
      Rule s .event (s.setEvent .block)
  | block (hpc : s.event = .block) :
      Rule s .event ((s.setOwner none).setEvent (.blocked false))
  | wakeUp (notified : Bool) (hpc : s.event = .blocked notified) :
      Rule s .event (s.setEvent .lock)
  | unlock (hpc : s.event = .unlock) : Rule s .event ((s.setOwner none).setEvent .checkStop)
  | checkStop (pc : EventPc) (hpc : s.event = .checkStop)
      (hpc' : pc = .stopped ∨ pc = .handleEvents) : Rule s .event (s.setEvent pc)
  | handleEvents (hpc : s.event = .handleEvents) : Rule s .event (s.setEvent .lock)
  | openerCall (t : τ) (hpc : s.opener t = .idle) :
      Rule s (.notifyDevOpened t) (s.setOpener t .lock)
  | openerLock (t : τ) (hpc : s.opener t = .lock) (hfree : s.owner = none) :
      Rule s (.notifyDevOpened t) ((s.setOwner (some (.opener t))).setOpener t .fetchAdd)
  | fetchAdd (t : τ) (pc : OpenerPc) (hpc : s.opener t = .fetchAdd)
      (hlt : s.counted + 1 < 2 ^ 64)
      (hpc' : s.openDevices = 0 ∧ pc = .unlockFirst ∨ 0 < s.openDevices ∧ pc = .unlock) :
      Rule s (.notifyDevOpened t)
        ({ s with openDevices := incrementDevices s.openDevices
                  counted := s.counted + 1 }.setOpener t pc)
  | unlockFirst (t : τ) (hpc : s.opener t = .unlockFirst) :
      Rule s (.notifyDevOpened t) ((s.setOwner none).setOpener t .notify)
  | notify (t : τ) (hpc : s.opener t = .notify) :
      Rule s (.notifyDevOpened t) (s.notifyOne.setOpener t .idle)
  | openerUnlock (t : τ) (hpc : s.opener t = .unlock) :
      Rule s (.notifyDevOpened t) ((s.setOwner none).setOpener t .idle)
  | notifyDevClosed (hpos : 0 < s.counted) :
      Rule s .notifyDevClosed { s with openDevices := decrementDevices s.openDevices
                                       counted := s.counted - 1 }
  | requestStop (hpc : s.shutdown = .notCalled) :
      Rule s .shutdown { s with shutdown := .stopRequested }
  | shutdownNotify (hpc : s.shutdown = .stopRequested) :
      Rule s .shutdown { s.notifyOne with shutdown := .returned }

lemma Rule.of_stepEvent {s t : State τ} (h : stepEvent s = some t) : Rule s .event t := by
  cases hpc : s.event with
  | lock =>
    simp only [stepEvent, hpc] at h
    split_ifs at h with hfree
    cases h
    exact .lock hpc hfree
  | readOpen =>
    simp only [stepEvent, hpc] at h
    split_ifs at h with hopen <;> cases h
    · exact .somethingOpen hpc hopen
    · exact .nothingOpen hpc (Nat.eq_zero_of_not_pos hopen)
  | readStop =>
    simp only [stepEvent, hpc, State.stopRequested, decide_eq_true_eq] at h
    split_ifs at h with hstop <;> cases h
    · exact .sawStop hpc hstop
    · exact .sawNoStop hpc (not_not.mp hstop)
  | block =>
    simp only [stepEvent, hpc] at h
    cases h
    exact .block hpc
  | blocked notified =>
    simp only [stepEvent, hpc] at h
    cases h
    exact .wakeUp notified hpc
  | unlock =>
    simp only [stepEvent, hpc] at h
    cases h
    exact .unlock hpc
  | checkStop =>
    simp only [stepEvent, hpc] at h
    cases h
    refine .checkStop _ hpc ?_
    split_ifs
    · exact Or.inl rfl
    · exact Or.inr rfl
  | handleEvents =>
    simp only [stepEvent, hpc] at h
    cases h
    exact .handleEvents hpc
  | stopped => simp [stepEvent, hpc] at h

lemma Rule.of_stepOpener {s s' : State τ} {t : τ} (h : stepOpener s t = some s') :
    Rule s (.notifyDevOpened t) s' := by
  cases hpc : s.opener t with
  | idle =>
    simp only [stepOpener, hpc] at h
    cases h
    exact .openerCall t hpc
  | lock =>
    simp only [stepOpener, hpc] at h
    split_ifs at h with hfree
    cases h
    exact .openerLock t hpc hfree
  | fetchAdd =>
    simp only [stepOpener, hpc] at h
    split_ifs at h with hlt hold <;> cases h
    · exact .fetchAdd t _ hpc hlt (Or.inl ⟨hold, rfl⟩)
    · exact .fetchAdd t _ hpc hlt (Or.inr ⟨Nat.pos_of_ne_zero hold, rfl⟩)
  | unlockFirst =>
    simp only [stepOpener, hpc] at h
    cases h
    exact .unlockFirst t hpc
  | notify =>
    simp only [stepOpener, hpc] at h
    cases h
    exact .notify t hpc
  | unlock =>
    simp only [stepOpener, hpc] at h
    cases h
    exact .openerUnlock t hpc

/-- Every step is an instance of a rule. -/
lemma Rule.of_step {s t : State τ} {a : Action τ} (h : step s a = some t) : Rule s a t := by
  cases a with
  | event => exact Rule.of_stepEvent h
  | notifyDevOpened u => exact Rule.of_stepOpener h
  | notifyDevClosed =>
    simp only [step] at h
    split_ifs at h with hpos
    cases h
    exact .notifyDevClosed hpos
  | shutdown =>
    cases hpc : s.shutdown with
    | notCalled =>
      simp only [step, hpc] at h
      cases h
      exact .requestStop hpc
    | stopRequested =>
      simp only [step, hpc] at h
      cases h
      exact .shutdownNotify hpc
    | returned => simp [step, hpc] at h

/-! ### Notifications -/

/-- The event thread sleeps, and no notification is on its way to it. -/
def State.Asleep (s : State τ) : Prop := s.event = .blocked false

omit [DecidableEq τ] in
/-- A thread that hears a notification is about to wake up. -/
lemma State.notifyOne_event (s : State τ) :
    s.notifyOne.event = .blocked true ∨ s.notifyOne.event = s.event ∧ ¬ s.Asleep := by
  rw [State.notifyOne]
  split
  · exact Or.inl rfl
  · next hnot => exact Or.inr ⟨rfl, hnot false⟩

omit [DecidableEq τ] in
lemma State.not_asleep_notifyOne (s : State τ) : ¬ s.notifyOne.Asleep := by
  intro hasleep
  rcases s.notifyOne_event with h | ⟨h, hnot⟩
  · rw [State.Asleep, h] at hasleep
    cases hasleep
  · rw [State.Asleep, h] at hasleep
    exact hnot hasleep

omit [DecidableEq τ] in
/-- A notification touches nothing but a blocked thread. -/
lemma State.notifyOne_frame (s : State τ) :
    s.notifyOne.owner = s.owner ∧ s.notifyOne.openDevices = s.openDevices ∧
      s.notifyOne.counted = s.counted ∧ s.notifyOne.opener = s.opener ∧
      s.notifyOne.shutdown = s.shutdown := by
  unfold State.notifyOne
  split <;> exact ⟨rfl, rfl, rfl, rfl, rfl⟩

end UsbAsio.EventThread
