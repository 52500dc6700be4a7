import UsbAsio.Service.EventThread

/-!
# Opening a device wakes the event thread

Only the opener that counts the first device notifies, and devices are uncounted without the
mutex. Still the event thread does not sleep through an open device: it goes to sleep on a
counter that is 0, the counter leaves 0 only while the mutex is held, and whoever makes it leave
0 has its notification still to come.
-/

namespace UsbAsio.EventThread

open Transition Mutex

/-! ### Who is inside the mutex -/

def EventPc.inside : EventPc → Bool
  | .readOpen | .readStop | .block | .unlock => true
  | .lock | .blocked _ | .checkStop | .handleEvents | .stopped => false

def OpenerPc.inside : OpenerPc → Bool
  | .fetchAdd | .unlockFirst | .unlock => true
  | .idle | .lock | .notify => false

/-- The thread is at a statement that the mutex guards. -/
def State.inside {τ : Type*} (s : State τ) : Thread τ → Bool
  | .event    => s.event.inside
  | .opener t => (s.opener t).inside

variable {τ : Type*} [DecidableEq τ]

lemma State.inside_setEvent (s : State τ) (pc : EventPc) :
    (s.setEvent pc).inside = Function.update s.inside .event pc.inside := by
  funext x
  cases x <;> simp [State.inside, State.setEvent]

lemma State.inside_setOpener (s : State τ) (t : τ) (pc : OpenerPc) :
    (s.setOpener t pc).inside = Function.update s.inside (.opener t) pc.inside := by
  funext x
  cases x with
  | event => simp [State.inside, State.setOpener]
  | opener u =>
    by_cases hu : u = t
    · simp [State.inside, State.setOpener, hu]
    · simp [State.inside, State.setOpener, hu]

omit [DecidableEq τ] in
lemma agrees_congr {s t : State τ} (h : Agrees s.owner s.inside) (howner : t.owner = s.owner)
    (hevent : t.event.inside = s.event.inside) (hopener : t.opener = s.opener) :
    Agrees t.owner t.inside := by
  have hinside : t.inside = s.inside := by
    funext x
    cases x with
    | event => exact hevent
    | opener u => simp only [State.inside, hopener]
  rw [howner, hinside]
  exact h

omit [DecidableEq τ] in
/-- A thread that is blocked stays outside. -/
lemma State.inside_notifyOne (s : State τ) : s.notifyOne.event.inside = s.event.inside := by
  unfold State.notifyOne
  split
  · next b hb =>
    rw [hb]
    rfl
  · rfl

/-- A step keeps the owner of the mutex and the thread inside the same. -/
lemma agrees_step {s t : State τ} {a : Action τ} (h : Agrees s.owner s.inside)
    (ht : step s a = some t) : Agrees t.owner t.inside := by
  -- one thread moves at a step: it takes the mutex, gives it back, or leaves it alone
  cases Rule.of_step ht with
  | lock hpc hfree =>
    rw [State.inside_setEvent]
    rw [hfree] at h
    exact h.lock _
  | block hpc | unlock hpc =>
    rw [State.inside_setEvent]
    exact h.unlock (by simp [State.inside, hpc, EventPc.inside])
  | somethingOpen hpc | nothingOpen hpc | sawStop hpc | sawNoStop hpc | wakeUp _ hpc
  | handleEvents hpc =>
    rw [State.inside_setEvent]
    exact h.stay (by simp [State.inside, hpc, EventPc.inside])
  | checkStop pc hpc hpc' =>
    rw [State.inside_setEvent]
    rcases hpc' with rfl | rfl <;> exact h.stay (by simp [State.inside, hpc, EventPc.inside])
  | openerLock u hpc hfree =>
    rw [State.inside_setOpener]
    rw [hfree] at h
    exact h.lock _
  | unlockFirst u hpc | openerUnlock u hpc =>
    rw [State.inside_setOpener]
    exact h.unlock (by simp [State.inside, hpc, OpenerPc.inside])
  | openerCall u hpc =>
    rw [State.inside_setOpener]
    exact h.stay (by simp [State.inside, hpc, OpenerPc.inside])
  | fetchAdd u pc hpc _ hpc' =>
    rw [State.inside_setOpener]
    rcases hpc' with ⟨-, rfl⟩ | ⟨-, rfl⟩ <;>
      exact h.stay (by simp [State.inside, hpc, OpenerPc.inside])
  | notify u hpc =>
    obtain ⟨howner, -, -, hopener, -⟩ := s.notifyOne_frame
    have h' : Agrees s.notifyOne.owner s.notifyOne.inside :=
      agrees_congr h howner s.inside_notifyOne hopener
    rw [State.inside_setOpener]
    exact h'.stay (by simp [State.inside, hopener, hpc, OpenerPc.inside])
  | notifyDevClosed | requestStop => exact agrees_congr h rfl rfl rfl
  | shutdownNotify hpc =>
    obtain ⟨howner, -, -, hopener, -⟩ := s.notifyOne_frame
    exact agrees_congr h howner s.inside_notifyOne hopener

/-! ### The property and the invariant -/

/-- Thread `t` saw the old value 0, and is between its `fetch_add` and its `notify_one`. -/
def State.Notifying (s : State τ) (t : τ) : Prop :=
  s.opener t = .unlockFirst ∨ s.opener t = .notify

/-- While a device is open the event thread sleeps only if a notification is still to come, and
not at all once no opener is inside `notify_dev_opened`. -/
structure Woken (s : State τ) : Prop where
  notifying : 0 < s.openDevices → s.Asleep → ∃ t, s.Notifying t
  awake : (∀ t, s.opener t = .idle) → 0 < s.openDevices → ¬ s.Asleep

structure Inv (s : State τ) : Prop where
  mutex : Agrees s.owner s.inside
  counted : s.openDevices = s.counted
  bound : s.counted < 2 ^ 64
  /-- The thread is about to fall asleep on an empty counter. -/
  empty : s.event = .readStop ∨ s.event = .block → s.openDevices = 0
  notifying : 0 < s.openDevices → s.Asleep → ∃ t, s.Notifying t

omit [DecidableEq τ] in
lemma inv_init : Inv (init τ) where
  mutex := fun x => by cases x <;> simp [init, State.inside, EventPc.inside, OpenerPc.inside]
  counted := rfl
  bound := Nat.two_pow_pos 64
  empty := fun h => by simp [init] at h
  notifying := fun h => by simp [init] at h

omit [DecidableEq τ] in
lemma Inv.woken {s : State τ} (h : Inv s) : Woken s := by
  refine ⟨h.notifying, ?_⟩
  intro hidle hopen hasleep
  obtain ⟨t, ht⟩ := h.notifying hopen hasleep
  rcases ht with ht | ht <;> simp [hidle t] at ht

/-! ### One step -/

omit [DecidableEq τ] in
lemma State.Notifying.congr {s t : State τ} {v : τ} (h : s.Notifying v)
    (hopener : t.opener v = s.opener v) : t.Notifying v := by
  unfold State.Notifying at *
  rwa [hopener]

/-- A step of thread `u` leaves another notifier alone. -/
lemma State.Notifying.of_update {s t : State τ} {u v : τ} {pc : OpenerPc} (h : s.Notifying v)
    (hu : ¬ s.Notifying u) (hopener : t.opener = Function.update s.opener u pc) :
    t.Notifying v := by
  have hne : v ≠ u := by
    rintro rfl
    exact hu h
  exact h.congr (by rw [hopener, Function.update_of_ne hne])

/-- The counter counts the devices. -/
lemma Inv.counted_step {s t : State τ} {a : Action τ} (h : Inv s) (ht : step s a = some t) :
    t.openDevices = t.counted ∧ t.counted < 2 ^ 64 := by
  cases Rule.of_step ht with
  | fetchAdd u pc _ hlt =>
    refine ⟨?_, hlt⟩
    show incrementDevices s.openDevices = s.counted + 1
    rw [h.counted, incrementDevices_of_lt hlt]
  | notifyDevClosed hpos =>
    have hbound := h.bound
    obtain ⟨n, hn⟩ := Nat.exists_eq_add_of_le' hpos
    refine ⟨?_, (Nat.sub_le _ _).trans_lt hbound⟩
    show decrementDevices s.openDevices = s.counted - 1
    rw [h.counted, hn, Nat.add_sub_cancel]
    exact decrementDevices_succ (hn ▸ hbound)
  | notify | shutdownNotify =>
    obtain ⟨-, hopen, hcounted, -⟩ := s.notifyOne_frame
    exact ⟨hopen.trans (h.counted.trans hcounted.symm), hcounted.symm ▸ h.bound⟩
  | lock | somethingOpen | nothingOpen | sawStop | sawNoStop | block | wakeUp | unlock | checkStop
  | handleEvents | openerCall | openerLock | unlockFirst | openerUnlock | requestStop =>
    exact ⟨h.counted, h.bound⟩

/-- The counter leaves 0 only while the event thread is outside. -/
lemma Inv.empty_step {s t : State τ} {a : Action τ} (h : Inv s) (ht : step s a = some t)
    (hevent : t.event = .readStop ∨ t.event = .block) : t.openDevices = 0 := by
  cases Rule.of_step ht with
  | nothingOpen _ hopen => exact hopen
  | sawNoStop hpc => exact h.empty (Or.inl hpc)
  | lock | somethingOpen | sawStop | block | wakeUp | unlock | handleEvents =>
    simp [State.setEvent] at hevent
  | checkStop pc _ hpc' =>
    rcases hpc' with rfl | rfl <;> simp [State.setEvent] at hevent
  | openerCall | openerLock | unlockFirst | openerUnlock | requestStop => exact h.empty hevent
  | fetchAdd u pc hpc =>
    -- the opener and the event thread would both be inside
    have hin : s.inside .event = true := by
      rcases hevent with hevent | hevent <;>
        simp [State.inside, show s.event = _ from hevent, EventPc.inside]
    have hin' : s.inside (.opener u) = true := by simp [State.inside, hpc, OpenerPc.inside]
    have hsame := h.mutex.exclusive hin hin'
    cases hsame
  | notify | shutdownNotify =>
    have hevent' : s.event = .readStop ∨ s.event = .block := by
      rcases s.notifyOne_event with he | ⟨he, -⟩
      · simp [State.setOpener, he] at hevent
      · simpa [State.setOpener, he] using hevent
    obtain ⟨-, hopen, -⟩ := s.notifyOne_frame
    exact hopen.trans (h.empty hevent')
  | notifyDevClosed hpos =>
    have hempty := h.empty hevent
    rw [h.counted] at hempty
    omega

/-- The notification for an open device is still to come, or has reached the thread. -/
lemma Inv.notifying_step {s t : State τ} {a : Action τ} (h : Inv s) (ht : step s a = some t)
    (hopen : 0 < t.openDevices) (hasleep : t.Asleep) : ∃ u, t.Notifying u := by
  cases Rule.of_step ht with
  | lock | somethingOpen | nothingOpen | sawStop | sawNoStop | wakeUp | unlock | handleEvents =>
    simp [State.Asleep, State.setEvent] at hasleep
  | checkStop pc _ hpc' =>
    rcases hpc' with rfl | rfl <;> simp [State.Asleep, State.setEvent] at hasleep
  | block hpc =>
    have hempty := h.empty (Or.inr hpc)
    exact absurd hempty hopen.ne'
  | openerCall u hpc | openerLock u hpc | openerUnlock u hpc =>
    obtain ⟨v, hv⟩ := h.notifying hopen hasleep
    have hnot : ¬ s.Notifying u := by simp [State.Notifying, hpc]
    exact ⟨v, hv.of_update hnot rfl⟩
  | fetchAdd u pc hpc _ hpc' =>
    rcases hpc' with ⟨-, rfl⟩ | ⟨hpos, rfl⟩
    · exact ⟨u, Or.inl (Function.update_self ..)⟩
    · have hasleep' : s.event = .blocked false := hasleep
      obtain ⟨v, hv⟩ := h.notifying hpos hasleep'
      have hnot : ¬ s.Notifying u := by simp [State.Notifying, hpc]
      exact ⟨v, hv.of_update hnot rfl⟩
  | unlockFirst u hpc => exact ⟨u, Or.inr (Function.update_self ..)⟩
  | notifyDevClosed hpos =>
    have hasleep' : s.event = .blocked false := hasleep
    obtain ⟨v, hv⟩ := h.notifying (h.counted ▸ hpos) hasleep'
    exact ⟨v, hv.congr rfl⟩
  | requestStop => exact h.notifying hopen hasleep
  | notify | shutdownNotify => exact absurd hasleep s.not_asleep_notifyOne

lemma inv_step {s t : State τ} {a : Action τ} (h : Inv s) (ht : step s a = some t) : Inv t where
  mutex := agrees_step h.mutex ht
  counted := (h.counted_step ht).1
  bound := (h.counted_step ht).2
  empty := h.empty_step ht
  notifying := h.notifying_step ht

/-! ### All runs -/

/-- In every state of every run, before and after a shutdown, an open device keeps the event
thread awake or has a notification on its way. -/
theorem woken_always (as : List (Action τ)) : Always step Woken (init τ) as :=
  always_of_preserved (fun _ _ _ h ht => inv_step h ht) (fun _ h => h.woken) inv_init as

end UsbAsio.EventThread
