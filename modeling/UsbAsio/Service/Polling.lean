import UsbAsio.Service.Wakeup
import UsbAsio.Transition.Progress

/-!
# When the event thread handles events

What `run_usb_event_thread` is for: while a device is open, the thread keeps calling
`libusb_handle_events`, and while there is none, or after `shutdown`, it leaves libusb alone but for
the call that it is about to make.
-/

namespace UsbAsio.EventThread

open Transition Mutex

variable {τ : Type*} [DecidableEq τ]

/-! ### The steps that are counted -/

/-- The steps of the event thread. -/
def eventStep (_ : State τ) : Action τ → ℕ
  | .event                                               => 1
  | .notifyDevOpened _ | .notifyDevClosed | .shutdown => 0

/-- The calls of `libusb_handle_events`. -/
def polled (s : State τ) : Action τ → ℕ
  | .event                                               => if s.event = .handleEvents then 1 else 0
  | .notifyDevOpened _ | .notifyDevClosed | .shutdown => 0

/-- A device is open, and the service has not been shut down. -/
def State.Serving (s : State τ) : Prop := 0 < s.openDevices ∧ s.shutdown = .notCalled

instance (s : State τ) : Decidable s.Serving := inferInstanceAs (Decidable (_ ∧ _))

/-! ### While a device is open -/

/-- How many steps the event thread is from its next call. -/
def EventPc.distance : EventPc → ℕ
  | .blocked _                      => 5
  | .lock                           => 4
  | .readOpen | .readStop | .block  => 3
  | .unlock                         => 2
  | .checkStop                      => 1
  | .handleEvents | .stopped        => 0

omit [DecidableEq τ] in
/-- A notification brings the event thread no further. -/
lemma State.distance_notifyOne (s : State τ) :
    s.notifyOne.event.distance = s.event.distance := by
  unfold State.notifyOne
  split
  · next b hb =>
    rw [hb]
    rfl
  · rfl

variable {s t : State τ} {a : Action τ}

/-- Every step of the event thread brings it nearer to its next call. -/
lemma Inv.distance_step (h : Inv s) (hserving : s.Serving) (ht : step s a = some t) :
    t.event.distance + eventStep s a ≤ s.event.distance + 5 * polled s a := by
  cases Rule.of_step ht with
  | lock hpc | somethingOpen hpc | wakeUp _ hpc | unlock hpc | handleEvents hpc =>
    simp [State.setEvent, State.setOwner, EventPc.distance, eventStep, polled, hpc]
  | checkStop pc hpc hpc' =>
    rcases hpc' with rfl | rfl <;>
      simp [State.setEvent, EventPc.distance, eventStep, polled, hpc]
  | nothingOpen _ hopen => exact absurd hopen hserving.1.ne'
  | sawStop hpc | sawNoStop hpc => exact absurd (h.empty (.inl hpc)) hserving.1.ne'
  | block hpc => exact absurd (h.empty (.inr hpc)) hserving.1.ne'
  | openerCall | openerLock | fetchAdd | unlockFirst | openerUnlock | notifyDevClosed
  | requestStop => exact le_rfl
  | notify | shutdownNotify => exact s.distance_notifyOne.le

/-! ### While there is none -/

/-- The call that the event thread is about to make, if any. -/
def State.due (s : State τ) : ℕ :=
  match s.event with
  | .handleEvents        => 1
  | .unlock | .checkStop => if s.shutdown = .notCalled then 1 else 0
  | _                    => 0

omit [DecidableEq τ] in
lemma State.due_le_one (s : State τ) : s.due ≤ 1 := by
  unfold State.due
  cases s.event with
  | unlock | checkStop => exact ite_le_one le_rfl zero_le_one
  | lock | readOpen | readStop | block | blocked | stopped => exact zero_le_one
  | handleEvents => exact le_rfl

omit [DecidableEq τ] in
lemma State.due_le (hevent : t.event = s.event)
    (hstop : t.shutdown = .notCalled → s.shutdown = .notCalled) : t.due ≤ s.due := by
  unfold State.due
  rw [hevent]
  cases s.event with
  | unlock | checkStop =>
    by_cases hnot : t.shutdown = .notCalled
    · simp only [hnot, hstop hnot, le_refl]
    · simp only [if_neg hnot, Nat.zero_le]
  | lock | readOpen | readStop | block | blocked | handleEvents | stopped => exact le_rfl

omit [DecidableEq τ] in
lemma State.due_notifyOne (s : State τ) : s.notifyOne.due = s.due := by
  unfold State.notifyOne
  split
  · next b hb => simp [State.due, State.setEvent, hb]
  · rfl

lemma step_checkStop (hpc : s.event = .checkStop) (ht : step s .event = some t) :
    s.shutdown = .notCalled ∧ t = s.setEvent .handleEvents ∨
      s.shutdown ≠ .notCalled ∧ t = s.setEvent .stopped := by
  simp only [step, stepEvent, hpc, State.stopRequested, Option.some.injEq] at ht
  by_cases hstop : s.shutdown = .notCalled
  · exact .inl ⟨hstop, by simp [← ht, hstop]⟩
  · exact .inr ⟨hstop, by simp [← ht, hstop]⟩

/-- No call becomes due. -/
lemma due_step (hserving : ¬ s.Serving) (ht : step s a = some t) :
    t.due + polled s a ≤ s.due := by
  cases Rule.of_step ht with
  | checkStop pc hpc =>
    rcases step_checkStop hpc ht with ⟨hstop, heq⟩ | ⟨hstop, heq⟩ <;> rw [heq] <;>
      simp [State.due, State.setEvent, polled, hpc, hstop]
  | somethingOpen hpc hopen =>
    have hstop : s.shutdown ≠ .notCalled := fun hnot => hserving ⟨hopen, hnot⟩
    simp [State.due, State.setEvent, polled, hpc, hstop]
  | sawStop hpc hstop => simp [State.due, State.setEvent, polled, hpc, hstop]
  | lock hpc | nothingOpen hpc | sawNoStop hpc | block hpc | wakeUp _ hpc | unlock hpc
  | handleEvents hpc => simp [State.due, State.setEvent, State.setOwner, polled, hpc]
  | openerCall | openerLock | fetchAdd | unlockFirst | openerUnlock | notifyDevClosed =>
    exact State.due_le rfl fun hnot => hnot
  | requestStop => exact State.due_le rfl fun hnot => by cases hnot
  | notify =>
    rw [← s.due_notifyOne]
    exact State.due_le rfl fun hnot => hnot
  | shutdownNotify =>
    rw [← s.due_notifyOne]
    exact State.due_le rfl fun hnot => by cases hnot

/-! ### On the way to a call -/

/-- A thread goes on with what it has begun: the event thread, unless it would wake up for no
reason, or a call of `notify_dev_opened` that holds the mutex or is about to notify. -/
def GoesOn (s : State τ) : Action τ → Prop
  | .event             => ¬ s.Asleep
  | .notifyDevOpened u => s.opener u ≠ .idle ∧ s.opener u ≠ .lock
  | _                  => False

/-- The threads can bring it about in at most `n` steps that the event thread is about to call
`libusb_handle_events`. -/
def Near (n : ℕ) (s : State τ) : Prop :=
  ∃ as t, exec step s as = some t ∧ Along step GoesOn s as ∧ as.length ≤ n ∧
    t.event = .handleEvents

omit [DecidableEq τ] in
lemma State.not_asleep_of_event {pc : EventPc} (hpc : s.event = pc) (hne : pc ≠ .blocked false) :
    ¬ s.Asleep := by
  intro hasleep
  exact hne (hpc.symm.trans hasleep)

lemma Near.step {n : ℕ} (hn : Near n t) (ha : GoesOn s a) (ht : EventThread.step s a = some t) :
    Near (n + 1) s := by
  obtain ⟨as, u, hrun, hgoes, hlength, hu⟩ := hn
  refine ⟨a :: as, u, ?_, ?_, Nat.succ_le_succ hlength, hu⟩
  · rw [exec_cons_some ht, hrun]
  · refine along_cons_iff.mpr fun t' ht' => ?_
    obtain rfl : t = t' := Option.some.inj (ht.symm.trans ht')
    exact ⟨ha, hgoes⟩

lemma Near.mono {n m : ℕ} (h : Near n s) (hle : n ≤ m) : Near m s := by
  obtain ⟨as, t, hrun, hgoes, hlength, ht⟩ := h
  exact ⟨as, t, hrun, hgoes, hlength.trans hle, ht⟩

/-- A step of the event thread that is not a wake-up for no reason. -/
lemma Near.event {n : ℕ} {pc : EventPc} (hn : Near n t) (hpc : s.event = pc)
    (hne : pc ≠ .blocked false) (ht : stepEvent s = some t) : Near (n + 1) s :=
  hn.step (a := .event) (s.not_asleep_of_event hpc hne) ht

lemma near_checkStop (hserving : s.Serving) (hpc : s.event = .checkStop) : Near 1 s := by
  have hthere : Near 0 (s.setEvent .handleEvents) := ⟨[], _, rfl, trivial, le_rfl, rfl⟩
  refine hthere.event hpc (by simp) ?_
  simp [stepEvent, hpc, State.stopRequested, hserving.2]

lemma near_unlock (hserving : s.Serving) (hpc : s.event = .unlock) : Near 2 s := by
  have hcheck : Near 1 ((s.setOwner none).setEvent .checkStop) := near_checkStop hserving rfl
  refine hcheck.event hpc (by simp) ?_
  simp [stepEvent, hpc]

lemma near_readOpen (hserving : s.Serving) (hpc : s.event = .readOpen) : Near 3 s := by
  have hunlock : Near 2 (s.setEvent .unlock) := near_unlock hserving rfl
  refine hunlock.event hpc (by simp) ?_
  simp [stepEvent, hpc, hserving.1]

lemma near_lock_free (hserving : s.Serving) (hpc : s.event = .lock) (hfree : s.owner = none) :
    Near 4 s := by
  have hread : Near 3 ((s.setOwner (some .event)).setEvent .readOpen) := near_readOpen hserving rfl
  refine hread.event hpc (by simp) ?_
  simp [stepEvent, hpc, hfree]

/-- The mutex is given back. -/
lemma near_lock_held {u : τ} (hserving : s.Serving) (hpc : s.event = .lock)
    (hopener : s.opener u = .unlockFirst ∨ s.opener u = .unlock) : Near 5 s := by
  rcases hopener with hopener | hopener
  · have hfree : Near 4 ((s.setOwner none).setOpener u .notify) :=
      near_lock_free hserving hpc rfl
    refine hfree.step (a := .notifyDevOpened u) ⟨by simp [hopener], by simp [hopener]⟩ ?_
    simp [EventThread.step, stepOpener, hopener]
  · have hfree : Near 4 ((s.setOwner none).setOpener u .idle) := near_lock_free hserving hpc rfl
    refine hfree.step (a := .notifyDevOpened u) ⟨by simp [hopener], by simp [hopener]⟩ ?_
    simp [EventThread.step, stepOpener, hopener]

lemma Inv.near_lock (h : Inv s) (hserving : s.Serving) (hlt : s.counted + 1 < 2 ^ 64)
    (hpc : s.event = .lock) : Near 6 s := by
  cases howner : s.owner with
  | none => exact (near_lock_free hserving hpc howner).mono (by omega)
  | some x =>
    have hin : s.inside x = true := (h.mutex x).mpr howner
    cases x with
    | event => simp [State.inside, hpc, EventPc.inside] at hin
    | opener u =>
      cases hopener : s.opener u with
      | fetchAdd =>
        have hnext : State.Serving ({ s with openDevices := incrementDevices s.openDevices
                                             counted := s.counted + 1 }.setOpener u .unlock) := by
          refine ⟨?_, hserving.2⟩
          show 0 < incrementDevices s.openDevices
          rw [h.counted, incrementDevices_of_lt hlt]
          exact Nat.succ_pos _
        have hheld := near_lock_held (u := u) hnext hpc (.inr (Function.update_self ..))
        refine hheld.step (a := .notifyDevOpened u) ⟨by simp [hopener], by simp [hopener]⟩ ?_
        simp only [EventThread.step, stepOpener, hopener, if_pos hlt, if_neg hserving.1.ne']
      | unlockFirst => exact (near_lock_held hserving hpc (.inl hopener)).mono (by omega)
      | unlock => exact (near_lock_held hserving hpc (.inr hopener)).mono (by omega)
      | idle | lock | notify => simp [State.inside, hopener, OpenerPc.inside] at hin

/-- A thread that has heard a notification wakes up. -/
lemma Inv.near_notified (h : Inv s) (hserving : s.Serving) (hlt : s.counted + 1 < 2 ^ 64)
    (hpc : s.event = .blocked true) : Near 7 s := by
  have hstep : EventThread.step s .event = some (s.setEvent .lock) := by
    simp [EventThread.step, stepEvent, hpc]
  have hlock : Near 6 (s.setEvent .lock) := (inv_step h hstep).near_lock hserving hlt rfl
  exact hlock.event hpc (by simp) hstep

/-- The opener that is to notify the sleeping thread does so. -/
lemma Inv.near_notify {u : τ} (h : Inv s) (hserving : s.Serving) (hlt : s.counted + 1 < 2 ^ 64)
    (hasleep : s.Asleep) (hopener : s.opener u = .notify) : Near 8 s := by
  have hevent : s.event = .blocked false := hasleep
  have hnotify : s.notifyOne = s.setEvent (.blocked true) := by
    unfold State.notifyOne
    rw [hevent]
  have hstep : EventThread.step s (.notifyDevOpened u) =
      some ((s.setEvent (.blocked true)).setOpener u .idle) := by
    simp [EventThread.step, stepOpener, hopener, hnotify]
  have hnotified : Near 7 ((s.setEvent (.blocked true)).setOpener u .idle) :=
    (inv_step h hstep).near_notified hserving hlt rfl
  exact hnotified.step (a := .notifyDevOpened u) ⟨by simp [hopener], by simp [hopener]⟩ hstep

lemma Inv.near_asleep (h : Inv s) (hserving : s.Serving) (hlt : s.counted + 1 < 2 ^ 64)
    (hasleep : s.Asleep) : Near 9 s := by
  obtain ⟨u, hu | hu⟩ := h.notifying hserving.1 hasleep
  · have hstep : EventThread.step s (.notifyDevOpened u) =
        some ((s.setOwner none).setOpener u .notify) := by
      simp [EventThread.step, stepOpener, hu]
    have hnotify : Near 8 ((s.setOwner none).setOpener u .notify) :=
      (inv_step h hstep).near_notify hserving hlt hasleep (Function.update_self ..)
    exact hnotify.step (a := .notifyDevOpened u) ⟨by simp [hu], by simp [hu]⟩ hstep
  · exact (h.near_notify hserving hlt hasleep hu).mono (by omega)

/-- The thread has not ended before a stop was requested. -/
def State.StopsLate (s : State τ) : Prop := s.event = .stopped → s.shutdown ≠ .notCalled

lemma stopsLate_step (h : s.StopsLate) (ht : step s a = some t) : t.StopsLate := by
  intro hstopped
  cases Rule.of_step ht with
  | checkStop pc hpc =>
    rcases step_checkStop hpc ht with ⟨-, heq⟩ | ⟨hstop, -⟩
    · rw [heq] at hstopped
      cases hstopped
    · exact hstop
  | lock | somethingOpen | nothingOpen | sawStop | sawNoStop | block | wakeUp | unlock
  | handleEvents => cases hstopped
  | openerCall | openerLock | fetchAdd | unlockFirst | openerUnlock | notifyDevClosed =>
    exact h hstopped
  | notify =>
    obtain ⟨-, -, -, -, hshutdown⟩ := s.notifyOne_frame
    show s.notifyOne.shutdown ≠ _
    rw [hshutdown]
    rcases s.notifyOne_event with hevent | ⟨hevent, -⟩
    · have hstopped' : s.notifyOne.event = .stopped := hstopped
      rw [hevent] at hstopped'
      cases hstopped'
    · exact h (hevent.symm.trans hstopped)
  | requestStop | shutdownNotify => exact fun hnot => by cases hnot

/-- While a device is open, no state is more than a few steps away from the next call. -/
lemma Inv.near (h : Inv s) (hstops : s.StopsLate) (hserving : s.Serving)
    (hlt : s.counted + 1 < 2 ^ 64) : Near 9 s := by
  cases hpc : s.event with
  | lock => exact (h.near_lock hserving hlt hpc).mono (by omega)
  | readOpen => exact (near_readOpen hserving hpc).mono (by omega)
  | readStop => exact absurd (h.empty (.inl hpc)) hserving.1.ne'
  | block => exact absurd (h.empty (.inr hpc)) hserving.1.ne'
  | blocked notified =>
    cases notified with
    | false => exact h.near_asleep hserving hlt hpc
    | true => exact (h.near_notified hserving hlt hpc).mono (by omega)
  | unlock => exact (near_unlock hserving hpc).mono (by omega)
  | checkStop => exact (near_checkStop hserving hpc).mono (by omega)
  | handleEvents => exact ⟨[], s, rfl, trivial, Nat.zero_le _, hpc⟩
  | stopped => exact absurd hserving.2 (hstops hpc)

/-! ### All runs -/

/-- From any state that can be reached, in whatever order the threads go on: while a device is open,
the event thread calls `libusb_handle_events` once in every five of its steps, and nothing has to
begin for it to get there; while none is open, or after a stop request, it does so once at most. -/
theorem handles_events {s t : State τ} (hs : Reachable step (init τ) s) (as : List (Action τ))
    (hrun : exec step s as = some t) :
    (Along step (fun s _ => s.Serving) s as →
      total step eventStep s as ≤ 5 * total step polled s as + 5) ∧
    (Along step (fun s _ => ¬ s.Serving) s as → total step polled s as ≤ 1) ∧
    (t.Serving → t.counted + 1 < 2 ^ 64 → Near 9 t) := by
  have hinv : Inv s := hs.invariant (fun _ _ _ h ht => inv_step h ht) inv_init
  refine ⟨fun hserving => ?_, fun hresting => ?_, fun hserving hlt => ?_⟩
  · -- each step of the thread brings the next poll nearer, and a poll starts over at five
    have htotal : t.event.distance + total step eventStep s as ≤
        s.event.distance + total step (fun s a => 5 * polled s a) s as :=
      total_le (fun _ _ _ h _ ht => inv_step h ht) (fun _ _ _ h hC ht => h.distance_step hC ht)
        hinv hserving hrun
    have hstart : s.event.distance ≤ 5 := by cases s.event <;> simp [EventPc.distance]
    rw [total_mul] at htotal
    omega
  · have htotal : t.due + total step polled s as ≤
        s.due + total step (fun s a => 0 * polled s a) s as := by
      refine total_le (fun _ _ _ h _ ht => inv_step h ht) ?_ hinv hresting hrun
      intro s a t _ hC ht
      simpa using due_step hC ht
    have hstart := s.due_le_one
    rw [total_mul] at htotal
    omega
  · have ht : Reachable step (init τ) t := by
      obtain ⟨bs, hbs⟩ := hs
      exact ⟨bs ++ as, by rw [exec_append hbs, hrun]⟩
    have hinv' : Inv t := ht.invariant (fun _ _ _ h ht => inv_step h ht) inv_init
    have hstops : t.StopsLate :=
      ht.invariant (fun _ _ _ h ht => stopsLate_step h ht) fun h => by cases h
    exact hinv'.near hstops hserving hlt

/-- A device is opened and closed; the call that is due by then is still made. -/
theorem handles_events_one_device :
    let «open» : List (Action ℕ) := List.replicate 5 (.notifyDevOpened 0)
    let serve : List (Action ℕ) := List.replicate 9 .event
    let rest : List (Action ℕ) := List.replicate 5 .event
    ∃ s t u, exec step (init ℕ) «open» = some s ∧ exec step s serve = some t ∧
      exec step t (.notifyDevClosed :: rest) = some u ∧ Near 9 t ∧
      total step eventStep s serve ≤ 5 * total step polled s serve + 5 ∧
      ∃ t', step t .notifyDevClosed = some t' ∧ total step polled t' rest ≤ 1 := by
  intro «open» serve rest
  refine ⟨_, _, _, rfl, rfl, rfl, ?_, ?_, _, rfl, ?_⟩
  · exact (handles_events ⟨«open», rfl⟩ serve rfl).2.2 (by decide) (by decide)
  · exact (handles_events ⟨«open», rfl⟩ serve rfl).1 (by decide)
  · exact (handles_events ⟨«open» ++ serve ++ [.notifyDevClosed], rfl⟩ rest rfl).2.1 (by decide)

end UsbAsio.EventThread
