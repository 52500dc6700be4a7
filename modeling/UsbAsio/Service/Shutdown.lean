import UsbAsio.Service.EventThread

/-!
# Shutting the event thread down

`shutdown` sets the stop flag and notifies without the mutex. When its notification falls
between the moment the event thread has read the flag and the moment it blocks, nobody hears it,
and the thread sleeps on. Otherwise no run leaves the thread asleep after `shutdown`.
-/

namespace UsbAsio.EventThread

open Transition

variable {τ : Type*} [DecidableEq τ]

/-- `shutdown` has returned, and the event thread sleeps with no notification on its way. -/
def State.Missed (s : State τ) : Prop := s.shutdown = .returned ∧ s.Asleep

/-- `shutdown` does not notify while the event thread has found its wait predicate false and has
not blocked yet. -/
def NotifyHeard (s : State τ) : Action τ → Prop
  | .shutdown => s.shutdown = .stopRequested → s.event ≠ .block
  | _         => True

instance (s : State τ) (a : Action τ) : Decidable (NotifyHeard s a) :=
  match a with
  | .shutdown => inferInstanceAs (Decidable (_ → _))
  | .event | .notifyDevOpened _ | .notifyDevClosed => inferInstanceAs (Decidable True)

/-- After `shutdown`, the thread neither sleeps nor is about to. -/
def State.Heard (s : State τ) : Prop := s.shutdown = .returned → s.event ≠ .block ∧ ¬ s.Asleep

omit [DecidableEq τ] in
lemma heard_init : (init τ).Heard := by
  intro hreturned
  cases hreturned

omit [DecidableEq τ] in
lemma State.Heard.congr {s t : State τ} (h : s.Heard) (hshutdown : t.shutdown = s.shutdown)
    (hevent : t.event = s.event) : t.Heard := by
  unfold State.Heard State.Asleep at *
  rwa [hshutdown, hevent]

omit [DecidableEq τ] in
lemma State.Heard.not_missed {s : State τ} (h : s.Heard) : ¬ s.Missed :=
  fun hmissed => (h hmissed.1).2 hmissed.2

/-- The predicate is false only before the stop request, so a thread that falls asleep does so
before `shutdown` has notified. -/
lemma heard_step {s t : State τ} {a : Action τ} (h : s.Heard) (hheard : NotifyHeard s a)
    (ht : step s a = some t) : t.Heard := by
  intro hreturned
  -- with the stop requested the predicate holds, so the event thread does not go to sleep any more
  cases Rule.of_step ht with
  | sawNoStop _ hstop =>
    have hcalled : s.shutdown = .returned := hreturned
    rw [hstop] at hcalled
    cases hcalled
  | block hpc => exact absurd hpc (h hreturned).1
  | lock | somethingOpen | nothingOpen | sawStop | wakeUp | unlock | handleEvents =>
    constructor <;> simp [State.Asleep, State.setEvent]
  | checkStop pc _ hpc' =>
    rcases hpc' with rfl | rfl <;> constructor <;> simp [State.Asleep, State.setEvent]
  | openerCall | openerLock | fetchAdd | unlockFirst | openerUnlock | notifyDevClosed =>
    exact h.congr rfl rfl hreturned
  | notify =>
    obtain ⟨-, -, -, -, hshutdown⟩ := s.notifyOne_frame
    refine ⟨?_, s.not_asleep_notifyOne⟩
    rcases s.notifyOne_event with hevent | ⟨hevent, -⟩
    · simp [State.setOpener, hevent]
    · show s.notifyOne.event ≠ .block
      rw [hevent]
      exact (h (hshutdown.symm.trans hreturned)).1
  | requestStop => cases hreturned
  | shutdownNotify hpc =>
    refine ⟨?_, s.not_asleep_notifyOne⟩
    show s.notifyOne.event ≠ .block
    rcases s.notifyOne_event with hevent | ⟨hevent, -⟩
    · simp [hevent]
    · rw [hevent]
      exact hheard hpc

/-- The notification that nobody hears, and the next step of the event thread. -/
lemma missed_of_notify {s : State τ} (hshutdown : s.shutdown = .stopRequested)
    (hevent : s.event = .block) :
    ∃ t, exec step s [.shutdown, .event] = some t ∧ t.Missed := by
  have hnotify : s.notifyOne = s := by simp [State.notifyOne, hevent]
  let s₁ : State τ := { s with shutdown := .returned }
  have hreturn : step s .shutdown = some s₁ := by
    simp [step, hshutdown, hnotify, s₁]
  have hblock : step s₁ .event = some ((s₁.setOwner none).setEvent (.blocked false)) := by
    simp [step, stepEvent, hevent, s₁]
  rw [exec_cons_some hreturn, exec_cons_some hblock]
  exact ⟨_, rfl, rfl, rfl⟩

/-- On every run on which the event thread is never past its predicate when `shutdown` notifies,
the thread is not left asleep. A notification given in that window is lost: `shutdown` returns,
and the next step of the thread puts it to sleep. -/
theorem not_missed_of_notifyHeard (as : List (Action τ))
    (hheard : Along step NotifyHeard (init τ) as) :
    Always step (fun s => ¬ s.Missed) (init τ) as ∧
      ∀ s, exec step (init τ) as = some s → s.shutdown = .stopRequested → s.event = .block →
        ∃ t, exec step s [.shutdown, .event] = some t ∧ t.Missed :=
  ⟨always_of_invariant (fun _ _ _ h hc ht => heard_step h hc ht) (fun _ h => h.not_missed)
    heard_init hheard, fun _ _ => missed_of_notify⟩

/-- The thread is asleep when `shutdown` is called: it is woken and stops. -/
theorem not_missed_asleep :
    let as : List (Action Unit) := [.event, .event, .event, .event, .shutdown, .shutdown, .event,
      .event, .event, .event, .event, .event]
    (exec step (init Unit) as).isSome ∧
      Always step (fun s : State Unit => ¬ s.Missed) (init Unit) as :=
  ⟨by decide, (not_missed_of_notifyHeard _ (by decide)).1⟩

/-- `shutdown` requests the stop and notifies when the thread has read the stop flag, and then
the thread blocks. -/
theorem missed_before_block :
    ¬ ∀ as : List (Action Unit), Always step (fun s => ¬ s.Missed) (init Unit) as := by
  intro h
  have hmissed : (exec step (init Unit) [.event, .event, .event, .shutdown, .shutdown, .event]).map
      (fun s => decide (s.shutdown = .returned ∧ s.event = .blocked false)) = some true := by
    decide
  obtain ⟨s, hs, hs'⟩ := Option.map_eq_some_iff.mp hmissed
  have hbad : s.shutdown = .returned ∧ s.event = .blocked false := decide_eq_true_eq.mp hs'
  exact (h _).last hs hbad

end UsbAsio.EventThread
