import UsbAsio.Transfer.Progress
import UsbAsio.Transition.Simulation

/-!
# A transfer as a sequence of operations

What a transfer is for: an object that performs one operation after the other, each with its own
arguments, and ends it by running its handler once with what libusb answered. The threads, the
slot and its resets are not seen from outside. The transfer that is started in turn shows exactly
what this object does.
-/

namespace UsbAsio.Transfer

open Transition

variable {R : Type*}

namespace Serial

/-! ### The abstract object -/

/-- What the object is doing. -/
inductive Activity (R : Type*) where
  | ready
  | started (args : Args)
  | submitted (args : Args)
  | reported (o : Outcome R)

/-- The operations that are over are numbered below `finished`, which is the number of the
operation under way or of the next one. -/
structure Stream (R : Type*) where
  finished : ℕ
  activity : Activity R

def start (R : Type*) : Stream R := ⟨0, .ready⟩

inductive Event (R : Type*) where
  | start (op : ℕ) (args : Args)
  | refuse (op : ℕ) (retCode : ℤ)
  | accept (op : ℕ) (args : Args)
  | complete (op : ℕ) (status : ℤ) (result : R)
  /-- The handler begins to run; it has been posted with these arguments. -/
  | invoke (op : ℕ) (posted : List (Outcome R))

/-- One operation at a time: libusb is given its own arguments, and its handler is invoked once,
with the answer of libusb. -/
def step [Inhabited R] [DecidableEq R] (u : Stream R) (e : Event R) : Option (Stream R) :=
  match u.activity, e with
  | .ready, .start op args                     =>
    if op = u.finished then some ⟨u.finished, .started args⟩ else none
  | .started _, .refuse op retCode             =>
    if op = u.finished ∧ retCode < 0 then
      some ⟨u.finished, .reported ⟨makeErrorCode retCode, default⟩⟩
    else none
  | .started args, .accept op args'            =>
    if op = u.finished ∧ args' = args then some ⟨u.finished, .submitted args⟩ else none
  | .submitted _, .complete op status result   =>
    if op = u.finished then
      some ⟨u.finished, .reported ⟨makeTransferErrorCode status, result⟩⟩
    else none
  | .reported o, .invoke op posted             =>
    if op = u.finished ∧ posted = [o] then some ⟨u.finished + 1, .ready⟩ else none
  | _, _                                       => none

end Serial

open Serial (Stream Event Activity)

/-! ### What is seen of a transfer -/

/-- The calls, the answers of libusb and the handlers that begin to run are seen. -/
def observe (s : State R) : Action R → Option (Event R)
  | .call args              => some (.start s.nextOp args)
  | .submit op retCode      =>
    if s.libusbSubmitTransfer retCode < 0 then some (.refuse op (s.libusbSubmitTransfer retCode))
    else some (.accept op s.args)
  | .complete status result => s.inFlight.map fun sub => .complete sub.op status result
  | .runHandler op          => some (.invoke op (s.ops op).posted)
  | .initiate _ | .postError _ | .resetError _ | .cancel | .postResult | .resetSlot => none

/-- What a transfer is doing, seen from outside. -/
def State.view (s : State R) : Stream R :=
  match s.nextOp with
  | 0     => ⟨0, .ready⟩
  | k + 1 =>
    if (s.ops k).begun then ⟨k + 1, .ready⟩
    else
      match (s.ops k).outcome, s.inFlight with
      | some o, _       => ⟨k, .reported o⟩
      | none, some sub  => ⟨k, .submitted sub.args⟩
      | none, none      => ⟨k, .started s.args⟩

@[simp] lemma view_init : (init R).view = Serial.start R := rfl

variable {s t : State R} {op : ℕ}

/-- The view looks at these parts of the state only. -/
lemma State.view_congr (hnext : t.nextOp = s.nextOp) (hargs : t.args = s.args)
    (hfly : t.inFlight = s.inFlight)
    (hops : ∀ op, (t.ops op).outcome = (s.ops op).outcome ∧ (t.ops op).begun = (s.ops op).begun) :
    t.view = s.view := by
  have hout : ∀ op, (t.ops op).outcome = (s.ops op).outcome := fun op => (hops op).1
  have hbegun : ∀ op, (t.ops op).begun = (s.ops op).begun := fun op => (hops op).2
  simp only [State.view, hnext, hargs, hfly, hout, hbegun]

lemma State.view_of_begun (hbegun : s.nextOp = 0 ∨ (s.ops (s.nextOp - 1)).begun = true) :
    s.view = ⟨s.nextOp, .ready⟩ := by
  rw [State.view]
  cases hn : s.nextOp with
  | zero => rfl
  | succ k =>
    rw [hn, Nat.add_sub_cancel] at hbegun
    have hk : (s.ops k).begun = true := hbegun.resolve_left (Nat.succ_ne_zero k)
    exact if_pos hk

lemma State.view_of_reported (hlast : op + 1 = s.nextOp) (hbegun : (s.ops op).begun = false)
    {o : Outcome R} (hout : (s.ops op).outcome = some o) : s.view = ⟨op, .reported o⟩ := by
  simp [State.view, ← hlast, hbegun, hout]

lemma State.view_of_submitted (hlast : op + 1 = s.nextOp) (hbegun : (s.ops op).begun = false)
    (hout : (s.ops op).outcome = none) {sub : Submission} (hfly : s.inFlight = some sub) :
    s.view = ⟨op, .submitted sub.args⟩ := by
  simp [State.view, ← hlast, hbegun, hout, hfly]

lemma State.view_of_started (hlast : op + 1 = s.nextOp) (hbegun : (s.ops op).begun = false)
    (hout : (s.ops op).outcome = none) (hfly : s.inFlight = none) :
    s.view = ⟨op, .started s.args⟩ := by
  simp [State.view, ← hlast, hbegun, hout, hfly]

/-! ### What is not seen changes nothing -/

variable [Inhabited R]

/-- A handler begins to run only in the step that says so. -/
lemma begun_step {a : Action R} (ha : ∀ op, a ≠ .runHandler op) (hcall : ∀ args, a ≠ .call args)
    (ht : Transfer.step s a = some t) (op : ℕ) : (t.ops op).begun = (s.ops op).begun := by
  have hsame : ∀ op, (s.destroyStored.ops op).begun = (s.ops op).begun :=
    fun op => (congrArg Op.begun (s.destroyStored_visible op) :)
  cases (Rule.of_step ht).2 with
  | call args => exact absurd rfl (hcall args)
  | runHandler k => exact absurd rfl (ha k)
  | initiate k | resetError k =>
    exact (State.setOp_congr Op.begun _ k (fun _ => by rfl) op).trans (hsame op)
  | refused k | accepted k => exact State.setOp_congr Op.begun _ k (fun _ => by rfl) op
  | complete _ _ sub => exact State.setOp_congr Op.begun _ sub.op (fun _ => by rfl) op
  | postError k =>
    exact (State.setOp_congr Op.begun _ k (fun _ => by rfl) op).trans
      (s.invokeHandler_congr Op.begun _ (fun _ _ => by rfl) op)
  | postResult => exact s.invokeHandler_congr Op.begun _ (fun _ _ => by rfl) op
  | resetSlot => exact hsame op
  | cancel => rfl

/-- A step of which nothing is seen leaves the view as it is. -/
lemma view_of_unseen {a : Action R} (ha : observe s a = none) (ht : Transfer.step s a = some t) :
    t.view = s.view := by
  have hcomplete : ∀ status result, a ≠ .complete status result := by
    rintro status result rfl
    obtain ⟨sub, hfly, -⟩ := outcome_complete ht
    simp [observe, hfly] at ha
  have hcall : ∀ args, a ≠ .call args := by
    rintro args rfl
    cases ha
  have hsubmit : ∀ op retCode, a ≠ .submit op retCode := by
    rintro op retCode rfl
    simp only [observe] at ha
    split_ifs at ha
  have hrun : ∀ op, a ≠ .runHandler op := by
    rintro op rfl
    cases ha
  obtain ⟨hargs, hnext⟩ := args_step hcall ht
  obtain ⟨hfly, hout⟩ := outcome_step hsubmit hcomplete ht
  exact State.view_congr hnext hargs hfly fun op => ⟨hout op, begun_step hrun hcall ht op⟩

/-! ### What is seen -/

/-- While the last operation has not been posted, its handler has not begun. -/
lemma Turns.not_begun (h : Turns s) (hnil : (s.ops op).posted = []) : (s.ops op).begun = false :=
  (h.known op).not_begun hnil

/-- An operation about to be submitted is the one under way, and libusb has no other. -/
lemma Turns.stored (h : Turns s) (hpc : (s.ops op).pc = .stored) :
    op + 1 = s.nextOp ∧ s.view = ⟨op, .started s.args⟩ ∧
      ∀ retCode, s.libusbSubmitTransfer retCode = retCode := by
  obtain ⟨hout, hnil⟩ := (h.known op).early (.inr (.inr hpc))
  have hlast := h.last (fun hnew => by simp [hnew] at hpc) hnil
  have hfly : s.inFlight = none := by
    by_contra hsome
    obtain ⟨sub, hsub⟩ := Option.ne_none_iff_exists'.mp hsome
    have hsublast := h.last_of_inFlight hsub
    obtain rfl : sub.op = op := by omega
    have hdone := ((h.known sub.op).inFlight sub.args hsub).1
    rw [hpc] at hdone
    cases hdone
  refine ⟨hlast, State.view_of_started hlast (h.not_begun hnil) hout hfly, fun retCode => ?_⟩
  simp [State.libusbSubmitTransfer, hfly]

lemma Turns.view_call (h : Turns s) {args : Args} (hturn : InTurn s (.call args))
    (ht : Transfer.step s (.call args) = some t) :
    s.view = ⟨s.nextOp, .ready⟩ ∧ t.view = ⟨s.nextOp, .started args⟩ := by
  have hnew : s.ops s.nextOp = {} := h.wellFormed.fresh _ le_rfl
  have hfly : s.inFlight = none := by
    by_contra hsome
    obtain ⟨sub, hsub⟩ := Option.ne_none_iff_exists'.mp hsome
    have hlast := h.last_of_inFlight hsub
    have hnil := ((h.known sub.op).inFlight sub.args hsub).2.2
    have hbegun : (s.ops sub.op).begun = true := by
      rcases hturn with hzero | hbegun
      · omega
      · rwa [← hlast, Nat.add_sub_cancel] at hbegun
    exact (h.known sub.op).ran hbegun hnil
  cases (Rule.of_step ht).2 with
  | call =>
    refine ⟨State.view_of_begun hturn, ?_⟩
    apply State.view_of_started
    · rfl
    · rw [State.setOp_self]
      simp [hnew]
    · rw [State.setOp_self]
      simp [hnew]
    · exact hfly

lemma Turns.view_submit (h : Turns s) {retCode : ℤ}
    (ht : Transfer.step s (.submit op retCode) = some t) :
    s.view = ⟨op, .started s.args⟩ ∧
      (retCode < 0 ∧ observe s (.submit op retCode) = some (.refuse op retCode) ∧
          t.view = ⟨op, .reported ⟨makeErrorCode retCode, default⟩⟩ ∨
        ¬ retCode < 0 ∧ observe s (.submit op retCode) = some (.accept op s.args) ∧
          t.view = ⟨op, .submitted s.args⟩) := by
  obtain ⟨hpc, hnext, hcase⟩ := outcome_submit ht
  obtain ⟨hlast, hview, hret⟩ := h.stored hpc
  have hlast' : op + 1 = t.nextOp := by rw [hnext, hlast]
  obtain ⟨hout, hnil⟩ := (h.known op).early (.inr (.inr hpc))
  have hbegun : (t.ops op).begun = false := by
    rw [begun_step (by simp) (by simp) ht]
    exact h.not_begun hnil
  simp only [hret, libusbTry_isError, decide_eq_true_eq, decide_eq_false_iff_not] at hcase
  refine ⟨hview, hcase.imp ?_ ?_⟩
  · rintro ⟨hneg, -, hops⟩
    refine ⟨hneg, by simp [observe, hret, hneg], State.view_of_reported hlast' hbegun ?_⟩
    rw [hops, if_pos rfl, libusbTry, if_pos hneg]
  · rintro ⟨hneg, hfly, hops⟩
    refine ⟨hneg, by simp [observe, hret, hneg], ?_⟩
    exact State.view_of_submitted hlast' hbegun ((hops op).trans hout) hfly

lemma Turns.view_complete (h : Turns s) {status : ℤ} {result : R}
    (ht : Transfer.step s (.complete status result) = some t) :
    ∃ sub, s.inFlight = some sub ∧ s.view = ⟨sub.op, .submitted sub.args⟩ ∧
      t.view = ⟨sub.op, .reported ⟨makeTransferErrorCode status, result⟩⟩ := by
  obtain ⟨sub, hfly, -, hnext, hops⟩ := outcome_complete ht
  have hlast := h.last_of_inFlight hfly
  obtain ⟨-, hout, hnil⟩ := (h.known sub.op).inFlight sub.args hfly
  have hbegun := h.not_begun hnil
  refine ⟨sub, hfly, State.view_of_submitted hlast hbegun hout hfly, ?_⟩
  apply State.view_of_reported
  · rw [hnext, hlast]
  · rw [begun_step (by simp) (by simp) ht, hbegun]
  · rw [hops, if_pos rfl]

lemma Turns.view_runHandler (h : Turns s) (ht : Transfer.step s (.runHandler op) = some t) :
    ∃ o, (s.ops op).posted = [o] ∧ s.view = ⟨op, .reported o⟩ ∧ t.view = ⟨op + 1, .ready⟩ := by
  obtain ⟨hlast, o, hout, hposted⟩ := h.posted_of_run ht
  have hbegun : (s.ops op).begun = false := by
    rw [step_of_alive (Rule.of_step ht).1, next] at ht
    by_contra hbegun
    simp [hbegun] at ht
  refine ⟨o, hposted, State.view_of_reported hlast hbegun hout, ?_⟩
  cases (Rule.of_step ht).2 with
  | runHandler =>
    have hready : (s.setOp op fun r => { r with begun := true }).view = ⟨s.nextOp, .ready⟩ := by
      apply State.view_of_begun
      right
      rw [State.setOp_nextOp, ← hlast, Nat.add_sub_cancel, State.setOp_self]
    rw [hready, ← hlast]

variable [DecidableEq R]

/-- In turn, what is seen of a step is what the abstract object does. -/
lemma simulates_serial : Simulates Transfer.step InTurn (observe (R := R)) Serial.step
    fun s u => Turns s ∧ s.view = u := by
  rintro s a t u ⟨h, rfl⟩ hturn ht
  suffices hsim : exec Serial.step s.view (observe s a).toList = some t.view from
    ⟨t.view, hsim, turns_step h hturn ht, rfl⟩
  by_cases hseen : observe s a = none
  · rw [hseen, view_of_unseen hseen ht]
    rfl
  cases a with
  | initiate | postError | resetError | cancel | postResult | resetSlot => exact absurd rfl hseen
  | call args =>
    obtain ⟨hs, ht'⟩ := h.view_call hturn ht
    simp [exec, observe, Serial.step, hs, ht']
  | submit op retCode =>
    obtain ⟨hs, ⟨hneg, hobs, ht'⟩ | ⟨hneg, hobs, ht'⟩⟩ := h.view_submit ht
    · simp [exec, Serial.step, hobs, hs, ht', hneg]
    · simp [exec, Serial.step, hobs, hs, ht']
  | complete status result =>
    obtain ⟨sub, hfly, hs, ht'⟩ := h.view_complete ht
    simp [exec, observe, Serial.step, hfly, hs, ht']
  | runHandler op =>
    obtain ⟨o, hposted, hs, ht'⟩ := h.view_runHandler ht
    simp [exec, observe, Serial.step, hposted, hs, ht']

/-! ### What the abstract object does can be seen -/

/-- The cases of the view. -/
inductive State.Seen (s : State R) : Stream R → Prop
  | ready (hbegun : s.nextOp = 0 ∨ (s.ops (s.nextOp - 1)).begun = true) :
      Seen s ⟨s.nextOp, .ready⟩
  | started (op : ℕ) (hlast : op + 1 = s.nextOp) (hout : (s.ops op).outcome = none)
      (hfly : s.inFlight = none) : Seen s ⟨op, .started s.args⟩
  | submitted (op : ℕ) (sub : Submission) (hlast : op + 1 = s.nextOp)
      (hfly : s.inFlight = some sub) : Seen s ⟨op, .submitted sub.args⟩
  | reported (op : ℕ) (o : Outcome R) (hlast : op + 1 = s.nextOp)
      (hbegun : (s.ops op).begun = false) (hout : (s.ops op).outcome = some o) :
      Seen s ⟨op, .reported o⟩

omit [Inhabited R] [DecidableEq R] in
lemma State.seen_view (s : State R) : s.Seen s.view := by
  cases hn : s.nextOp with
  | zero =>
    rw [State.view_of_begun (.inl hn)]
    exact .ready (.inl hn)
  | succ op =>
    cases hbegun : (s.ops op).begun with
    | true =>
      have hready : s.nextOp = 0 ∨ (s.ops (s.nextOp - 1)).begun = true := by
        rw [hn, Nat.add_sub_cancel]
        exact .inr hbegun
      rw [State.view_of_begun hready]
      exact .ready hready
    | false =>
      cases hout : (s.ops op).outcome with
      | some o =>
        rw [State.view_of_reported hn.symm hbegun hout]
        exact .reported op o hn.symm hbegun hout
      | none =>
        cases hfly : s.inFlight with
        | none =>
          rw [State.view_of_started hn.symm hbegun hout hfly]
          exact .started op hn.symm hout hfly
        | some sub =>
          rw [State.view_of_submitted hn.symm hbegun hout hfly]
          exact .submitted op sub hn.symm hfly

/-- The due steps of which nothing is seen. -/
def Hidden (s : State R) (a : Action R) : Prop := Due s a ∧ observe s a = none

/-- The runs that keep to both conditions. -/
def Careful (s : State R) (a : Action R) : Prop := InTurn s a ∧ NoResetPending s a

/-- What is known of a transfer that shows the run of the abstract object up to `u`. -/
structure Follows (s : State R) (u : Stream R) : Prop where
  turns : Turns s
  inv : Inv s
  view : s.view = u

variable {u v : Stream R}

omit [DecidableEq R] in
/-- The hidden steps can be taken to the end. -/
lemma Follows.drain (h : Follows s u) :
    ∃ t, Shows Transfer.step Careful observe s [] t ∧ Follows t u ∧
      Stuck Transfer.step Hidden t := by
  have hstep : ∀ (s : State R) a t, Follows s u → Hidden s a → Transfer.step s a = some t →
      Follows t u ∧ t.work < s.work := by
    intro s a t hs ⟨hdue, hhidden⟩ ht
    have hturn := inTurn_of_due hdue
    have hwork := (due_step ⟨hs.turns.wellFormed, hs.inv⟩ hdue ht).2.1
    exact ⟨⟨turns_step hs.turns hturn ht, inv_step hs.inv hturn hdue.2 ht,
      (view_of_unseen hhidden ht).trans hs.view⟩, hwork⟩
  obtain ⟨as, t, hrun, hhidden, ht, hstuck⟩ := exists_stuck hstep h
  refine ⟨t, ⟨as, hrun, ?_, ?_⟩, ht, hstuck⟩
  · exact hhidden.imp fun s a ha => ⟨inTurn_of_due ha.1, ha.1.2⟩
  · exact trace_of_unseen (hhidden.imp fun s a ha => ha.2)

/-- With no hidden step left, no thread is inside a completion or about to store a handler. -/
structure Drained (s : State R) : Prop where
  callback : s.callbackPc = .idle
  called : ∀ op, (s.ops op).pc ≠ .called
  failed : ∀ op ec, (s.ops op).pc ≠ .failed ec

omit [DecidableEq R] in
lemma drained_of_stuck (h : s.crashed = false) (hstuck : Stuck Transfer.step Hidden s) :
    Drained s := by
  have hcb : s.callbackPc = .idle := by
    cases hcb : s.callbackPc with
    | idle => rfl
    | running op o =>
      have hnone := hstuck .postResult ⟨⟨rfl, trivial⟩, rfl⟩
      simp [step_of_alive h, next, hcb] at hnone
    | resetting =>
      have hnone := hstuck .resetSlot ⟨⟨rfl, trivial⟩, rfl⟩
      simp [step_of_alive h, next, hcb] at hnone
  refine ⟨hcb, ?_, ?_⟩
  · intro op hpc
    have hreset : ¬ s.ResetPending := by
      rintro (hcb' | ⟨k, -, hk⟩)
      · simp [hcb] at hcb'
      · have hnone := hstuck (.resetError k) ⟨⟨rfl, trivial⟩, rfl⟩
        simp [step_of_alive h, next, hk] at hnone
    have hnone := hstuck (.initiate op) ⟨⟨rfl, hreset⟩, rfl⟩
    simp [step_of_alive h, next, hpc] at hnone
  · intro op ec hpc
    have hnone := hstuck (.postError op) ⟨⟨rfl, trivial⟩, rfl⟩
    simp [step_of_alive h, next, hpc] at hnone

omit [DecidableEq R] in
/-- An operation that has been started, and of which nothing is known yet, is stored. -/
lemma Drained.stored (hd : Drained s) (h : Inv s) (hlast : op + 1 = s.nextOp)
    (hout : (s.ops op).outcome = none) (hfly : s.inFlight = none) :
    (s.ops op).pc = .stored := by
  cases h.phase with
  | resting hall _ =>
    rcases hall op (by omega) with hc | ⟨-, hc⟩
    · obtain ⟨o, hsome, -⟩ := hc.posted
      simp [hout] at hsome
    · exact absurd hc.pc (hd.called op)
  | outstanding k hlast' _ _ _ hstage =>
    obtain rfl : k = op := by omega
    cases hstage with
    | stored hpc => exact hpc
    | failed ec _ hout' | running o _ hout' => simp [hout] at hout'
    | inFlight args _ _ hfly' => simp [hfly] at hfly'

omit [DecidableEq R] in
/-- A handler whose arguments are known has been posted. -/
lemma Drained.posted (hd : Drained s) (h : Inv s) {o : Outcome R}
    (hout : (s.ops op).outcome = some o) : (s.ops op).posted = [o] := by
  have hdelivered := h.delivered op
  rw [State.Delivered, hout] at hdelivered
  rcases hdelivered with hposted | ⟨-, hpc | hcb⟩
  · exact hposted
  · exact absurd hpc (hd.failed op o.ec)
  · simp [hd.callback] at hcb

omit [DecidableEq R] in
/-- A seen step leads on. -/
lemma Follows.shows (h : Follows s u) {a : Action R} {e : Event R}
    (ht : Transfer.step s a = some t) (ha : Careful s a) (hobs : observe s a = some e)
    (hview : t.view = v) :
    ∃ t, Shows Transfer.step Careful observe s [e] t ∧ Follows t v := by
  have hshows : Shows Transfer.step Careful observe s (observe s a).toList t := .single ht ha
  rw [hobs] at hshows
  exact ⟨t, hshows, turns_step h.turns ha.1 ht, inv_step h.inv ha.1 ha.2 ht, hview⟩

lemma realizes_serial : Realizes Transfer.step Careful (observe (R := R)) Serial.step
    Follows := by
  intro s₀ u e v h₀ hv
  -- first the hidden steps that are due; what is left to take is the step that is seen
  obtain ⟨s, hdrain, h, hstuck⟩ := h₀.drain
  have halive := h.inv.alive
  have hd := drained_of_stuck halive hstuck
  suffices hone : ∃ t, Shows Transfer.step Careful observe s [e] t ∧ Follows t v by
    obtain ⟨t, ht, hfollows⟩ := hone
    exact ⟨t, hdrain.append ht, hfollows⟩
  have hseen := s.seen_view
  rw [h.view] at hseen
  -- each state of the object allows few events, and the transfer can take the step of each
  cases hseen with
  | ready hbegun =>
    cases e with
    | start op args =>
      obtain ⟨rfl, rfl⟩ := Option.ite_some_none_eq_some.mp hv
      have ht : Transfer.step s (.call args) = some _ := step_of_alive halive _
      exact h.shows ht ⟨hbegun, trivial⟩ rfl (h.turns.view_call hbegun ht).2
    | refuse | accept | complete | invoke => cases hv
  | started op hlast hout hfly =>
    have hpc := hd.stored h.inv hlast hout hfly
    obtain ⟨-, -, hret⟩ := h.turns.stored hpc
    have hsome : ∀ retCode, ∃ t, Transfer.step s (.submit op retCode) = some t := by
      intro retCode
      rw [step_of_alive halive, next, hpc]
      dsimp only
      split_ifs <;> exact ⟨_, rfl⟩
    cases e with
    | refuse op' retCode =>
      obtain ⟨⟨rfl, hneg⟩, rfl⟩ := Option.ite_some_none_eq_some.mp hv
      obtain ⟨t, ht⟩ := hsome retCode
      obtain ⟨-, ⟨-, hobs, hview⟩ | ⟨hpos, -⟩⟩ := h.turns.view_submit ht
      · exact h.shows ht ⟨trivial, trivial⟩ hobs hview
      · exact absurd hneg hpos
    | accept op' args =>
      obtain ⟨⟨rfl, rfl⟩, rfl⟩ := Option.ite_some_none_eq_some.mp hv
      obtain ⟨t, ht⟩ := hsome 0
      obtain ⟨-, ⟨hneg, -⟩ | ⟨-, hobs, hview⟩⟩ := h.turns.view_submit ht
      · exact absurd hneg (lt_irrefl 0)
      · exact h.shows ht ⟨trivial, trivial⟩ hobs hview
    | start | complete | invoke => cases hv
  | submitted op sub hlast hfly =>
    cases e with
    | complete op' status result =>
      obtain ⟨rfl, rfl⟩ := Option.ite_some_none_eq_some.mp hv
      have hsub := h.turns.last_of_inFlight hfly
      obtain rfl : sub.op = op' := by omega
      have hsome : ∃ t, Transfer.step s (.complete status result) = some t := by
        rw [step_of_alive halive, next, hfly, hd.callback]
        exact ⟨_, rfl⟩
      obtain ⟨t, ht⟩ := hsome
      obtain ⟨sub', hfly', -, hview⟩ := h.turns.view_complete ht
      obtain rfl : sub = sub' := Option.some.inj (hfly.symm.trans hfly')
      exact h.shows ht ⟨trivial, trivial⟩ (by rw [observe, hfly]; rfl) hview
    | start | refuse | accept | invoke => cases hv
  | reported op o hlast hbegun hout =>
    cases e with
    | invoke op' posted =>
      obtain ⟨⟨rfl, rfl⟩, rfl⟩ := Option.ite_some_none_eq_some.mp hv
      have hposted := hd.posted h.inv hout
      have hsome : ∃ t, Transfer.step s (.runHandler op') = some t := by
        simp [step_of_alive halive, next, hposted, hbegun]
      obtain ⟨t, ht⟩ := hsome
      obtain ⟨o', -, -, hview⟩ := h.turns.view_runHandler ht
      exact h.shows ht ⟨trivial, trivial⟩ (by rw [observe, hposted]) hview
    | start | refuse | accept | complete => cases hv

/-! ### All runs -/

/-- What is seen of a transfer whose operations are started in turn, whatever the threads do, is
what the abstract object can do, and nothing less: a list of events is seen in some run exactly
when it is a run of the abstract object. -/
theorem seen_iff_serial (events : List (Event R)) :
    (∃ t, Shows Transfer.step InTurn observe (init R) events t) ↔
      ∃ u, exec Serial.step (Serial.start R) events = some u := by
  constructor
  · rintro ⟨t, as, hrun, hturn, rfl⟩
    obtain ⟨u, hu, -⟩ := simulates_serial.exec_trace ⟨turns_init, view_init⟩ hturn hrun
    exact ⟨u, hu⟩
  · rintro ⟨u, hu⟩
    have hinit : Follows (init R) (Serial.start R) := ⟨turns_init, inv_init, view_init⟩
    obtain ⟨t, ⟨as, hrun, hcareful, htrace⟩, -⟩ := realizes_serial.shows hinit hu
    exact ⟨t, as, hrun, hcareful.imp fun _ _ h => h.1, htrace⟩

end UsbAsio.Transfer
