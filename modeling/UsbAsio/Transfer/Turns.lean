import UsbAsio.Transfer.Completion
import UsbAsio.Transfer.Pending

/-!
# Operations that are started in turn

What can be relied on when every operation is started in turn, even if a handler is lost to a reset
of the slot: only the latest operation can be under way, and a handler that is posted is that
operation's own, with its own outcome.
-/

namespace UsbAsio.Transfer

open Transition

variable {R : Type*}

/-! ### The invariant -/

/-- The record of an operation, but for the fate of its handler. -/
def Op.visible (r : Op R) : Op R := { r with destroyed := false }

/-- How far one operation has come. -/
structure Local [Inhabited R] (s : State R) (op : ℕ) : Prop where
  early : (s.ops op).pc = .idle ∨ (s.ops op).pc = .called ∨ (s.ops op).pc = .stored →
    (s.ops op).outcome = none ∧ (s.ops op).posted = []
  failed : ∀ ec, (s.ops op).pc = .failed ec →
    (s.ops op).outcome = some ⟨ec, default⟩ ∧ (s.ops op).posted = []
  posted : (s.ops op).posted = [] ∨
    ∃ o, (s.ops op).outcome = some o ∧ (s.ops op).posted = [o]
  ran : (s.ops op).begun = true → (s.ops op).posted ≠ []
  inFlight : ∀ args, s.inFlight = some ⟨op, args⟩ →
    (s.ops op).pc = .done ∧ (s.ops op).outcome = none ∧ (s.ops op).posted = []
  running : ∀ o, s.callbackPc = .running op o →
    (s.ops op).pc = .done ∧ (s.ops op).outcome = some o ∧ (s.ops op).posted = []

/-- The slot is empty or holds the handler that was stored last. -/
def State.LatestInSlot (s : State R) : Prop :=
  ∀ k, s.slot = some k → (s.ops k).Initiated ∧ ∀ op, (s.ops op).Initiated → op ≤ k

structure Turns [Inhabited R] (s : State R) : Prop where
  wellFormed : WellFormed s
  known : ∀ op, Local s op
  begun : ∀ op, op + 1 < s.nextOp → (s.ops op).begun = true
  slot : s.LatestInSlot

lemma State.destroyStored_visible (s : State R) (op : ℕ) :
    (s.destroyStored.ops op).visible = (s.ops op).visible := by
  simp only [State.destroyStored]
  split_ifs <;> rfl

variable [Inhabited R] {s t : State R} {op : ℕ}

lemma turns_init : Turns (init R) where
  wellFormed := wellFormed_init
  known _ := ⟨fun _ => ⟨rfl, rfl⟩, nofun, .inl rfl, nofun, nofun, nofun⟩
  begun _ h := absurd h (Nat.not_lt_zero _)
  slot := nofun

/-- Only the latest operation has not been posted. -/
lemma Turns.last (h : Turns s) (hnew : s.ops op ≠ {}) (hnil : (s.ops op).posted = []) :
    op + 1 = s.nextOp := by
  have hlt := h.wellFormed.lt_nextOp hnew
  by_contra hne
  exact (h.known op).ran (h.begun op (by omega)) hnil

lemma Turns.last_of_inFlight (h : Turns s) {sub : Submission} (hfly : s.inFlight = some sub) :
    sub.op + 1 = s.nextOp := by
  obtain ⟨hpc, -, hnil⟩ := (h.known sub.op).inFlight sub.args hfly
  exact h.last (fun hnew => by simp [hnew] at hpc) hnil

/-- What is in the slot is the handler of the operation under way. -/
lemma Turns.slot_eq (h : Turns s) {k : ℕ} (hslot : s.slot = some k)
    (hinit : (s.ops op).Initiated) (hnil : (s.ops op).posted = []) : k = op := by
  have hnew : s.ops op ≠ {} := fun hnew => hinit.1 (by rw [hnew])
  have hlast := h.last hnew hnil
  have hk := h.wellFormed.slot k hslot
  have hle := (h.slot k hslot).2 op hinit
  omega

/-! ### Parts of a step -/

/-- An operation that a step does not touch has come as far as before. -/
lemma Local.congr (h : Local s op) (hsame : (t.ops op).visible = (s.ops op).visible)
    (hfly : ∀ args, t.inFlight = some ⟨op, args⟩ → s.inFlight = some ⟨op, args⟩)
    (hcb : ∀ o, t.callbackPc = .running op o → s.callbackPc = .running op o) : Local t op := by
  have hpc : (t.ops op).pc = (s.ops op).pc := (congrArg Op.pc hsame :)
  have hout : (t.ops op).outcome = (s.ops op).outcome := (congrArg Op.outcome hsame :)
  have hposted : (t.ops op).posted = (s.ops op).posted := (congrArg Op.posted hsame :)
  have hbegun : (t.ops op).begun = (s.ops op).begun := (congrArg Op.begun hsame :)
  constructor
  · rw [hpc, hout, hposted]
    exact h.early
  · rw [hpc, hout, hposted]
    exact h.failed
  · rw [hout, hposted]
    exact h.posted
  · rw [hbegun, hposted]
    exact h.ran
  · rw [hpc, hout, hposted]
    exact fun args hargs => h.inFlight args (hfly args hargs)
  · rw [hpc, hout, hposted]
    exact fun o ho => h.running o (hcb o ho)

lemma Local.not_inFlight (h : Local s op) (hpc : (s.ops op).pc ≠ .done) (args : Args) :
    s.inFlight ≠ some ⟨op, args⟩ := fun hfly => hpc (h.inFlight args hfly).1

lemma Local.not_running (h : Local s op) (hpc : (s.ops op).pc ≠ .done) (o : Outcome R) :
    s.callbackPc ≠ .running op o := fun hcb => hpc (h.running o hcb).1

lemma Local.not_begun (h : Local s op) (hnil : (s.ops op).posted = []) :
    (s.ops op).begun = false := by
  cases hbegun : (s.ops op).begun with
  | false => rfl
  | true => exact absurd hnil (h.ran hbegun)

/-- A step of the operation `k`. -/
lemma Turns.setOp {s₁ : State R} {k : ℕ} {f : Op R → Op R} (h : Turns s)
    (hwf : WellFormed (s₁.setOp k f)) (hnext : s₁.nextOp = s.nextOp)
    (hsame : ∀ op, (s₁.ops op).visible = (s.ops op).visible)
    (hfly : ∀ op ≠ k, ∀ args, s₁.inFlight = some ⟨op, args⟩ → s.inFlight = some ⟨op, args⟩)
    (hcb : ∀ op ≠ k, ∀ o, s₁.callbackPc = .running op o → s.callbackPc = .running op o)
    (hk : Local (s₁.setOp k f) k)
    (hbegun : (s.ops k).begun = true → (f (s₁.ops k)).begun = true)
    (hslot : (s₁.setOp k f).LatestInSlot) : Turns (s₁.setOp k f) := by
  refine ⟨hwf, fun op => ?_, fun op hop => ?_, hslot⟩
  · by_cases hop : op = k
    · rw [hop]
      exact hk
    · refine (h.known op).congr ?_ (hfly op hop) (hcb op hop)
      rw [State.setOp_of_ne _ _ hop, hsame]
  · rw [State.setOp_nextOp, hnext] at hop
    by_cases hne : op = k
    · rw [hne, State.setOp_self]
      exact hbegun (hne ▸ h.begun op hop)
    · rw [State.setOp_of_ne _ _ hne]
      exact ((congrArg Op.begun (hsame op) :)).trans (h.begun op hop)

omit [Inhabited R] in
lemma State.LatestInSlot.of_empty (h : s.slot = none) : s.LatestInSlot := by
  intro k hk
  rw [h] at hk
  cases hk

omit [Inhabited R] in
/-- No handler is stored, and the slot is left alone or emptied. -/
lemma State.LatestInSlot.congr (h : s.LatestInSlot) (hslot : ∀ k, t.slot = some k → s.slot = some k)
    (hinit : ∀ op, (t.ops op).Initiated ↔ (s.ops op).Initiated) : t.LatestInSlot := by
  intro k hk
  obtain ⟨hk', hlast⟩ := h k (hslot k hk)
  exact ⟨(hinit k).mpr hk', fun op hop => hlast op ((hinit op).mp hop)⟩

omit [Inhabited R] in
/-- An operation whose thread is past the initiation counts as initiated. -/
lemma initiated_iff_of_setOp {s₁ : State R} {k : ℕ} {f : Op R → Op R}
    (hsame : ∀ op, (s₁.ops op).visible = (s.ops op).visible)
    (hk : (f (s₁.ops k)).Initiated ↔ (s.ops k).Initiated) (op : ℕ) :
    ((s₁.setOp k f).ops op).Initiated ↔ (s.ops op).Initiated := by
  by_cases hop : op = k
  · rw [hop, State.setOp_self]
    exact hk
  · have hpc : (s₁.ops op).pc = (s.ops op).pc := (congrArg Op.pc (hsame op) :)
    rw [State.setOp_of_ne _ _ hop, Op.Initiated, Op.Initiated, hpc]

/-! ### Steps -/

lemma Turns.call (h : Turns s) (args : Args) (hturn : InTurn s (.call args))
    (ht : step s (.call args) = some t) : Turns t := by
  have hwf := h.wellFormed.of_step ht
  have hnew : s.ops s.nextOp = {} := h.wellFormed.fresh _ le_rfl
  cases (Rule.of_step ht).2 with
  | call =>
    have hother : ∀ op, op ≠ s.nextOp → ({ s with args := args, nextOp := s.nextOp + 1 }.setOp
        s.nextOp fun r => { r with pc := .called }).ops op = s.ops op :=
      fun op hop => State.setOp_of_ne _ _ hop
    -- the operation before the new one is not the last any more: it has begun, by `hturn`
    refine ⟨hwf, fun op => ?_, fun op (hop : op + 1 < s.nextOp + 1) => ?_, fun k hk => ?_⟩
    · by_cases hop : op = s.nextOp
      · have hlocal := h.known s.nextOp
        have hfly := hlocal.not_inFlight (by simp [hnew])
        have hcb := hlocal.not_running (by simp [hnew])
        rw [hop]
        constructor <;> simp [hnew, hfly, hcb]
      · exact (h.known op).congr (by rw [hother op hop]) (fun _ => id) (fun _ => id)
    · rw [hother op (by omega)]
      by_cases hlast : op + 1 = s.nextOp
      · rcases hturn with hzero | hbegun
        · omega
        · rwa [← hlast] at hbegun
      · exact h.begun op (by omega)
    · have hlt := h.wellFormed.slot k hk
      obtain ⟨hinit, hlast⟩ := h.slot k hk
      refine ⟨by rwa [hother k hlt.ne], fun op hop => ?_⟩
      by_cases hne : op = s.nextOp
      · rw [hne, State.setOp_self] at hop
        exact absurd rfl hop.2
      · rw [hother op hne] at hop
        exact hlast op hop

lemma Turns.initiate (h : Turns s) (ht : step s (.initiate op) = some t) : Turns t := by
  have hwf := h.wellFormed.of_step ht
  cases (Rule.of_step ht).2 with
  | initiate _ hpc =>
    have hlocal := h.known op
    obtain ⟨hout, hnil⟩ := hlocal.early (.inr (.inl hpc))
    have hlast := h.last (fun hnew => by simp [hnew] at hpc) hnil
    have hsame := s.destroyStored_visible
    have hout' : (s.destroyStored.ops op).outcome = none :=
      (congrArg Op.outcome (hsame op) :).trans hout
    have hnil' : (s.destroyStored.ops op).posted = [] :=
      (congrArg Op.posted (hsame op) :).trans hnil
    have hbegun' : (s.destroyStored.ops op).begun = (s.ops op).begun :=
      (congrArg Op.begun (hsame op) :)
    refine h.setOp hwf rfl hsame (fun _ _ _ => id) (fun _ _ _ => id) ?_ ?_ ?_
    · have hfly := hlocal.not_inFlight (by simp [hpc])
      have hcb := hlocal.not_running (by simp [hpc])
      have hnot := hlocal.not_begun hnil
      constructor <;> simp [State.storeHandler, hout', hnil', hbegun', hnot, hfly, hcb]
    · exact fun hbegun => hbegun'.trans hbegun
    · intro k hk
      obtain rfl : op = k := Option.some.inj hk
      refine ⟨by simp [Op.Initiated], fun op' hop' => ?_⟩
      have hlt : op' < s.nextOp := hwf.lt_nextOp fun hnew => hop'.1 (by rw [hnew])
      omega

lemma Turns.submit (h : Turns s) {retCode : ℤ} (ht : step s (.submit op retCode) = some t) :
    Turns t := by
  have hwf := h.wellFormed.of_step ht
  have hlocal := h.known op
  cases (Rule.of_step ht).2 with
  | refused _ _ ec hpc =>
    obtain ⟨hout, hnil⟩ := hlocal.early (.inr (.inr hpc))
    refine h.setOp hwf rfl (fun _ => rfl) (fun _ _ _ => id) (fun _ _ _ => id) ?_ id ?_
    · have hfly := hlocal.not_inFlight (by simp [hpc])
      have hcb := hlocal.not_running (by simp [hpc])
      constructor <;> simp [hnil, hlocal.not_begun hnil, hfly, hcb]
    · refine h.slot.congr (fun _ => id) (initiated_iff_of_setOp (fun _ => rfl) ?_)
      simp [Op.Initiated, hpc]
  | accepted _ _ hpc =>
    obtain ⟨hout, hnil⟩ := hlocal.early (.inr (.inr hpc))
    refine h.setOp hwf rfl (fun _ => rfl) ?_ (fun _ _ _ => id) ?_ id ?_
    · intro op' hop' args hargs
      obtain ⟨rfl, -⟩ : op = op' ∧ s.args = args := by simpa using hargs
      exact absurd rfl hop'
    · have hcb := hlocal.not_running (by simp [hpc])
      constructor <;> simp [hout, hnil, hlocal.not_begun hnil, hcb]
    · refine h.slot.congr (fun _ => id) (initiated_iff_of_setOp (fun _ => rfl) ?_)
      simp [Op.Initiated, hpc]

lemma Turns.postError (h : Turns s) (ht : step s (.postError op) = some t) : Turns t := by
  have hwf := h.wellFormed.of_step ht
  have hlocal := h.known op
  cases (Rule.of_step ht).2 with
  | postError _ ec hpc =>
    obtain ⟨hout, hnil⟩ := hlocal.failed ec hpc
    have hinit : (s.ops op).Initiated := by simp [Op.Initiated, hpc]
    have hfly := hlocal.not_inFlight (by simp [hpc])
    have hcb := hlocal.not_running (by simp [hpc])
    cases hslot : s.slot with
    | none =>
      rw [State.invokeHandler_of_empty hslot] at hwf ⊢
      refine h.setOp hwf rfl (fun _ => rfl) (fun _ _ _ => id) (fun _ _ _ => id) ?_ id ?_
      · constructor <;> simp [hnil, hlocal.not_begun hnil, hfly, hcb]
      · exact .of_empty hslot
    | some k =>
      obtain rfl := h.slot_eq hslot hinit hnil
      rw [State.invokeHandler_of_slot hslot, State.setOp_setOp] at hwf ⊢
      refine h.setOp hwf rfl (fun _ => rfl) (fun _ _ _ => id) (fun _ _ _ => id) ?_ id ?_
      · constructor <;> simp [hout, hnil, hfly, hcb]
      · refine h.slot.congr (fun _ => id) (initiated_iff_of_setOp (fun _ => rfl) ?_)
        simp [Op.Initiated, hpc]

lemma Turns.resetError (h : Turns s) (ht : step s (.resetError op) = some t) : Turns t := by
  have hwf := h.wellFormed.of_step ht
  cases (Rule.of_step ht).2 with
  | resetError _ hpc =>
    have hsame : ∀ op, (s.resetHandler.ops op).visible = (s.ops op).visible :=
      s.destroyStored_visible
    have hlocal : Local s.resetHandler op :=
      (h.known op).congr (hsame op) (fun _ => id) (fun _ => id)
    have hpc' : (s.resetHandler.ops op).pc = .resetting :=
      (congrArg Op.pc (hsame op) :).trans hpc
    refine h.setOp hwf rfl hsame (fun _ _ _ => id) (fun _ _ _ => id) ?_ ?_ nofun
    · have hfly := hlocal.not_inFlight (by simp [hpc'])
      have hcb := hlocal.not_running (by simp [hpc'])
      refine ⟨by simp, by simp, ?_, ?_, fun args hargs => absurd hargs (hfly args),
        fun o ho => absurd ho (hcb o)⟩
      · rw [State.setOp_self]
        exact hlocal.posted
      · rw [State.setOp_self]
        exact hlocal.ran
    · exact fun hbegun => (congrArg Op.begun (hsame op) :).trans hbegun

lemma Turns.resetSlot (h : Turns s) (ht : step s .resetSlot = some t) : Turns t := by
  have hwf := h.wellFormed.of_step ht
  cases (Rule.of_step ht).2 with
  | resetSlot =>
    have hsame : ∀ op, (s.resetHandler.ops op).visible = (s.ops op).visible :=
      s.destroyStored_visible
    refine ⟨hwf, fun op => ?_, fun op hop => ?_, nofun⟩
    · exact (h.known op).congr (hsame op) (fun _ => id) nofun
    · exact (congrArg Op.begun (hsame op) :).trans (h.begun op hop)

lemma Turns.complete (h : Turns s) {status : ℤ} {result : R}
    (ht : step s (.complete status result) = some t) : Turns t := by
  have hwf := h.wellFormed.of_step ht
  cases (Rule.of_step ht).2 with
  | complete _ _ sub hfly =>
    have hlocal := h.known sub.op
    obtain ⟨hpc, hout, hnil⟩ := hlocal.inFlight sub.args hfly
    refine h.setOp hwf rfl (fun _ => rfl) nofun ?_ ?_ id ?_
    · intro op hop o ho
      cases ho
      exact absurd rfl hop
    · constructor <;> simp [hpc, hnil, hlocal.not_begun hnil]
    · exact h.slot.congr (fun _ => id) (initiated_iff_of_setOp (fun _ => rfl) Iff.rfl)

lemma Turns.postResult (h : Turns s) (ht : step s .postResult = some t) : Turns t := by
  have hwf := h.wellFormed.of_step ht
  cases (Rule.of_step ht).2 with
  | postResult op o hcb =>
    have hlocal := h.known op
    obtain ⟨hpc, hout, hnil⟩ := hlocal.running o hcb
    have hinit : (s.ops op).Initiated := by simp [Op.Initiated, hpc]
    cases hslot : s.slot with
    | none =>
      rw [State.invokeHandler_of_empty hslot] at hwf ⊢
      refine ⟨hwf, fun op => (h.known op).congr rfl (fun _ => id) ?_, h.begun, ?_⟩
      · intro o ho
        cases ho
      · exact .of_empty hslot
    | some k =>
      obtain rfl := h.slot_eq hslot hinit hnil
      have hfly : ∀ args, s.inFlight ≠ some ⟨k, args⟩ := by
        intro args hargs
        have hnone := (hlocal.inFlight args hargs).2.1
        rw [hout] at hnone
        cases hnone
      rw [State.invokeHandler_of_slot hslot] at hwf ⊢
      have hturns : Turns ({ s with callbackPc := .resetting }.setOp k
          fun r => { r with posted := o :: r.posted }) := by
        refine h.setOp hwf rfl (fun _ => rfl) (fun _ _ _ => id) ?_ ?_ id ?_
        · intro op _ o ho
          cases ho
        · constructor <;> simp [hpc, hout, hnil, hfly]
        · exact h.slot.congr (fun _ => id) (initiated_iff_of_setOp (fun _ => rfl) Iff.rfl)
      exact hturns

lemma Turns.runHandler (h : Turns s) (ht : step s (.runHandler op) = some t) : Turns t := by
  have hwf := h.wellFormed.of_step ht
  cases (Rule.of_step ht).2 with
  | runHandler _ hposted =>
    refine h.setOp hwf rfl (fun _ => rfl) (fun _ _ _ => id) (fun _ _ _ => id) ?_ (fun _ => rfl) ?_
    · have hlocal := h.known op
      refine ⟨?_, ?_, ?_, ?_, ?_, ?_⟩
      · simpa using hlocal.early
      · simpa using hlocal.failed
      · simpa using hlocal.posted
      · simpa using hposted
      · simpa using hlocal.inFlight
      · simpa using hlocal.running
    · exact h.slot.congr (fun _ => id) (initiated_iff_of_setOp (fun _ => rfl) Iff.rfl)

/-- Every step taken in turn keeps the invariant. -/
theorem turns_step {a : Action R} (h : Turns s) (hturn : InTurn s a) (ht : step s a = some t) :
    Turns t := by
  cases a with
  | call args => exact h.call args hturn ht
  | initiate op => exact h.initiate ht
  | submit op retCode => exact h.submit ht
  | postError op => exact h.postError ht
  | resetError op => exact h.resetError ht
  | cancel =>
    cases (Rule.of_step ht).2
    exact h
  | complete status result => exact h.complete ht
  | postResult => exact h.postResult ht
  | resetSlot => exact h.resetSlot ht
  | runHandler op => exact h.runHandler ht

/-! ### Outcomes -/

omit [Inhabited R] in
lemma State.invokeHandler_outcome (s : State R) (o : Outcome R) (op : ℕ) :
    ((s.invokeHandler o).ops op).outcome = (s.ops op).outcome :=
  s.invokeHandler_congr Op.outcome o (fun _ _ => rfl) op

/-- An outcome is known from a refused submission or from a completion. -/
lemma outcome_step {a : Action R} (hsubmit : ∀ op retCode, a ≠ .submit op retCode)
    (hcomplete : ∀ status result, a ≠ .complete status result) (ht : step s a = some t) :
    t.inFlight = s.inFlight ∧ ∀ op, (t.ops op).outcome = (s.ops op).outcome := by
  have hsame : ∀ op, (s.destroyStored.ops op).outcome = (s.ops op).outcome :=
    fun op => (congrArg Op.outcome (s.destroyStored_visible op) :)
  cases (Rule.of_step ht).2 with
  | refused op retCode | accepted op retCode => exact absurd rfl (hsubmit op retCode)
  | complete status result => exact absurd rfl (hcomplete status result)
  | cancel => exact ⟨rfl, fun _ => rfl⟩
  | call args => exact ⟨rfl, State.setOp_congr Op.outcome _ _ fun _ => rfl⟩
  | runHandler op => exact ⟨rfl, State.setOp_congr Op.outcome _ _ fun _ => rfl⟩
  | initiate op =>
    exact ⟨rfl, fun k => (State.setOp_congr Op.outcome _ op (fun _ => by rfl) k).trans (hsame k)⟩
  | resetError op =>
    exact ⟨rfl, fun k => (State.setOp_congr Op.outcome _ op (fun _ => by rfl) k).trans (hsame k)⟩
  | resetSlot => exact ⟨rfl, hsame⟩
  | postError op ec =>
    refine ⟨by simp, fun k => ?_⟩
    exact (State.setOp_congr Op.outcome _ op (fun _ => by rfl) k).trans
      (s.invokeHandler_outcome _ k)
  | postResult op o => exact ⟨by simp, s.invokeHandler_outcome o⟩

omit [Inhabited R] in
lemma State.outcome_setOp (s : State R) (k : ℕ) (f : Op R → Op R) (op : ℕ) :
    ((s.setOp k f).ops op).outcome =
      if op = k then (f (s.ops k)).outcome else (s.ops op).outcome := by
  split_ifs with hop
  · rw [hop, State.setOp_self]
  · rw [State.setOp_of_ne _ _ hop]

/-- A completion is the outcome of the operation that libusb had. -/
lemma outcome_complete {status : ℤ} {result : R} (ht : step s (.complete status result) = some t) :
    ∃ sub, s.inFlight = some sub ∧ t.inFlight = none ∧ t.nextOp = s.nextOp ∧
      ∀ op, (t.ops op).outcome =
        if op = sub.op then some ⟨makeTransferErrorCode status, result⟩
        else (s.ops op).outcome := by
  cases (Rule.of_step ht).2 with
  | complete _ _ sub hfly =>
    exact ⟨sub, hfly, rfl, rfl, State.outcome_setOp _ _ _⟩

/-- A submission fails with an outcome, or gives the operation to libusb. -/
lemma outcome_submit {retCode : ℤ} (ht : step s (.submit op retCode) = some t) :
    (s.ops op).pc = .stored ∧ t.nextOp = s.nextOp ∧
      let ec := (libusbTry (s.libusbSubmitTransfer retCode)).1
      (ec.isError = true ∧ t.inFlight = s.inFlight ∧ ∀ k, (t.ops k).outcome =
          if k = op then some ⟨ec, default⟩ else (s.ops k).outcome) ∨
        (ec.isError = false ∧ t.inFlight = some ⟨op, s.args⟩ ∧
          ∀ k, (t.ops k).outcome = (s.ops k).outcome) := by
  cases (Rule.of_step ht).2 with
  | refused _ _ ec hpc hec herr =>
    rw [← hec]
    exact ⟨hpc, rfl, .inl ⟨herr, rfl, State.outcome_setOp _ _ _⟩⟩
  | accepted _ _ hpc hok =>
    exact ⟨hpc, rfl, .inr ⟨hok, rfl, State.setOp_congr Op.outcome _ _ fun _ => rfl⟩⟩

/-- What is posted when a handler begins to run: the outcome of the latest operation. -/
lemma Turns.posted_of_run (h : Turns s) (ht : step s (.runHandler op) = some t) :
    op + 1 = s.nextOp ∧ ∃ o, (s.ops op).outcome = some o ∧ (s.ops op).posted = [o] := by
  have hposted : (s.ops op).posted ≠ [] := by
    cases (Rule.of_step ht).2 with
    | runHandler _ hposted => exact hposted
  have hbegun : (s.ops op).begun = false := by
    rw [step_of_alive (Rule.of_step ht).1, next] at ht
    by_contra hbegun
    simp [hbegun] at ht
  have hlt : op < s.nextOp := h.wellFormed.lt_nextOp fun hnew => hposted (by rw [hnew])
  refine ⟨?_, (h.known op).posted.resolve_left hposted⟩
  by_contra hlast
  rw [h.begun op (by omega)] at hbegun
  cases hbegun

end UsbAsio.Transfer
