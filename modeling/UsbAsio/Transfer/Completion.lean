import UsbAsio.Transfer.Basic

/-!
# Completion of operations

Both completion paths of a transfer post the stored handler and reset the slot afterwards. The
posted handler may already be running when the reset comes, and may have stored the handler of
the next operation. Under the condition that no operation is initiated in that window, every
operation is completed exactly once; a single initiation inside it loses a handler.
-/

namespace UsbAsio.Transfer

open Transition

variable {R : Type*} [Inhabited R]

/-! ### The property and the two conditions -/

/-- The outcome `o` of operation `op` is known and the thread that knows it has not posted
yet. -/
def State.AboutToPost (s : State R) (op : ℕ) (o : Outcome R) : Prop :=
  (s.ops op).pc = .failed o.ec ∨ s.callbackPc = .running op o

/-- An operation that libusb has reported on has had its own handler posted once, with its own
outcome, as soon as the thread that knows the outcome has taken its step. -/
def State.Delivered (s : State R) (op : ℕ) : Prop :=
  match (s.ops op).outcome with
  | none   => (s.ops op).posted = []
  | some o => (s.ops op).posted = [o] ∨ (s.ops op).posted = [] ∧ s.AboutToPost op o

/-- Every operation is delivered, no handler is destroyed before its post, and no empty slot is
called. -/
structure ExactlyOnce (s : State R) : Prop where
  alive : s.crashed = false
  kept : ∀ op, (s.ops op).destroyed = false
  delivered : ∀ op, s.Delivered op

/-- A new operation is called only when the handler of the previous one has begun to run. -/
def InTurn (s : State R) : Action R → Prop
  | .call _ => s.nextOp = 0 ∨ (s.ops (s.nextOp - 1)).begun = true
  | _       => True

/-- Some thread has posted a handler of this transfer and not yet reset the slot. -/
def State.ResetPending (s : State R) : Prop :=
  s.callbackPc = .resetting ∨ ∃ op < s.nextOp, (s.ops op).pc = .resetting

/-- A handler is stored only when no reset of the slot is pending. -/
def NoResetPending (s : State R) : Action R → Prop
  | .initiate _ => ¬ s.ResetPending
  | _           => True

instance (s : State R) (a : Action R) : Decidable (InTurn s a) :=
  match a with
  | .call _ => inferInstanceAs (Decidable (_ ∨ _))
  | .initiate _ | .submit _ _ | .postError _ | .resetError _ | .cancel | .complete _ _
  | .postResult | .resetSlot | .runHandler _ => inferInstanceAs (Decidable True)

instance [DecidableEq R] (s : State R) : Decidable s.ResetPending :=
  inferInstanceAs (Decidable (_ ∨ _))

instance [DecidableEq R] (s : State R) (a : Action R) : Decidable (NoResetPending s a) :=
  match a with
  | .initiate _ => inferInstanceAs (Decidable (¬ _))
  | .call _ | .submit _ _ | .postError _ | .resetError _ | .cancel | .complete _ _
  | .postResult | .resetSlot | .runHandler _ => inferInstanceAs (Decidable True)

/-! ### The invariant -/

structure Op.Completed (r : Op R) : Prop where
  posted : ∃ o, r.outcome = some o ∧ r.posted = [o]
  pc : r.pc = .resetting ∨ r.pc = .done

/-- No thread is inside a completion. -/
structure State.Quiet (s : State R) : Prop where
  callback : s.callbackPc = .idle
  submit : ∀ op, (s.ops op).pc ≠ .resetting

/-- Nothing is outstanding at libusb or on the event thread, and the slot is spent. -/
structure State.Resting (s : State R) : Prop where
  inFlight : s.inFlight = none
  callback : ∀ op o, s.callbackPc ≠ .running op o
  spent : s.Spent

/-- Called, and its initiation has not begun. -/
structure Op.Called (r : Op R) : Prop where
  pc : r.pc = .called
  outcome : r.outcome = none
  posted : r.posted = []

/-- The life of an operation between the store and the post of its handler. -/
inductive Stage (s : State R) (k : ℕ) : Prop
  | stored (hpc : (s.ops k).pc = .stored) (hout : (s.ops k).outcome = none)
      (hfree : s.inFlight = none) (hquiet : s.Quiet)
  | failed (ec : ErrorCode) (hpc : (s.ops k).pc = .failed ec)
      (hout : (s.ops k).outcome = some ⟨ec, default⟩) (hfree : s.inFlight = none)
      (hquiet : s.Quiet)
  | inFlight (args : Args) (hpc : (s.ops k).pc = .done) (hout : (s.ops k).outcome = none)
      (hfly : s.inFlight = some ⟨k, args⟩) (hquiet : s.Quiet)
  | running (o : Outcome R) (hpc : (s.ops k).pc = .done) (hout : (s.ops k).outcome = some o)
      (hfree : s.inFlight = none) (hcb : s.callbackPc = .running k o)
      (hquiet : ∀ op, (s.ops op).pc ≠ .resetting)

/-- Either the slot is spent and all operations but a freshly called one are completed, or the
slot holds the handler of the last operation, which is the only one not completed. -/
inductive Phase (s : State R) : Prop
  | resting (hdone : ∀ op < s.nextOp, (s.ops op).Completed ∨
        op + 1 = s.nextOp ∧ (s.ops op).Called) (hrest : s.Resting)
  | outstanding (k : ℕ) (hlast : s.nextOp = k + 1) (hdone : ∀ op < k, (s.ops op).Completed)
      (hposted : (s.ops k).posted = []) (hslot : s.slot = some k) (hstage : Stage s k)

structure Inv (s : State R) : Prop where
  alive : s.crashed = false
  kept : ∀ op, (s.ops op).destroyed = false
  ran : ∀ op, (s.ops op).begun = true → (s.ops op).posted ≠ []
  fresh : ∀ op, s.nextOp ≤ op → s.ops op = {}
  phase : Phase s

lemma inv_init : Inv (init R) where
  alive := rfl
  kept _ := rfl
  ran _ h := by simp [init] at h
  fresh _ _ := rfl
  phase := .resting (fun op h => absurd h (Nat.not_lt_zero op))
    ⟨rfl, fun _ _ h => by simp [init] at h, fun _ h => by simp [init] at h⟩

lemma Inv.lt_nextOp {s : State R} (h : Inv s) {op : ℕ} (hpc : (s.ops op).pc ≠ .idle) :
    op < s.nextOp := by
  by_contra hge
  rw [h.fresh op (Nat.le_of_not_lt hge)] at hpc
  exact hpc rfl

/-- An operation whose submission is under way is the outstanding one. -/
lemma Inv.outstanding {s : State R} (h : Inv s) {op : ℕ}
    (hpc : (s.ops op).pc = .stored ∨ ∃ ec, (s.ops op).pc = .failed ec) :
    s.nextOp = op + 1 ∧ (∀ op' < op, (s.ops op').Completed) ∧ (s.ops op).posted = [] ∧
      s.slot = some op ∧ Stage s op := by
  have hlt : op < s.nextOp := h.lt_nextOp (by rcases hpc with hpc | ⟨ec, hpc⟩ <;> simp [hpc])
  have hnot : ¬ (s.ops op).Completed := fun hc => by
    rcases hc.pc with hc | hc <;> rcases hpc with hpc | ⟨ec, hpc⟩ <;> simp [hc] at hpc
  cases h.phase with
  | resting hall _ =>
    rcases hall op hlt with hc | ⟨-, hc⟩
    · exact absurd hc hnot
    · rcases hpc with hpc | ⟨ec, hpc⟩ <;> simp [hc.pc] at hpc
  | outstanding k hlast hall hposted hslot hstage =>
    have hk : op = k := by
      by_contra hne
      exact hnot (hall op (by omega))
    subst hk
    exact ⟨hlast, hall, hposted, hslot, hstage⟩

/-! ### One step -/

lemma Inv.call {s : State R} (h : Inv s) (args : Args) (hturn : InTurn s (.call args)) :
    Inv ({ s with args := args, nextOp := s.nextOp + 1 }.setOp s.nextOp
      fun r => { r with pc := .called }) := by
  have hnew : s.ops s.nextOp = {} := h.fresh _ le_rfl
  -- the last operation has begun, so it has been posted
  have hlastPosted : ∀ k, s.nextOp = k + 1 → (s.ops k).posted ≠ [] := fun k hk => by
    rcases hturn with h0 | hbegun
    · omega
    · rw [hk, Nat.add_sub_cancel] at hbegun
      exact h.ran k hbegun
  cases h.phase with
  | outstanding k hlast _ hposted => exact absurd hposted (hlastPosted k hlast)
  | resting hall hrest =>
    have hold : ∀ op, op ≠ s.nextOp → ∀ f : Op R → Op R,
        ({ s with args := args, nextOp := s.nextOp + 1 }.setOp s.nextOp f).ops op = s.ops op :=
      fun op hne f => State.setOp_of_ne _ f hne
    refine ⟨h.alive, ?_, ?_, ?_, ?_⟩
    · intro op
      by_cases hop : op = s.nextOp
      · subst hop; simp [hnew]
      · rw [hold op hop]; exact h.kept op
    · intro op
      by_cases hop : op = s.nextOp
      · subst hop; simp [hnew]
      · rw [hold op hop]; exact h.ran op
    · intro op hop
      simp only [State.setOp_nextOp] at hop
      rw [hold op (by omega)]
      exact h.fresh op (by omega)
    · refine .resting (fun op hop => ?_) ⟨hrest.inFlight, hrest.callback, fun op hslot => ?_⟩
      · by_cases hne : op = s.nextOp
        · subst hne
          exact Or.inr ⟨rfl, by simp, by simp [hnew], by simp [hnew]⟩
        · have hlt : op < s.nextOp := by
            rw [State.setOp_nextOp] at hop
            exact lt_of_le_of_ne (Nat.le_of_lt_succ hop) hne
          rw [hold op hne]
          rcases hall op hlt with hc | ⟨hk, hc⟩
          · exact Or.inl hc
          · exact absurd hc.posted (hlastPosted op hk.symm)
      · have hne : op ≠ s.nextOp := by
          rintro rfl
          exact hrest.spent _ hslot (by rw [hnew])
        rw [hold op hne]
        exact hrest.spent op hslot

/-- `s₁` and `s` agree on the operations and on whether the process has crashed. -/
structure State.SameOps (s₁ s : State R) : Prop where
  ops : s₁.ops = s.ops
  nextOp : s₁.nextOp = s.nextOp
  crashed : s₁.crashed = s.crashed

/-- A step that changes the record of one operation keeps everything but the phase. -/
lemma Inv.setOp {s s₁ : State R} (h : Inv s) (hsame : s₁.SameOps s) {k : ℕ} (hk : k < s.nextOp)
    {f : Op R → Op R} (hkept : (f (s.ops k)).destroyed = false)
    (hran : (f (s.ops k)).begun = true → (f (s.ops k)).posted ≠ [])
    (hphase : Phase (s₁.setOp k f)) : Inv (s₁.setOp k f) := by
  have hself : (s₁.setOp k f).ops k = f (s.ops k) := by rw [State.setOp_self, hsame.ops]
  have hother : ∀ op, op ≠ k → (s₁.setOp k f).ops op = s.ops op := fun op hne => by
    rw [State.setOp_of_ne _ _ hne, hsame.ops]
  refine ⟨by rw [State.setOp_crashed, hsame.crashed, h.alive], ?_, ?_, ?_, hphase⟩
  · intro op
    by_cases hop : op = k
    · rw [hop, hself]; exact hkept
    · rw [hother op hop]; exact h.kept op
  · intro op
    by_cases hop : op = k
    · rw [hop, hself]; exact hran
    · rw [hother op hop]; exact h.ran op
  · intro op hop
    rw [State.setOp_nextOp, hsame.nextOp] at hop
    rw [hother op (by omega)]
    exact h.fresh op hop

/-- The outstanding operation moves to another stage. -/
lemma Inv.advance {s s₁ : State R} (h : Inv s) (hsame : s₁.SameOps s) {op : ℕ} {f : Op R → Op R}
    (hlast : s.nextOp = op + 1) (hdone : ∀ op' < op, (s.ops op').Completed)
    (hposted : (s.ops op).posted = [])
    (hf : ∀ r, (f r).posted = r.posted ∧ (f r).begun = r.begun ∧
      (f r).destroyed = r.destroyed)
    (hslot : s₁.slot = some op) (hstage : Stage (s₁.setOp op f) op) :
    Inv (s₁.setOp op f) := by
  obtain ⟨hfposted, hfbegun, hfkept⟩ := hf (s.ops op)
  refine h.setOp hsame (by omega) (by rw [hfkept, h.kept])
    (by rw [hfbegun, hfposted]; exact h.ran op) ?_
  refine .outstanding op (by rw [State.setOp_nextOp, hsame.nextOp, hlast]) (fun op' hop' => ?_) ?_
    hslot hstage
  · rw [State.setOp_of_ne _ _ (Nat.ne_of_lt hop'), hsame.ops]
    exact hdone op' hop'
  · rw [State.setOp_self, hsame.ops, hfposted, hposted]

/-- The handler of the outstanding operation is posted. -/
lemma Inv.finish {s s₁ : State R} (h : Inv s) (hsame : s₁.SameOps s) {op : ℕ} {f : Op R → Op R}
    (hlast : s.nextOp = op + 1) (hdone : ∀ op' < op, (s.ops op').Completed)
    (hf : (f (s.ops op)).Completed) (hkept : (f (s.ops op)).destroyed = false)
    (hfree : s₁.inFlight = none) (hcb : ∀ k o, s₁.callbackPc ≠ .running k o)
    (hslot : s₁.slot = some op) : Inv (s₁.setOp op f) := by
  obtain ⟨o, -, hposted⟩ := hf.posted
  refine h.setOp hsame (by omega) hkept (by simp [hposted]) ?_
  refine .resting (fun op' hop' => ?_) ⟨hfree, hcb, fun op' hop' => ?_⟩
  · left
    by_cases hne : op' = op
    · rw [hne, State.setOp_self, hsame.ops]
      exact hf
    · rw [State.setOp_nextOp, hsame.nextOp] at hop'
      rw [State.setOp_of_ne _ _ hne, hsame.ops]
      exact hdone op' (by omega)
  · have hself : op' = op := by simpa [hslot] using hop'.symm
    rw [hself, State.setOp_self, hsame.ops, hposted]
    exact List.cons_ne_nil _ _

omit [Inhabited R] in
/-- A quiet transfer stays quiet when an operation moves on to something else than a reset. -/
lemma State.Quiet.setOp {s s₁ : State R} (h : s.Quiet) (hops : s₁.ops = s.ops)
    (hcb : s₁.callbackPc = s.callbackPc) {k : ℕ} {f : Op R → Op R}
    (hf : (f (s.ops k)).pc ≠ .resetting) : (s₁.setOp k f).Quiet := by
  refine ⟨by rw [State.setOp_callbackPc, hcb, h.callback], ?_⟩
  intro op
  by_cases hop : op = k
  · rw [hop, State.setOp_self, hops]; exact hf
  · rw [State.setOp_of_ne _ _ hop, hops]; exact h.submit op

/-- With nothing running on the event thread and no reset pending, the transfer is quiet. -/
lemma Inv.quiet {s : State R} (h : Inv s) (hcb : ∀ op o, s.callbackPc ≠ .running op o)
    (hreset : ¬ s.ResetPending) : s.Quiet := by
  constructor
  · cases hs : s.callbackPc with
    | idle => rfl
    | running op o => exact absurd hs (hcb op o)
    | resetting => exact absurd (Or.inl hs) hreset
  · intro op hop
    by_cases hlt : op < s.nextOp
    · exact hreset (Or.inr ⟨op, hlt, hop⟩)
    · rw [h.fresh op (Nat.le_of_not_lt hlt)] at hop
      cases hop

lemma Inv.initiate {s : State R} (h : Inv s) {op : ℕ} (hpc : (s.ops op).pc = .called)
    (hreset : ¬ s.ResetPending) :
    Inv ((s.storeHandler op).setOp op fun r => { r with pc := .stored }) := by
  have hlt : op < s.nextOp := h.lt_nextOp (by simp [hpc])
  have hnot : ¬ (s.ops op).Completed := fun hc => by rcases hc.pc with hc | hc <;> simp [hpc] at hc
  cases h.phase with
  | resting hall hrest =>
    -- what the slot holds has been posted, so nothing is destroyed
    have hstore : s.storeHandler op = { s with slot := some op } := by
      rw [State.storeHandler, hrest.spent.destroyStored]
    have hquiet := h.quiet hrest.callback hreset
    obtain ⟨hlast, hcalled⟩ := (hall op hlt).resolve_left hnot
    rw [hstore]
    refine h.advance ?_ hlast.symm (fun op' hop' => ?_) hcalled.posted ?_ ?_ ?_
    · exact ⟨rfl, rfl, rfl⟩
    · exact (hall op' (by omega)).resolve_right (by omega)
    · exact fun _ => ⟨rfl, rfl, rfl⟩
    · rfl
    · exact .stored (by simp) (by simpa using hcalled.outcome) hrest.inFlight
        (hquiet.setOp (by rfl) (by rfl) (by simp))
  | outstanding k hlast hall _ _ hstage =>
    have hk : op = k := by
      by_contra hne
      exact hnot (hall op (by omega))
    subst hk
    cases hstage with
    | stored hpc' | failed _ hpc' | inFlight _ hpc' | running _ hpc' => simp [hpc] at hpc'

lemma Inv.refused {s : State R} (h : Inv s) {op : ℕ} (hpc : (s.ops op).pc = .stored)
    (ec : ErrorCode) :
    Inv (s.setOp op fun r => { r with pc := .failed ec, outcome := some ⟨ec, default⟩ }) := by
  obtain ⟨hlast, hdone, hposted, hslot, hstage⟩ := h.outstanding (Or.inl hpc)
  cases hstage with
  | stored _ hout hfree hquiet =>
    refine h.advance ?_ hlast hdone hposted ?_ ?_ ?_
    · exact ⟨rfl, rfl, rfl⟩
    · exact fun _ => ⟨rfl, rfl, rfl⟩
    · exact hslot
    · exact .failed ec (by simp) (by simp) hfree (hquiet.setOp (by rfl) (by rfl) (by simp))
  | failed _ hpc' | inFlight _ hpc' | running _ hpc' => simp [hpc] at hpc'

lemma Inv.accepted {s : State R} (h : Inv s) {op : ℕ} (hpc : (s.ops op).pc = .stored) :
    Inv ({ s with inFlight := some ⟨op, s.args⟩ }.setOp op fun r => { r with pc := .done }) := by
  obtain ⟨hlast, hdone, hposted, hslot, hstage⟩ := h.outstanding (Or.inl hpc)
  cases hstage with
  | stored _ hout hfree hquiet =>
    refine h.advance ?_ hlast hdone hposted ?_ ?_ ?_
    · exact ⟨rfl, rfl, rfl⟩
    · exact fun _ => ⟨rfl, rfl, rfl⟩
    · exact hslot
    · exact .inFlight s.args (by simp) (by simpa using hout) rfl
        (hquiet.setOp (by rfl) (by rfl) (by simp))
  | failed _ hpc' | inFlight _ hpc' | running _ hpc' => simp [hpc] at hpc'

lemma Inv.postError {s : State R} (h : Inv s) {op : ℕ} {ec : ErrorCode}
    (hpc : (s.ops op).pc = .failed ec) :
    Inv ((s.invokeHandler ⟨ec, default⟩).setOp op fun r => { r with pc := .resetting }) := by
  obtain ⟨hlast, hdone, hposted, hslot, hstage⟩ := h.outstanding (Or.inr ⟨ec, hpc⟩)
  cases hstage with
  | failed ec' hpc' hout hfree hquiet =>
    have hec : ec' = ec := by simpa [hpc] using hpc'.symm
    rw [State.invokeHandler_of_slot hslot, State.setOp_setOp]
    refine h.finish ⟨rfl, rfl, rfl⟩ hlast hdone ?_ (h.kept op) hfree
      (by simp [hquiet.callback]) hslot
    exact ⟨⟨⟨ec, default⟩, by simp [hout, hec], by simp [hposted]⟩, by simp⟩
  | stored hpc' | inFlight _ hpc' | running _ hpc' => simp [hpc] at hpc'

lemma Inv.complete {s : State R} (h : Inv s) {sub : Submission} (hfly : s.inFlight = some sub)
    (o : Outcome R) :
    Inv ({ s with inFlight := none, callbackPc := .running sub.op o }.setOp sub.op
      fun r => { r with outcome := some o }) := by
  cases h.phase with
  | resting _ hrest => simp [hrest.inFlight] at hfly
  | outstanding k hlast hdone hposted hslot hstage =>
    cases hstage with
    | inFlight args hpc hout hfly' hquiet =>
      have hsub : sub = ⟨k, args⟩ := by simpa [hfly] using hfly'
      subst hsub
      refine h.advance ?_ hlast hdone hposted ?_ ?_ ?_
      · exact ⟨rfl, rfl, rfl⟩
      · exact fun _ => ⟨rfl, rfl, rfl⟩
      · exact hslot
      · refine .running o (by simpa using hpc) (by simp) rfl rfl (fun op => ?_)
        rw [State.setOp_congr Op.pc _ k (fun _ => by rfl) op]
        exact hquiet.submit op
    | stored _ _ hfree | failed _ _ _ hfree | running _ _ _ hfree => simp [hfree] at hfly

lemma Inv.postResult {s : State R} (h : Inv s) {op : ℕ} {o : Outcome R}
    (hcb : s.callbackPc = .running op o) :
    Inv { s.invokeHandler o with callbackPc := .resetting } := by
  cases h.phase with
  | resting _ hrest => exact absurd hcb (hrest.callback op o)
  | outstanding k hlast hdone hposted hslot hstage =>
    cases hstage with
    | running o' hpc hout hfree hcb' hquiet =>
      have ho : o' = o := by
        rw [hcb'] at hcb
        cases hcb
        rfl
      rw [State.invokeHandler_of_slot hslot]
      have hpost : Inv ({ s with callbackPc := .resetting }.setOp k
          fun r => { r with posted := o :: r.posted }) := by
        refine h.finish ?_ hlast hdone ?_ ?_ ?_ ?_ ?_
        · exact ⟨rfl, rfl, rfl⟩
        · exact ⟨⟨o, by simp [hout, ho], by simp [hposted]⟩, by simp [hpc]⟩
        · exact h.kept k
        · exact hfree
        · simp
        · exact hslot
      exact hpost
    | stored _ _ _ hquiet | failed _ _ _ _ hquiet | inFlight _ _ _ _ hquiet =>
      simp [hquiet.callback] at hcb

/-- While a reset is pending, the slot is spent. -/
lemma Inv.resting {s : State R} (h : Inv s) (hreset : s.ResetPending) :
    s.Resting ∧ ∀ op < s.nextOp, (s.ops op).Completed ∨
      op + 1 = s.nextOp ∧ (s.ops op).Called := by
  cases h.phase with
  | resting hall hrest => exact ⟨hrest, hall⟩
  | outstanding k _ _ _ _ hstage =>
    have hnot : ¬ s.Quiet := fun hq => by
      rcases hreset with hcb | ⟨op, -, hop⟩
      · simp [hq.callback] at hcb
      · exact hq.submit op hop
    cases hstage with
    | stored _ _ _ hq | failed _ _ _ _ hq | inFlight _ _ _ _ hq => exact absurd hq hnot
    | running _ _ _ _ hcb hq =>
      rcases hreset with hcb' | ⟨op, -, hop⟩
      · simp [hcb] at hcb'
      · exact absurd hop (hq op)

lemma Inv.resetError {s : State R} (h : Inv s) {op : ℕ} (hpc : (s.ops op).pc = .resetting) :
    Inv (s.resetHandler.setOp op fun r => { r with pc := .done }) := by
  have hlt : op < s.nextOp := h.lt_nextOp (by simp [hpc])
  obtain ⟨hrest, hall⟩ := h.resting (Or.inr ⟨op, hlt, hpc⟩)
  rw [State.resetHandler, hrest.spent.destroyStored]
  refine h.setOp ?_ hlt ?_ ?_ ?_
  · exact ⟨rfl, rfl, rfl⟩
  · exact h.kept op
  · exact h.ran op
  refine .resting (fun op' hop' => ?_)
    ⟨hrest.inFlight, hrest.callback, fun op' hop' => by simp at hop'⟩
  by_cases hne : op' = op
  · rw [hne, State.setOp_self]
    rcases hall op hlt with hc | ⟨-, hc⟩
    · exact Or.inl ⟨hc.posted, Or.inr rfl⟩
    · simp [hc.pc] at hpc
  · rw [State.setOp_of_ne _ _ hne]
    exact hall op' hop'

lemma Inv.resetSlot {s : State R} (h : Inv s) (hcb : s.callbackPc = .resetting) :
    Inv { s.resetHandler with callbackPc := .idle } := by
  obtain ⟨hrest, hall⟩ := h.resting (Or.inl hcb)
  rw [State.resetHandler, hrest.spent.destroyStored]
  exact ⟨h.alive, h.kept, h.ran, h.fresh,
    .resting hall ⟨hrest.inFlight, by simp, fun op hop => by simp at hop⟩⟩

/-- A phase looks at the position, the outcome and the posts of the operations only. -/
lemma Phase.congr {s t : State R} (h : Phase s) (hslot : t.slot = s.slot)
    (hfly : t.inFlight = s.inFlight) (hcb : t.callbackPc = s.callbackPc)
    (hnext : t.nextOp = s.nextOp)
    (hops : ∀ op, (t.ops op).pc = (s.ops op).pc ∧ (t.ops op).outcome = (s.ops op).outcome ∧
      (t.ops op).posted = (s.ops op).posted) : Phase t := by
  have hdone : ∀ op, (s.ops op).Completed → (t.ops op).Completed := fun op hc => by
    obtain ⟨hpc, hout, hposted⟩ := hops op
    exact ⟨by rw [hout, hposted]; exact hc.posted, by rw [hpc]; exact hc.pc⟩
  have hcalled : ∀ op, (s.ops op).Called → (t.ops op).Called := fun op hc => by
    obtain ⟨hpc, hout, hposted⟩ := hops op
    exact ⟨by rw [hpc, hc.pc], by rw [hout, hc.outcome], by rw [hposted, hc.posted]⟩
  have hquiet : s.Quiet → t.Quiet := fun hq =>
    ⟨by rw [hcb, hq.callback], fun op => by rw [(hops op).1]; exact hq.submit op⟩
  cases h with
  | resting hall hrest =>
    refine .resting (fun op hop => ?_) ⟨by rw [hfly, hrest.inFlight], ?_, fun op hop => ?_⟩
    · rw [hnext] at hop ⊢
      exact (hall op hop).imp (hdone op) (And.imp_right (hcalled op))
    · rw [hcb]
      exact hrest.callback
    · rw [hslot] at hop
      rw [(hops op).2.2]
      exact hrest.spent op hop
  | outstanding k hlast hall hposted hs hstage =>
    obtain ⟨hpc, hout, hp⟩ := hops k
    refine .outstanding k (by rw [hnext, hlast]) (fun op hop => hdone op (hall op hop))
      (by rw [hp, hposted]) (by rw [hslot, hs]) ?_
    cases hstage with
    | stored hpc' hout' hfree hq =>
      exact .stored (by rw [hpc, hpc']) (by rw [hout, hout']) (by rw [hfly, hfree]) (hquiet hq)
    | failed ec hpc' hout' hfree hq =>
      exact .failed ec (by rw [hpc, hpc']) (by rw [hout, hout']) (by rw [hfly, hfree])
        (hquiet hq)
    | inFlight args hpc' hout' hfly' hq =>
      exact .inFlight args (by rw [hpc, hpc']) (by rw [hout, hout']) (by rw [hfly, hfly'])
        (hquiet hq)
    | running o hpc' hout' hfree hcb' hq =>
      exact .running o (by rw [hpc, hpc']) (by rw [hout, hout']) (by rw [hfly, hfree])
        (by rw [hcb, hcb']) (fun op => by rw [(hops op).1]; exact hq op)

lemma Inv.runHandler {s : State R} (h : Inv s) {op : ℕ} (hposted : (s.ops op).posted ≠ []) :
    Inv (s.setOp op fun r => { r with begun := true }) := by
  have hlt : op < s.nextOp := by
    by_contra hge
    rw [h.fresh op (Nat.le_of_not_lt hge)] at hposted
    exact hposted rfl
  refine h.setOp ⟨rfl, rfl, rfl⟩ hlt (h.kept op) (fun _ => hposted) ?_
  refine h.phase.congr rfl rfl rfl rfl fun op' => ?_
  by_cases hop : op' = op
  · rw [hop, State.setOp_self]
    exact ⟨rfl, rfl, rfl⟩
  · rw [State.setOp_of_ne _ _ hop]
    exact ⟨rfl, rfl, rfl⟩

/-- A step taken in turn and not into a pending reset keeps the invariant. -/
theorem inv_step {s t : State R} {a : Action R} (h : Inv s) (hturn : InTurn s a)
    (hreset : NoResetPending s a) (ht : step s a = some t) : Inv t := by
  cases (Rule.of_step ht).2 with
  | call args => exact h.call args hturn
  | initiate op hpc => exact h.initiate hpc hreset
  | refused op retCode ec hpc => exact h.refused hpc ec
  | accepted op retCode hpc => exact h.accepted hpc
  | postError op ec hpc => exact h.postError hpc
  | resetError op hpc => exact h.resetError hpc
  | cancel => exact h
  | complete status result sub hfly => exact h.complete hfly _
  | postResult op o hcb => exact h.postResult hcb
  | resetSlot hcb => exact h.resetSlot hcb
  | runHandler op hposted => exact h.runHandler hposted

omit [Inhabited R] in
lemma Op.Completed.delivered {s : State R} {op : ℕ} (h : (s.ops op).Completed) :
    s.Delivered op := by
  obtain ⟨o, hout, hposted⟩ := h.posted
  rw [State.Delivered, hout]
  exact Or.inl hposted

lemma Inv.delivered {s : State R} (h : Inv s) (op : ℕ) : s.Delivered op := by
  by_cases hlt : op < s.nextOp
  · cases h.phase with
    | resting hall _ =>
      rcases hall op hlt with hc | ⟨-, hc⟩
      · exact hc.delivered
      · rw [State.Delivered, hc.outcome]
        exact hc.posted
    | outstanding k hlast hall hposted _ hstage =>
      by_cases hk : op = k
      · subst hk
        cases hstage with
        | stored _ hout | inFlight _ _ hout =>
          rw [State.Delivered, hout]
          exact hposted
        | failed ec hpc hout =>
          rw [State.Delivered, hout]
          exact Or.inr ⟨hposted, Or.inl hpc⟩
        | running o _ hout _ hcb =>
          rw [State.Delivered, hout]
          exact Or.inr ⟨hposted, Or.inr hcb⟩
      · exact (hall op (by omega)).delivered
  · simp [State.Delivered, h.fresh op (Nat.le_of_not_lt hlt)]

lemma Inv.exactlyOnce {s : State R} (h : Inv s) : ExactlyOnce s :=
  ⟨h.alive, h.kept, h.delivered⟩

omit [Inhabited R] in
/-- A reset destroys the handler in the slot if it has not been posted. -/
lemma State.resetHandler_destroyed {s : State R} {op : ℕ} (hslot : s.slot = some op)
    (hposted : (s.ops op).posted = []) : (s.resetHandler.ops op).destroyed = true := by
  simp [State.resetHandler, State.destroyStored, hslot, hposted]

/-- An initiation into a pending reset loses its handler: the reset destroys it. -/
lemma Inv.lost {s t : State R} (h : Inv s) (hreset : s.ResetPending) {op : ℕ}
    (ht : step s (.initiate op) = some t) :
    ∃ a u, step t a = some u ∧ (u.ops op).destroyed = true := by
  obtain ⟨hrest, hall⟩ := h.resting hreset
  obtain ⟨hpc, hu⟩ : (s.ops op).pc = .called ∧
      t = (s.storeHandler op).setOp op fun r => { r with pc := .stored } := by
    cases (Rule.of_step ht).2 with
    | initiate _ hpc => exact ⟨hpc, rfl⟩
  have hposted : (s.ops op).posted = [] := by
    rcases hall op (h.lt_nextOp (by simp [hpc])) with hc | ⟨-, hc⟩
    · rcases hc.pc with hc | hc <;> simp [hpc] at hc
    · exact hc.posted
  rw [State.storeHandler, hrest.spent.destroyStored] at hu
  -- the handler is in the slot and not posted, and the reset that was pending still is
  have hslot : t.slot = some op := by rw [hu]; rfl
  have hnil : (t.ops op).posted = [] := by rw [hu, State.setOp_self]; exact hposted
  have halive : t.crashed = false := by rw [hu]; exact h.alive
  rcases hreset with hcb | ⟨op', -, hop'⟩
  · have hcb' : t.callbackPc = .resetting := by rw [hu]; exact hcb
    refine ⟨.resetSlot, { t.resetHandler with callbackPc := .idle },
      by simp only [step_of_alive halive, next, hcb'], ?_⟩
    exact State.resetHandler_destroyed hslot hnil
  · have hne : op' ≠ op := by
      rintro rfl
      simp [hpc] at hop'
    have hpc' : (t.ops op').pc = .resetting := by
      rw [hu, State.setOp_of_ne _ _ hne]
      exact hop'
    refine ⟨.resetError op', t.resetHandler.setOp op' fun r => { r with pc := .done },
      by simp only [step_of_alive halive, next, hpc'], ?_⟩
    rw [State.setOp_of_ne _ _ hne.symm]
    exact State.resetHandler_destroyed hslot hnil

/-! ### All runs -/

/-- On every run that starts its operations in turn and initiates none while a reset is
pending, every operation is completed exactly once. One initiation more, into a pending reset,
and the next step of the resetting thread destroys the handler just stored. -/
theorem exactlyOnce_of_noResetPending (as : List (Action R))
    (hturn : Along step InTurn (init R) as)
    (hreset : Along step NoResetPending (init R) as) :
    Always step ExactlyOnce (init R) as ∧
      ∀ s, exec step (init R) as = some s → s.ResetPending →
        ∀ op t, step s (.initiate op) = some t →
          ∃ a u, step t a = some u ∧ (u.ops op).destroyed = true := by
  have hstep : ∀ (s : State R) a t, Inv s → InTurn s a ∧ NoResetPending s a →
      step s a = some t → Inv t := fun s a t h hc ht => inv_step h hc.1 hc.2 ht
  have hboth := hturn.and hreset
  refine ⟨always_of_invariant hstep (fun s h => h.exactlyOnce) inv_init hboth, ?_⟩
  intro s hs hpending op t ht
  have hinv : Inv s :=
    (always_of_invariant hstep (fun s h => h) inv_init hboth).last hs
  exact hinv.lost hpending ht

/-- Two reads one after the other; the second is called as soon as the first handler runs, but
initiated after the reset. -/
theorem exactlyOnce_two_reads :
    let a := asyncReadSome ⟨4096, 512⟩
    let as : List (Action ℕ) := [.call a, .initiate 0, .submit 0 0, .complete 0 512, .postResult,
      .runHandler 0, .call a, .resetSlot, .initiate 1, .submit 1 (-4), .postError 1, .resetError 1]
    (exec step (init ℕ) as).isSome ∧ Always step ExactlyOnce (init ℕ) as :=
  ⟨by decide, (exactlyOnce_of_noResetPending _ (by decide) (by decide)).1⟩

/-- The second read is initiated by the handler of the first one while `completion_callback` is
between its two statements: its handler is destroyed, never posted, and the completion of the
second read calls the empty slot. -/
theorem not_exactlyOnce_fast_handler :
    ¬ ∀ as : List (Action ℕ), Along step InTurn (init ℕ) as →
      Always step ExactlyOnce (init ℕ) as := by
  intro h
  let a := asyncReadSome ⟨4096, 512⟩
  let as : List (Action ℕ) := [.call a, .initiate 0, .submit 0 0, .complete 0 512,
    .postResult, .runHandler 0, .call a, .initiate 1, .resetSlot, .submit 1 0,
    .complete 0 512, .postResult]
  have hcrash : (exec step (init ℕ) as).map (·.crashed) = some true := by decide
  obtain ⟨s, hs, hs'⟩ := Option.map_eq_some_iff.mp hcrash
  have halive := ((h as (by decide)).last hs).alive
  rw [halive] at hs'
  cases hs'

end UsbAsio.Transfer
