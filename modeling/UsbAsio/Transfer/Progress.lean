import UsbAsio.Transfer.Turns
import UsbAsio.Transition.Progress

/-!
# Transfers come to rest

Every step of a thread or of libusb brings an operation closer to its end, so there are only so
many of them for each call. When none is left to take, and the operations have been started in
turn and initiated outside of the resets, every handler has run.
-/

namespace UsbAsio.Transfer

open Transition

variable {R : Type*}

/-! ### The work that remains -/

/-- The steps between the call of an operation and its end, libusb included, as far as the
initiating thread has not taken them. -/
def SubmitPc.rank : SubmitPc → ℕ
  | .called    => 5
  | .stored    => 4
  | .failed _  => 2
  | .resetting => 1
  | .idle      => 0
  | .done      => 0

def CallbackPc.rank : CallbackPc R → ℕ
  | .running _ _ => 2
  | .resetting   => 1
  | .idle        => 0

/-- A submission is completed, posted and reset by the event thread. -/
def inFlightRank : Option Submission → ℕ
  | some _ => 3
  | none   => 0

/-- The steps that remain for one operation; one is the run of its handler. -/
def Op.work (r : Op R) : ℕ := r.pc.rank + if r.begun then 0 else 1

/-- The steps that remain for the operations that have been called. -/
def State.opsWork (s : State R) : ℕ := ∑ op ∈ Finset.range s.nextOp, (s.ops op).work

def State.work (s : State R) : ℕ := s.opsWork + inFlightRank s.inFlight + s.callbackPc.rank

/-- The steps of the threads and of libusb; the others are those of the user. -/
def Action.spend : Action R → ℕ
  | .call _ | .cancel => 0
  | .initiate _ | .submit _ _ | .postError _ | .resetError _ | .complete _ _ | .postResult
  | .resetSlot | .runHandler _ => 1

/-- A call brings six steps with it. -/
def Action.gain : Action R → ℕ
  | .call _ => 6
  | .initiate _ | .submit _ _ | .postError _ | .resetError _ | .cancel | .complete _ _
  | .postResult | .resetSlot | .runHandler _ => 0

variable {s t : State R} {op : ℕ}

@[simp] lemma State.work_init : (init R).work = 0 := rfl

lemma State.opsWork_congr (hnext : t.nextOp = s.nextOp)
    (hops : ∀ op, (t.ops op).work = (s.ops op).work) : t.opsWork = s.opsWork := by
  rw [State.opsWork, State.opsWork, hnext]
  exact Finset.sum_congr rfl fun op _ => hops op

/-- The work of one operation changes. -/
lemma State.opsWork_setOp (hlt : op < s.nextOp) (f : Op R → Op R) :
    (s.setOp op f).opsWork + (s.ops op).work = s.opsWork + (f (s.ops op)).work := by
  have hmem : op ∈ Finset.range s.nextOp := Finset.mem_range.mpr hlt
  have hrest : ∑ k ∈ (Finset.range s.nextOp).erase op, ((s.setOp op f).ops k).work =
      ∑ k ∈ (Finset.range s.nextOp).erase op, (s.ops k).work := by
    apply Finset.sum_congr rfl
    intro k hk
    rw [State.setOp_of_ne _ _ (Finset.ne_of_mem_erase hk)]
  rw [State.opsWork, State.opsWork, State.setOp_nextOp, ← Finset.add_sum_erase _ _ hmem,
    ← Finset.add_sum_erase _ _ hmem, hrest, State.setOp_self]
  omega

/-- The event thread moves on. -/
lemma State.work_callbackPc (s₁ : State R) (hops : s₁.opsWork = s.opsWork)
    (hfly : s₁.inFlight = s.inFlight) (pc : CallbackPc R) :
    { s₁ with callbackPc := pc }.work + s.callbackPc.rank = s.work + pc.rank := by
  show s₁.opsWork + inFlightRank s₁.inFlight + pc.rank + s.callbackPc.rank = s.work + pc.rank
  rw [hops, hfly, State.work]
  omega

/-- Destroying a handler is no work. -/
lemma State.destroyStored_work (s : State R) (op : ℕ) :
    (s.destroyStored.ops op).work = (s.ops op).work := by
  have hsame := s.destroyStored_visible op
  have hpc : (s.destroyStored.ops op).pc = (s.ops op).pc := (congrArg Op.pc hsame :)
  have hbegun : (s.destroyStored.ops op).begun = (s.ops op).begun := (congrArg Op.begun hsame :)
  rw [Op.work, Op.work, hpc, hbegun]

/-- What a handler is posted with is no work. -/
lemma State.invokeHandler_opsWork (s : State R) (o : Outcome R) :
    (s.invokeHandler o).opsWork = s.opsWork :=
  State.opsWork_congr (s.invokeHandler_nextOp o) fun op =>
    s.invokeHandler_congr Op.work o (fun _ _ => rfl) op

/-! ### Every step is work done -/

/-- An operation moves on. -/
lemma WellFormed.opsWork_setOp (h : WellFormed s) (s₁ : State R) (hnext : s₁.nextOp = s.nextOp)
    (hops : s₁.opsWork = s.opsWork) (hnew : s.ops op ≠ {}) (f : Op R → Op R) :
    (s₁.setOp op f).opsWork + (s₁.ops op).work = s.opsWork + (f (s₁.ops op)).work := by
  have hlt : op < s₁.nextOp := by
    rw [hnext]
    exact h.lt_nextOp hnew
  rw [← hops]
  exact State.opsWork_setOp hlt f

lemma Op.ne_new_of_pc {r : Op R} {pc : SubmitPc} (hpc : r.pc = pc) (hne : pc ≠ .idle) :
    r ≠ {} := by
  rintro rfl
  exact hne hpc.symm

variable [Inhabited R]

/-- Each step of a thread or of libusb is one of the steps that remained. -/
lemma WellFormed.work_step (h : WellFormed s) {a : Action R} (ht : step s a = some t) :
    t.work + a.spend ≤ s.work + a.gain := by
  have hdestroyed : s.destroyStored.opsWork = s.opsWork :=
    State.opsWork_congr rfl s.destroyStored_work
  have hpc := fun op => (s.destroyStored_ops op).1
  -- a rule moves one operation or the event thread, and the rest of the sum stays
  cases (Rule.of_step ht).2 with
  | call args =>
    -- the operation is new: its term joins the sum
    have hnew := h.fresh s.nextOp le_rfl
    have hops : ({ s with args := args, nextOp := s.nextOp + 1 }.setOp s.nextOp
        fun r => { r with pc := .called }).opsWork = s.opsWork + 6 := by
      have hold : ∀ op ∈ Finset.range s.nextOp,
          (({ s with args := args, nextOp := s.nextOp + 1 }.setOp s.nextOp
            fun r => { r with pc := .called }).ops op).work = (s.ops op).work := by
        intro op hop
        rw [State.setOp_of_ne _ _ (Finset.mem_range.mp hop).ne]
      rw [State.opsWork, State.setOp_nextOp, Finset.sum_range_succ, Finset.sum_congr rfl hold,
        State.setOp_self, hnew]
      rfl
    simp only [State.work, hops, State.setOp_inFlight, State.setOp_callbackPc, Action.spend,
      Action.gain]
    omega
  | initiate op hcalled =>
    have hmoved := h.opsWork_setOp (s.storeHandler op) (by rfl) hdestroyed
      (Op.ne_new_of_pc hcalled (by simp)) fun r => { r with pc := .stored }
    have hcalled' : ((s.storeHandler op).ops op).pc = .called := (hpc op).trans hcalled
    simp only [Op.work, hcalled', SubmitPc.rank] at hmoved
    simp only [State.work, State.setOp_inFlight, State.setOp_callbackPc, State.storeHandler,
      State.destroyStored_inFlight, State.destroyStored_callbackPc, Action.spend,
      Action.gain] at hmoved ⊢
    omega
  | refused op retCode ec hstored =>
    have hmoved := h.opsWork_setOp s rfl rfl (Op.ne_new_of_pc hstored (by simp))
      fun r => { r with pc := .failed ec, outcome := some ⟨ec, default⟩ }
    simp only [Op.work, hstored, SubmitPc.rank] at hmoved
    simp only [State.work, State.setOp_inFlight, State.setOp_callbackPc, Action.spend, Action.gain]
    omega
  | accepted op retCode hstored hok =>
    -- libusb accepts no second submission, so what is in flight now is counted once
    have hfly : s.inFlight = none := by
      by_contra hsome
      have hbusy : UsbErrc.busy.value < 0 := UsbErrc.value_neg _
      simp [State.libusbSubmitTransfer, Option.isSome_iff_ne_none.mpr hsome] at hok
      omega
    have hmoved := h.opsWork_setOp { s with inFlight := some ⟨op, s.args⟩ } rfl rfl
      (Op.ne_new_of_pc hstored (by simp)) fun r => { r with pc := .done }
    simp only [Op.work, hstored, SubmitPc.rank] at hmoved
    simp only [State.work, State.setOp_inFlight, State.setOp_callbackPc, hfly, inFlightRank,
      Action.spend, Action.gain]
    omega
  | postError op ec hfailed =>
    have hmoved := h.opsWork_setOp (s.invokeHandler ⟨ec, default⟩)
      (s.invokeHandler_nextOp _) (s.invokeHandler_opsWork ⟨ec, default⟩)
      (Op.ne_new_of_pc hfailed (by simp)) fun r => { r with pc := .resetting }
    have hfailed' := (s.invokeHandler_pc ⟨ec, default⟩ op).trans hfailed
    simp only [Op.work, hfailed', SubmitPc.rank] at hmoved
    simp only [State.work, State.setOp_inFlight, State.setOp_callbackPc,
      State.invokeHandler_inFlight, State.invokeHandler_callbackPc, Action.spend, Action.gain]
    omega
  | resetError op hresetting =>
    have hmoved := h.opsWork_setOp s.resetHandler (by rfl) hdestroyed
      (Op.ne_new_of_pc hresetting (by simp)) fun r => { r with pc := .done }
    have hresetting' : (s.resetHandler.ops op).pc = .resetting := (hpc op).trans hresetting
    simp only [Op.work, hresetting', SubmitPc.rank] at hmoved
    simp only [State.work, State.setOp_inFlight, State.setOp_callbackPc, State.resetHandler,
      State.destroyStored_inFlight, State.destroyStored_callbackPc, Action.spend,
      Action.gain] at hmoved ⊢
    omega
  | cancel => exact le_rfl
  | complete status result sub hfly hcb =>
    let o : Outcome R := ⟨makeTransferErrorCode status, result⟩
    have hops : ({ s with inFlight := none, callbackPc := .running sub.op o }.setOp sub.op
        fun r => { r with outcome := some o }).opsWork = s.opsWork :=
      State.opsWork_congr rfl (State.setOp_congr Op.work _ sub.op fun _ => by rfl)
    simp [State.work, o, hops, hfly, hcb, inFlightRank, CallbackPc.rank, Action.spend,
      Action.gain]
  | postResult op o hcb =>
    have hmoved := State.work_callbackPc (s.invokeHandler o) (s.invokeHandler_opsWork o)
      (s.invokeHandler_inFlight o) .resetting
    rw [hcb] at hmoved
    exact Nat.le_of_succ_le_succ hmoved.le
  | resetSlot hcb =>
    have hmoved := State.work_callbackPc s.resetHandler hdestroyed (by rfl) .idle
    rw [hcb] at hmoved
    exact hmoved.le
  | runHandler op hposted =>
    -- a handler that has begun does not begin again
    have hbegun : (s.ops op).begun = false := by
      rw [step_of_alive (Rule.of_step ht).1, next] at ht
      by_contra hbegun
      simp [hbegun] at ht
    have hmoved := h.opsWork_setOp s rfl rfl (fun hnew => hposted (by rw [hnew]))
      fun r => { r with begun := true }
    simp only [Op.work, hbegun] at hmoved
    simp only [State.work, State.setOp_inFlight, State.setOp_callbackPc, Action.spend, Action.gain]
    simp only [Bool.false_eq_true, if_false, if_true] at hmoved
    omega

/-! ### At rest -/

/-- The steps that are due: a thread that would store a handler waits for the resets. -/
def Due (s : State R) (a : Action R) : Prop := a.spend = 1 ∧ NoResetPending s a

/-- Nothing is under way, and the handler of every operation has been posted once, with the outcome
of its own operation, and has run. -/
structure State.Settled (s : State R) : Prop where
  inFlight : s.inFlight = none
  callback : s.callbackPc = .idle
  done : ∀ op < s.nextOp, (s.ops op).pc = .done
  ran : ∀ op < s.nextOp, ∃ o, (s.ops op).outcome = some o ∧ (s.ops op).posted = [o] ∧
    (s.ops op).begun = true

/-- The resets are always due. -/
lemma Inv.not_resetPending_of_stuck (h : Inv s) (hstuck : Stuck step Due s) : ¬ s.ResetPending := by
  rintro (hcb | ⟨op, -, hpc⟩)
  · have hnone := hstuck .resetSlot ⟨rfl, trivial⟩
    simp [step_of_alive h.alive, next, hcb] at hnone
  · have hnone := hstuck (.resetError op) ⟨rfl, trivial⟩
    simp [step_of_alive h.alive, next, hpc] at hnone

/-- What has been posted is due to run. -/
lemma Inv.begun_of_stuck (h : Inv s) (hstuck : Stuck step Due s)
    (hposted : (s.ops op).posted ≠ []) : (s.ops op).begun = true := by
  have hnone := hstuck (.runHandler op) ⟨rfl, trivial⟩
  simpa [step_of_alive h.alive, next, hposted] using hnone

/-- No initiation is under way. -/
lemma Inv.done_of_stuck (h : Inv s) (hstuck : Stuck step Due s)
    (hcompleted : (s.ops op).Completed) : (s.ops op).pc = .done := by
  refine hcompleted.pc.resolve_left fun hpc => ?_
  have hlt : op < s.nextOp := h.lt_nextOp (by simp [hpc])
  exact h.not_resetPending_of_stuck hstuck (.inr ⟨op, hlt, hpc⟩)

/-- When nothing is due, everything is done. -/
theorem Inv.settled_of_stuck (h : Inv s) (hstuck : Stuck step Due s) : s.Settled := by
  have hreset := h.not_resetPending_of_stuck hstuck
  cases h.phase with
  | outstanding k hlast hall hposted hslot hstage =>
    -- whatever the stage, the next step of the operation is due
    exfalso
    cases hstage with
    | stored hpc =>
      have hnone := hstuck (.submit k 0) ⟨rfl, trivial⟩
      simp only [step_of_alive h.alive, next, hpc] at hnone
      split_ifs at hnone
    | failed ec hpc =>
      have hnone := hstuck (.postError k) ⟨rfl, trivial⟩
      simp [step_of_alive h.alive, next, hpc] at hnone
    | inFlight args hpc hout hfly hquiet =>
      have hnone := hstuck (.complete 0 default) ⟨rfl, trivial⟩
      simp [step_of_alive h.alive, next, hfly, hquiet.callback] at hnone
    | running o hpc hout hfree hcb =>
      have hnone := hstuck .postResult ⟨rfl, trivial⟩
      simp [step_of_alive h.alive, next, hcb] at hnone
  | resting hall hrest =>
    -- an operation that has only been called could be initiated
    have hquiet := h.quiet hrest.callback hreset
    have hcompleted : ∀ op < s.nextOp, (s.ops op).Completed := by
      intro op hop
      refine (hall op hop).resolve_right fun hcalled => ?_
      have hnone := hstuck (.initiate op) ⟨rfl, hreset⟩
      simp [step_of_alive h.alive, next, hcalled.2.pc] at hnone
    refine ⟨hrest.inFlight, hquiet.callback, ?_, ?_⟩
    · intro op hop
      exact h.done_of_stuck hstuck (hcompleted op hop)
    · intro op hop
      obtain ⟨o, hout, hposted⟩ := (hcompleted op hop).posted
      refine ⟨o, hout, hposted, h.begun_of_stuck hstuck ?_⟩
      rw [hposted]
      exact List.cons_ne_nil _ _

/-! ### All runs -/

omit [Inhabited R] in
lemma inTurn_of_due {a : Action R} (h : Due s a) : InTurn s a := by
  cases a with
  | call args => simp [Due, Action.spend] at h
  | initiate | submit | postError | resetError | cancel | complete | postResult | resetSlot
  | runHandler => trivial

/-- A due step keeps what is known, uses up some of the work, and calls nothing. -/
lemma due_step {a : Action R} (h : WellFormed s ∧ Inv s) (hdue : Due s a)
    (ht : step s a = some t) :
    (WellFormed t ∧ Inv t) ∧ t.work < s.work ∧ t.nextOp = s.nextOp := by
  have hgain : a.gain = 0 := by
    cases a with
    | call args => simp [Due, Action.spend] at hdue
    | initiate | submit | postError | resetError | cancel | complete | postResult | resetSlot
    | runHandler => rfl
  have hcall : ∀ args, a ≠ .call args := by
    rintro args rfl
    simp [Action.gain] at hgain
  refine ⟨⟨h.1.of_step ht, inv_step h.2 (inTurn_of_due hdue) hdue.2 ht⟩, ?_, ?_⟩
  · have hwork := h.1.work_step ht
    rw [hdue.1, hgain] at hwork
    exact hwork
  · exact (args_step hcall ht).2

/-- For each call of a run, whatever its order, there are at most six steps of the threads and of
libusb. -/
theorem steps_le_calls (as : List (Action R)) (hs : exec step (init R) as = some s) :
    s.work + (as.map Action.spend).sum ≤ (as.map Action.gain).sum := by
  have hstep : ∀ (s : State R) a t, WellFormed s → True → step s a = some t → WellFormed t :=
    fun s a t h _ ht => h.of_step ht
  have hall : Along step (fun _ _ => True) (init R) as :=
    along_of_preserved (I := fun _ => True) (fun _ _ _ _ _ => trivial)
      (fun _ _ _ _ _ => trivial) trivial as
  have hwork := spend_le hstep (fun s a t h _ ht => h.work_step ht) wellFormed_init hall hs
  rwa [State.work_init, zero_add] at hwork

/-- When the operations of a run have been started in turn and none has been initiated while a
reset was pending, the threads and libusb can go on only for as many steps as remain, in whatever
order, and as long as not every handler has run there is a next one. -/
theorem settles (as : List (Action R)) (hturn : Along step InTurn (init R) as)
    (hreset : Along step NoResetPending (init R) as) (hs : exec step (init R) as = some s)
    (bs : List (Action R)) (hdue : Along step Due s bs) (ht : exec step s bs = some t) :
    bs.length ≤ s.work ∧ t.nextOp = s.nextOp ∧
      (t.Settled ∨ ∃ a u, Due t a ∧ step t a = some u) := by
  have hreach : WellFormed s ∧ Inv s := by
    refine ⟨wellFormed_of_reachable ⟨as, hs⟩, ?_⟩
    have hinv := always_of_invariant (fun s a t h hc ht => inv_step h hc.1 hc.2 ht)
      (fun _ h => h) inv_init (hturn.and hreset)
    exact hinv.last hs
  have hstep : ∀ (s₁ : State R) a t₁, (WellFormed s₁ ∧ Inv s₁) ∧ s₁.nextOp = s.nextOp → Due s₁ a →
      step s₁ a = some t₁ →
        ((WellFormed t₁ ∧ Inv t₁) ∧ t₁.nextOp = s.nextOp) ∧ t₁.work < s₁.work := by
    rintro s₁ a t₁ ⟨h, hnext⟩ hd ht
    obtain ⟨h', hless, hnext'⟩ := due_step h hd ht
    exact ⟨⟨h', hnext'.trans hnext⟩, hless⟩
  obtain ⟨⟨⟨-, hinv⟩, hnext⟩, hlength⟩ := length_le_measure hstep ⟨hreach, rfl⟩ hdue ht
  refine ⟨hlength, hnext, ?_⟩
  by_cases hstuck : Stuck step Due t
  · exact .inl (hinv.settled_of_stuck hstuck)
  · simp only [Stuck, not_forall] at hstuck
    obtain ⟨a, hd, hsome⟩ := hstuck
    obtain ⟨u, hu⟩ := Option.ne_none_iff_exists'.mp hsome
    exact .inr ⟨a, u, hd, hu⟩

/-- One read takes all six steps. -/
theorem steps_le_calls_one_read : ∃ s, exec step (init ℕ) [.call (asyncReadSome ⟨4096, 512⟩),
    .initiate 0, .submit 0 0, .complete 0 512, .postResult, .resetSlot, .runHandler 0] = some s ∧
    s.work = 0 := by
  obtain ⟨s, hs⟩ := Option.isSome_iff_exists.mp (show (exec step (init ℕ)
    [.call (asyncReadSome ⟨4096, 512⟩), .initiate 0, .submit 0 0, .complete 0 512, .postResult,
      .resetSlot, .runHandler 0]).isSome = true by decide)
  refine ⟨s, hs, ?_⟩
  simpa [Action.spend, Action.gain] using steps_le_calls _ hs

/-- A read that libusb has accepted, and the event thread before its reset of the slot. -/
theorem settles_one_read : ∃ s t, exec step (init ℕ) [.call (asyncReadSome ⟨4096, 512⟩),
    .initiate 0, .submit 0 0] = some s ∧ exec step s [.complete 0 512, .postResult] = some t ∧
    (t.Settled ∨ ∃ a u, Due t a ∧ step t a = some u) := by
  obtain ⟨t, ht⟩ := Option.isSome_iff_exists.mp (show (exec step (init ℕ)
    [.call (asyncReadSome ⟨4096, 512⟩), .initiate 0, .submit 0 0, .complete 0 512,
      .postResult]).isSome = true by decide)
  obtain ⟨s, hs⟩ := Option.isSome_iff_exists.mp (show (exec step (init ℕ)
    [.call (asyncReadSome ⟨4096, 512⟩), .initiate 0, .submit 0 0]).isSome = true by decide)
  have hrest : exec step s [.complete 0 512, .postResult] = some t := by
    rw [← exec_append hs]
    exact ht
  have hdue : Along step Due s [.complete 0 512, .postResult] := by
    refine along_cons_iff.mpr fun u _ => ⟨⟨rfl, trivial⟩, ?_⟩
    refine along_cons_iff.mpr fun u' _ => ⟨⟨rfl, trivial⟩, trivial⟩
  exact ⟨s, t, hs, hrest, (settles _ (by decide) (by decide) hs _ hdue hrest).2.2⟩

end UsbAsio.Transfer
