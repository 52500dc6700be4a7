import UsbAsio.Transfer.Frame

/-!
# Pending operations and the slot

An operation whose handler has been stored and not posted has it in the slot, as long as the
slot is overwritten and reset only when the handler in it has been posted.
-/

namespace UsbAsio.Transfer

open Transition

variable {R : Type*}

/-- The handler of the operation has been stored. -/
def Op.Initiated (r : Op R) : Prop := r.pc ≠ .idle ∧ r.pc ≠ .called

/-- The handler has been stored and not posted. -/
def Op.Pending (r : Op R) : Prop := r.Initiated ∧ r.posted = []

/-- What a store and a reset need: the handler in the slot has been posted. -/
def SlotSpent (s : State R) : Action R → Prop
  | .initiate _ | .resetError _ | .resetSlot => s.Spent
  | .call _ | .submit _ _ | .postError _ | .cancel | .complete _ _ | .postResult
  | .runHandler _ => True

/-- What is in the slot has been initiated, and what is pending is in the slot. -/
structure PendingInSlot (s : State R) : Prop where
  initiated : ∀ op, s.slot = some op → (s.ops op).Initiated
  inSlot : ∀ op, (s.ops op).Pending → s.slot = some op

lemma pendingInSlot_init : PendingInSlot (init R) where
  initiated := fun _ h => by simp [init] at h
  inSlot := fun _ h => absurd rfl h.1.1

/-- A spent slot means that nothing is pending. -/
lemma PendingInSlot.not_pending {s : State R} (h : PendingInSlot s) (hspent : s.Spent) (op : ℕ) :
    ¬ (s.ops op).Pending :=
  fun hp => hspent op (h.inSlot op hp) hp.2

/-! ### Parts of a step -/

/-- The record of one operation changes, and the slot does not. -/
lemma PendingInSlot.setOp {s s₁ : State R} (h : PendingInSlot s) (hops : s₁.ops = s.ops)
    (hslot : s₁.slot = s.slot) {k : ℕ} {f : Op R → Op R}
    (hinit : (f (s.ops k)).Initiated ↔ (s.ops k).Initiated)
    (hposted : (f (s.ops k)).posted = [] → (s.ops k).posted = []) :
    PendingInSlot (s₁.setOp k f) := by
  constructor
  · intro op hop
    rw [State.setOp_slot, hslot] at hop
    have hold := h.initiated op hop
    by_cases hk : op = k
    · rw [hk, State.setOp_self, hops, hinit, ← hk]
      exact hold
    · rwa [State.setOp_of_ne _ _ hk, hops]
  · intro op hop
    rw [State.setOp_slot, hslot]
    apply h.inSlot
    by_cases hk : op = k
    · rw [hk, State.setOp_self, hops] at hop
      rw [hk]
      exact ⟨hinit.mp hop.1, hposted hop.2⟩
    · rwa [State.setOp_of_ne _ _ hk, hops] at hop

/-- A post makes nothing pending. -/
lemma PendingInSlot.invokeHandler {s : State R} (h : PendingInSlot s) (o : Outcome R) :
    PendingInSlot (s.invokeHandler o) := by
  cases hslot : s.slot with
  | none =>
    rw [State.invokeHandler_of_empty hslot]
    exact ⟨h.initiated, h.inSlot⟩
  | some k =>
    rw [State.invokeHandler_of_slot hslot]
    refine h.setOp rfl rfl Iff.rfl fun hnil => ?_
    exact absurd hnil (List.cons_ne_nil _ _)

/-- A spent slot is reset. -/
lemma PendingInSlot.resetHandler {s : State R} (h : PendingInSlot s) (hspent : s.Spent) :
    PendingInSlot s.resetHandler := by
  rw [State.resetHandler, hspent.destroyStored]
  constructor
  · intro op hop
    simp at hop
  · intro op hop
    exact absurd hop (h.not_pending hspent op)

/-- A handler goes into a spent slot. -/
lemma PendingInSlot.initiate {s : State R} (h : PendingInSlot s) (hspent : s.Spent) (op : ℕ) :
    PendingInSlot ((s.storeHandler op).setOp op fun r => { r with pc := .stored }) := by
  rw [State.storeHandler, hspent.destroyStored]
  constructor
  · intro k hk
    obtain rfl : op = k := Option.some.inj hk
    rw [State.setOp_self]
    constructor <;> simp
  · intro k hk
    by_cases hop : k = op
    · rw [hop]
      rfl
    · rw [State.setOp_of_ne _ _ hop] at hk
      exact absurd hk (h.not_pending hspent k)

/-! ### Steps -/

variable [Inhabited R]

/-- As long as stores and resets find a spent slot, what is pending is in the slot. -/
lemma PendingInSlot.of_step {s t : State R} {a : Action R} (h : PendingInSlot s)
    (hwf : WellFormed s) (hspent : SlotSpent s a) (ht : step s a = some t) : PendingInSlot t := by
  -- the slot changes by `initiate` and by the resets, which find nothing in it that is pending
  cases (Rule.of_step ht).2 with
  | call args =>
    have hnew := hwf.fresh s.nextOp le_rfl
    apply h.setOp
    · rfl
    · rfl
    · simp [Op.Initiated, hnew]
    · exact id
  | initiate op => exact h.initiate hspent op
  | refused op _ _ hpc | accepted op _ hpc =>
    apply h.setOp
    · rfl
    · rfl
    · simp [Op.Initiated, hpc]
    · exact id
  | postError op ec hpc =>
    have hsame := s.invokeHandler_pc ⟨ec, default⟩ op
    refine (h.invokeHandler _).setOp rfl rfl ?_ ?_
    · simp [Op.Initiated, hsame, hpc]
    · exact id
  | resetError op hpc =>
    have hsame : s.resetHandler.ops op = s.ops op := by
      rw [State.resetHandler, State.Spent.destroyStored hspent]
    refine (h.resetHandler hspent).setOp rfl rfl ?_ ?_
    · simp [Op.Initiated, hsame, hpc]
    · exact id
  | cancel => exact h
  | complete status result sub =>
    apply h.setOp
    · rfl
    · rfl
    · exact Iff.rfl
    · exact id
  | postResult k o => exact ⟨(h.invokeHandler o).initiated, (h.invokeHandler o).inSlot⟩
  | resetSlot => exact ⟨(h.resetHandler hspent).initiated, (h.resetHandler hspent).inSlot⟩
  | runHandler op =>
    apply h.setOp
    · rfl
    · rfl
    · exact Iff.rfl
    · exact id

omit [Inhabited R] in
/-- Destroying the handler in the slot leaves its operation pending. -/
lemma Op.Pending.destroyStored {s : State R} {op : ℕ} (h : (s.ops op).Pending) :
    (s.destroyStored.ops op).Pending := by
  obtain ⟨hpc, hposted⟩ := s.destroyStored_ops op
  rw [Op.Pending, Op.Initiated, hpc, hposted]
  exact h

/-- A store or a reset of a slot that is not spent leaves an operation pending without its
handler. -/
lemma PendingInSlot.lost {s t : State R} {a : Action R} (h : PendingInSlot s)
    (hbad : ¬ SlotSpent s a) (ht : step s a = some t) :
    ∃ op, (t.ops op).Pending ∧ t.slot ≠ some op := by
  have hheld : ¬ s.Spent → ∃ op, s.slot = some op ∧ (s.ops op).Pending := fun hspent => by
    simp only [State.Spent, not_forall, not_not] at hspent
    obtain ⟨op, hslot, hnil⟩ := hspent
    exact ⟨op, hslot, h.initiated op hslot, hnil⟩
  -- what the slot held is overwritten, or reset
  cases (Rule.of_step ht).2 with
  | initiate k hpc =>
    obtain ⟨op, -, hop⟩ := hheld hbad
    have hne : op ≠ k := by
      rintro rfl
      exact hop.1.2 hpc
    refine ⟨op, ?_, ?_⟩
    · rw [State.setOp_of_ne _ _ hne]
      exact hop.destroyStored
    · simpa [State.storeHandler] using hne.symm
  | resetError k hpc =>
    obtain ⟨op, -, hop⟩ := hheld hbad
    refine ⟨op, ?_, by simp [State.resetHandler]⟩
    by_cases hk : op = k
    · rw [hk, State.setOp_self]
      rw [hk] at hop
      exact ⟨by simp [Op.Initiated], hop.destroyStored.2⟩
    · rw [State.setOp_of_ne _ _ hk]
      exact hop.destroyStored
  | resetSlot =>
    obtain ⟨op, -, hop⟩ := hheld hbad
    exact ⟨op, hop.destroyStored, by simp [State.resetHandler]⟩
  | call | refused | accepted | postError | cancel | complete | postResult | runHandler =>
    exact absurd trivial hbad

end UsbAsio.Transfer
