import UsbAsio.Transfer.Basic

/-!
# What a step leaves alone

The effects of the three operations of the handler slot on the operations, and the bookkeeping
that holds in every reachable state of a transfer.
-/

namespace UsbAsio.Transfer

open Transition

variable {R : Type*}

/-! ### The slot -/

/-- Destroying a handler is recorded, and touches nothing else. -/
lemma State.destroyStored_ops (s : State R) (op : ℕ) :
    (s.destroyStored.ops op).pc = (s.ops op).pc ∧
      (s.destroyStored.ops op).posted = (s.ops op).posted := by
  simp only [State.destroyStored]
  split_ifs <;> exact ⟨rfl, rfl⟩

@[simp] lemma State.destroyStored_slot (s : State R) : s.destroyStored.slot = s.slot := rfl

@[simp] lemma State.destroyStored_nextOp (s : State R) : s.destroyStored.nextOp = s.nextOp := rfl

@[simp] lemma State.destroyStored_args (s : State R) : s.destroyStored.args = s.args := rfl

@[simp] lemma State.destroyStored_inFlight (s : State R) :
    s.destroyStored.inFlight = s.inFlight := rfl

@[simp] lemma State.destroyStored_callbackPc (s : State R) :
    s.destroyStored.callbackPc = s.callbackPc := rfl

@[simp] lemma State.destroyStored_crashed (s : State R) :
    s.destroyStored.crashed = s.crashed := rfl

/-- A post goes to the handler in the slot. -/
lemma State.invokeHandler_ops (s : State R) (o : Outcome R) {op : ℕ} (h : s.slot ≠ some op) :
    (s.invokeHandler o).ops op = s.ops op := by
  rw [State.invokeHandler]
  split
  · rfl
  · next k hk =>
    refine State.setOp_of_ne _ _ ?_
    rintro rfl
    exact h hk

@[simp] lemma State.invokeHandler_slot (s : State R) (o : Outcome R) :
    (s.invokeHandler o).slot = s.slot := by
  rw [State.invokeHandler]
  split <;> rfl

@[simp] lemma State.invokeHandler_nextOp (s : State R) (o : Outcome R) :
    (s.invokeHandler o).nextOp = s.nextOp := by
  rw [State.invokeHandler]
  split <;> rfl

@[simp] lemma State.invokeHandler_args (s : State R) (o : Outcome R) :
    (s.invokeHandler o).args = s.args := by
  rw [State.invokeHandler]
  split <;> rfl

@[simp] lemma State.invokeHandler_inFlight (s : State R) (o : Outcome R) :
    (s.invokeHandler o).inFlight = s.inFlight := by
  rw [State.invokeHandler]
  split <;> rfl

@[simp] lemma State.invokeHandler_callbackPc (s : State R) (o : Outcome R) :
    (s.invokeHandler o).callbackPc = s.callbackPc := by
  rw [State.invokeHandler]
  split <;> rfl

/-- Posting a handler changes only what the handler has been posted with. -/
lemma State.invokeHandler_congr {α : Type*} (p : Op R → α) (s : State R) (o : Outcome R)
    (hp : ∀ (r : Op R) posted, p { r with posted := posted } = p r) (op : ℕ) :
    p ((s.invokeHandler o).ops op) = p (s.ops op) := by
  cases hslot : s.slot with
  | none => rw [State.invokeHandler_of_empty hslot]
  | some k =>
    rw [State.invokeHandler_of_slot hslot]
    exact State.setOp_congr p s k (fun r => hp r _) op

/-- Posting a handler does not move the thread that initiated it. -/
lemma State.invokeHandler_pc (s : State R) (o : Outcome R) (op : ℕ) :
    ((s.invokeHandler o).ops op).pc = (s.ops op).pc :=
  s.invokeHandler_congr Op.pc o (fun _ _ => rfl) op

/-! ### Bookkeeping -/

/-- Only operations that have been called leave a trace, and what is in flight has been
submitted. -/
structure WellFormed (s : State R) : Prop where
  fresh : ∀ op, s.nextOp ≤ op → s.ops op = {}
  slot : ∀ op, s.slot = some op → op < s.nextOp
  submitted : ∀ sub, s.inFlight = some sub → (s.ops sub.op).pc = .done

lemma wellFormed_init : WellFormed (init R) :=
  ⟨fun _ _ => rfl, fun _ h => by simp [init] at h, fun _ h => by simp [init] at h⟩

lemma WellFormed.lt_nextOp {s : State R} (h : WellFormed s) {op : ℕ} (hne : s.ops op ≠ {}) :
    op < s.nextOp := by
  by_contra hge
  exact hne (h.fresh op (Nat.le_of_not_lt hge))

lemma WellFormed.inFlight_lt {s : State R} (h : WellFormed s) {sub : Submission}
    (hfly : s.inFlight = some sub) : sub.op < s.nextOp := by
  refine h.lt_nextOp fun hnew => ?_
  have := h.submitted sub hfly
  simp [hnew] at this

lemma WellFormed.destroyStored_ops {s : State R} (h : WellFormed s) {op : ℕ}
    (hop : s.nextOp ≤ op) : s.destroyStored.ops op = s.ops op := by
  refine if_neg fun hslot => ?_
  have hlt := h.slot op hslot.1
  omega

lemma WellFormed.invokeHandler_ops {s : State R} (h : WellFormed s) (o : Outcome R) {op : ℕ}
    (hop : s.nextOp ≤ op) : (s.invokeHandler o).ops op = s.ops op := by
  refine s.invokeHandler_ops o fun hslot => ?_
  have hlt := h.slot op hslot
  omega

/-! ### One operation -/

variable [Inhabited R]

/-- What a step does to an operation that has been submitted: it stays submitted, and once its
handler has left the slot the handler does not come back and is not posted any more. -/
lemma step_of_done {s t : State R} {a : Action R} {op : ℕ} (hlt : op < s.nextOp)
    (hpc : (s.ops op).pc = .done) (ht : step s a = some t) :
    op < t.nextOp ∧ (t.ops op).pc = .done ∧
      (s.slot ≠ some op → t.slot ≠ some op ∧ (t.ops op).posted = (s.ops op).posted) := by
  have hne : ∀ k, (s.ops k).pc ≠ .done → k ≠ op := fun k hk => by
    rintro rfl
    exact hk hpc
  have hother : ∀ (s₁ : State R) (k : ℕ) (f : Op R → Op R), k ≠ op →
      (s₁.setOp k f).ops op = s₁.ops op := fun s₁ k f hk => State.setOp_of_ne _ _ hk.symm
  obtain ⟨hdpc, hdposted⟩ := s.destroyStored_ops op
  have hipc : ∀ o, ((s.invokeHandler o).ops op).pc = .done := fun o =>
    (s.invokeHandler_pc o op).trans hpc
  -- a rule that moves a submission moves another one, and only a post or a store meets the slot
  cases (Rule.of_step ht).2 with
  | call args =>
    rw [hother _ _ _ (ne_of_gt hlt)]
    exact ⟨Nat.lt_succ_of_lt hlt, hpc, fun hslot => ⟨hslot, rfl⟩⟩
  | initiate k hk =>
    have hk' := hne k (by simp [hk])
    rw [hother _ _ _ hk']
    refine ⟨by simpa [State.storeHandler] using hlt, hdpc.trans hpc, fun _ => ⟨?_, hdposted⟩⟩
    simpa [State.storeHandler] using hk'
  | refused k _ _ hk | accepted k _ hk =>
    rw [hother _ _ _ (hne k (by simp [hk]))]
    exact ⟨hlt, hpc, fun hslot => ⟨hslot, rfl⟩⟩
  | postError k ec hk =>
    rw [hother _ _ _ (hne k (by simp [hk]))]
    refine ⟨by simpa using hlt, hipc _, fun hslot => ⟨by simpa using hslot, ?_⟩⟩
    rw [State.invokeHandler_ops _ _ hslot]
  | resetError k hk =>
    rw [hother _ _ _ (hne k (by simp [hk]))]
    refine ⟨by simpa [State.resetHandler] using hlt, hdpc.trans hpc, fun _ => ⟨?_, hdposted⟩⟩
    simp [State.resetHandler]
  | cancel => exact ⟨hlt, hpc, fun hslot => ⟨hslot, rfl⟩⟩
  | complete status result sub =>
    refine ⟨hlt, Eq.trans ?_ hpc, fun hslot => ⟨hslot, ?_⟩⟩
    · exact State.setOp_congr Op.pc _ sub.op (fun _ => by rfl) op
    · exact State.setOp_congr Op.posted _ sub.op (fun _ => by rfl) op
  | postResult k o =>
    refine ⟨by simpa using hlt, hipc o, fun hslot => ⟨by simpa using hslot, ?_⟩⟩
    rw [← s.invokeHandler_ops o hslot]
  | resetSlot =>
    refine ⟨by simpa [State.resetHandler] using hlt, hdpc.trans hpc, fun _ => ⟨?_, hdposted⟩⟩
    simp [State.resetHandler]
  | runHandler k =>
    refine ⟨hlt, Eq.trans ?_ hpc, fun hslot => ⟨hslot, ?_⟩⟩
    · exact State.setOp_congr Op.pc s k (fun _ => by rfl) op
    · exact State.setOp_congr Op.posted s k (fun _ => by rfl) op

/-- Only a call writes `buffer` and `length`, and only a call starts an operation. -/
lemma args_step {s t : State R} {a : Action R} (ha : ∀ args, a ≠ .call args)
    (ht : step s a = some t) : t.args = s.args ∧ t.nextOp = s.nextOp := by
  cases (Rule.of_step ht).2 with
  | call args => exact absurd rfl (ha args)
  | postError | postResult => simp
  | initiate | refused | accepted | resetError | cancel | complete | resetSlot | runHandler =>
    exact ⟨rfl, rfl⟩

lemma nextOp_le_of_step {s t : State R} {a : Action R} (ht : step s a = some t) :
    s.nextOp ≤ t.nextOp := by
  by_cases ha : ∀ args, a ≠ .call args
  · exact (args_step ha ht).2.ge
  · push Not at ha
    obtain ⟨args, rfl⟩ := ha
    cases (Rule.of_step ht).2
    exact Nat.le_succ _

/-! ### Reachable states -/

/-- A step leaves the operations not called yet alone. -/
lemma WellFormed.fresh_step {s t : State R} {a : Action R} (h : WellFormed s)
    (ht : step s a = some t) {op : ℕ} (hop : t.nextOp ≤ op) : t.ops op = {} := by
  have hkey : ∀ (s₁ : State R) (k : ℕ) (f : Op R → Op R), s₁.ops op = s.ops op →
      k < s.nextOp → s.nextOp ≤ op → (s₁.setOp k f).ops op = {} := fun s₁ k f hs₁ hk hle => by
    rw [State.setOp_of_ne _ _ (by omega), hs₁]
    exact h.fresh op hle
  have hpc : ∀ k, (s.ops k).pc ≠ .idle → k < s.nextOp := fun k hk =>
    h.lt_nextOp fun hnew => hk (by rw [hnew])
  -- every rule but `call` moves an operation that exists
  cases (Rule.of_step ht).2 with
  | call args =>
    have hle : s.nextOp + 1 ≤ op := hop
    rw [State.setOp_of_ne _ _ (by omega)]
    exact h.fresh op (by omega)
  | initiate k hk =>
    have hle : s.nextOp ≤ op := by simpa [State.storeHandler] using hop
    exact hkey _ k _ (h.destroyStored_ops hle) (hpc k (by simp [hk])) hle
  | refused k _ _ hk | accepted k _ hk => exact hkey _ k _ rfl (hpc k (by simp [hk])) hop
  | postError k ec hk =>
    have hle : s.nextOp ≤ op := by simpa using hop
    exact hkey _ k _ (h.invokeHandler_ops _ hle) (hpc k (by simp [hk])) hle
  | resetError k hk =>
    have hle : s.nextOp ≤ op := by simpa [State.resetHandler] using hop
    exact hkey _ k _ (h.destroyStored_ops hle) (hpc k (by simp [hk])) hle
  | cancel => exact h.fresh op hop
  | complete status result sub hfly => exact hkey _ sub.op _ rfl (h.inFlight_lt hfly) hop
  | postResult k o =>
    have hle : s.nextOp ≤ op := by simpa using hop
    exact (h.invokeHandler_ops o hle).trans (h.fresh op hle)
  | resetSlot =>
    have hle : s.nextOp ≤ op := by simpa [State.resetHandler] using hop
    exact (h.destroyStored_ops hle).trans (h.fresh op hle)
  | runHandler k hposted =>
    exact hkey _ k _ rfl (h.lt_nextOp fun hnew => hposted (by rw [hnew])) hop

/-- A handler enters the slot only through the initiation of its operation. -/
lemma WellFormed.slot_step {s t : State R} {a : Action R} (h : WellFormed s)
    (ht : step s a = some t) {op : ℕ} (hslot : t.slot = some op) : op < t.nextOp := by
  cases (Rule.of_step ht).2 with
  | call args => exact Nat.lt_succ_of_lt (h.slot op hslot)
  | initiate k hk =>
    have hop : k = op := by simpa [State.storeHandler] using hslot
    have hlt : k < s.nextOp := h.lt_nextOp fun hnew => by simp [hnew] at hk
    simpa [State.storeHandler, ← hop] using hlt
  | postError | postResult =>
    simp only [State.setOp_slot, State.setOp_nextOp, State.invokeHandler_slot,
      State.invokeHandler_nextOp] at hslot ⊢
    exact h.slot op hslot
  | resetError | resetSlot => simp [State.resetHandler] at hslot
  | refused | accepted | cancel | complete | runHandler => exact h.slot op hslot

/-- A submission enters libusb only when libusb accepts it. -/
lemma WellFormed.submitted_step {s t : State R} {a : Action R} (h : WellFormed s)
    (ht : step s a = some t) {sub : Submission} (hfly : t.inFlight = some sub) :
    (t.ops sub.op).pc = .done := by
  have hold : s.inFlight = some sub → (t.ops sub.op).pc = .done := fun hs =>
    (step_of_done (h.inFlight_lt hs) (h.submitted sub hs) ht).2.1
  cases (Rule.of_step ht).2 with
  | accepted op retCode =>
    obtain rfl : (⟨op, s.args⟩ : Submission) = sub := by simpa using hfly
    simp
  | complete => simp at hfly
  | initiate | resetError | resetSlot =>
    exact hold (by simpa [State.storeHandler, State.resetHandler] using hfly)
  | call | refused | postError | cancel | postResult | runHandler =>
    exact hold (by simpa using hfly)

lemma WellFormed.of_step {s t : State R} {a : Action R} (h : WellFormed s)
    (ht : step s a = some t) : WellFormed t :=
  ⟨fun _ => h.fresh_step ht, fun _ => h.slot_step ht, fun _ => h.submitted_step ht⟩

lemma WellFormed.of_exec {s t : State R} {as : List (Action R)} (h : WellFormed s)
    (ht : exec step s as = some t) : WellFormed t :=
  (always_of_preserved (fun _ _ _ hs hst => hs.of_step hst) (fun _ h => h) h as).last ht

theorem wellFormed_of_reachable {s : State R} (h : Reachable step (init R) s) : WellFormed s :=
  h.invariant (fun _ _ _ hs ht => hs.of_step ht) wellFormed_init

end UsbAsio.Transfer
