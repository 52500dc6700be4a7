import UsbAsio.Transfer.Frame

/-!
# Overlapping calls

A call on a transfer that is in flight writes its buffer, its length and its handler into the
transfer before libusb can refuse it. The refusal is reported to the new handler, but the
handler of the operation in flight is gone by then.
-/

namespace UsbAsio.Transfer

open Transition

variable {R : Type*} [Inhabited R]

/-! ### A handler that has left the slot -/

/-- Operation `op` has been submitted, its handler is not in the slot, and it has been posted
with `posted`. -/
structure Gone (op : ℕ) (posted : List (Outcome R)) (s : State R) : Prop where
  called : op < s.nextOp
  pc : (s.ops op).pc = .done
  slot : s.slot ≠ some op
  posted : (s.ops op).posted = posted

/-- No step brings a handler back into the slot, so it is not posted any more. -/
lemma Gone.always {op : ℕ} {posted : List (Outcome R)} {s : State R} (h : Gone op posted s)
    (as : List (Action R)) : Always step (fun t => (t.ops op).posted = posted) s as := by
  refine always_of_preserved (I := Gone op posted) ?_ (fun t ht => ht.posted) h as
  intro s a t h ht
  obtain ⟨hlt, hpc, hslot⟩ := step_of_done h.called h.pc ht
  obtain ⟨hslot', hposted⟩ := hslot h.slot
  exact ⟨hlt, hpc, hslot', hposted.trans h.posted⟩

/-! ### Refused calls -/

/-- A call on a transfer in flight: `async_*` and `async_submit_impl` from start to end, as
operation `op`. -/
def overlap (op : ℕ) (args : Args) : List (Action R) :=
  [.call args, .initiate op, .submit op 0, .postError op, .resetError op]

/-- Any number of such calls, one after the other. -/
def overlaps (op : ℕ) : List Args → List (Action R)
  | []        => []
  | args :: l => overlap op args ++ overlaps (op + 1) l

/-- What the handler of a refused call is posted with. -/
def busy : Outcome R := ⟨UsbErrc.busy.errorCode, default⟩

/-- The state `t` after a refused call, made in state `s` with the arguments `args`. -/
structure Refused (s t : State R) (args : Args) : Prop where
  alive : t.crashed = false
  wellFormed : WellFormed t
  nextOp : t.nextOp = s.nextOp + 1
  inFlight : t.inFlight = s.inFlight
  args : t.args = args
  slot : t.slot = none
  reported : Gone s.nextOp [busy] t
  others : ∀ op < s.nextOp, (t.ops op).pc = (s.ops op).pc ∧
    (t.ops op).posted = (s.ops op).posted

/-- The first half of a call: its arguments and its handler are in the transfer. -/
def State.stored (s : State R) (args : Args) : State R :=
  (({ s with args := args, nextOp := s.nextOp + 1 }.setOp s.nextOp
    fun r => { r with pc := .called }).storeHandler s.nextOp).setOp s.nextOp
      fun r => { r with pc := .stored }

lemma exec_stored {s : State R} (halive : s.crashed = false) (args : Args) :
    exec step s [.call args, .initiate s.nextOp] = some (s.stored args) := by
  let s₁ := { s with args := args, nextOp := s.nextOp + 1 }.setOp s.nextOp
    fun r => { r with pc := .called }
  have hcall : step s (.call args) = some s₁ := by
    rw [step_of_alive halive]
    rfl
  have hinit : step s₁ (.initiate s.nextOp) = some (s.stored args) := by
    have hpc : (s₁.ops s.nextOp).pc = .called := by simp [s₁]
    rw [step_of_alive (by simpa [s₁] using halive), next, hpc]
    rfl
  rw [exec_cons_some hcall, exec_cons_some hinit, exec_nil]

/-- The second half, on a transfer that is in flight: the refusal is posted to the handler in
the slot, and the slot is emptied. -/
lemma exec_refused {s : State R} {sub : Submission} {op : ℕ} (halive : s.crashed = false)
    (hfly : s.inFlight = some sub) (hpc : (s.ops op).pc = .stored) (hslot : s.slot = some op) :
    exec step s [.submit op 0, .postError op, .resetError op] =
      some ({ s with slot := none }.setOp op fun r =>
        { r with pc := .done, outcome := some busy, posted := busy :: r.posted }) := by
  let s₁ := s.setOp op
    fun r => { r with pc := .failed UsbErrc.busy.errorCode, outcome := some busy }
  let s₂ := s₁.setOp op fun r => { r with pc := .resetting, posted := busy :: r.posted }
  have hsubmit : step s (.submit op 0) = some s₁ := by
    have hbusy : s.libusbSubmitTransfer 0 = UsbErrc.busy.value := by
      simp [State.libusbSubmitTransfer, hfly]
    rw [step_of_alive halive, next, hpc, hbusy, libusbTry_value]
    rfl
  have hpost : step s₁ (.postError op) = some s₂ := by
    have hpc₁ : (s₁.ops op).pc = .failed UsbErrc.busy.errorCode := by simp [s₁]
    have hslot₁ : s₁.slot = some op := hslot
    have halive₁ : s₁.crashed = false := halive
    rw [step_of_alive halive₁, next, hpc₁]
    simp only [State.invokeHandler_of_slot hslot₁, State.setOp_setOp]
    rfl
  have hreset : step s₂ (.resetError op) = some ({ s₂ with slot := none }.setOp op
      fun r => { r with pc := .done }) := by
    have hpc₂ : (s₂.ops op).pc = .resetting := by simp [s₂]
    have halive₂ : s₂.crashed = false := halive
    have hspent : s₂.Spent := fun k hk => by
      obtain rfl : op = k := by simpa [s₂, s₁, hslot] using hk
      simp [s₂]
    rw [step_of_alive halive₂, next, hpc₂]
    simp only [State.resetHandler, hspent.destroyStored]
  rw [exec_cons_some hsubmit, exec_cons_some hpost, exec_cons_some hreset, exec_nil]
  simp [s₂, s₁, State.setOp]

omit [Inhabited R] in
/-- Storing a new handler changes neither the position nor the posts of another operation. -/
lemma State.stored_ops (s : State R) (args : Args) {op : ℕ} (hne : op ≠ s.nextOp) :
    ((s.stored args).ops op).pc = (s.ops op).pc ∧
      ((s.stored args).ops op).posted = (s.ops op).posted := by
  let s₁ := { s with args := args, nextOp := s.nextOp + 1 }.setOp s.nextOp
    fun r => { r with pc := .called }
  have hs₁ : s₁.ops op = s.ops op := State.setOp_of_ne _ _ hne
  have hstored : (s.stored args).ops op = s₁.destroyStored.ops op := State.setOp_of_ne _ _ hne
  rw [hstored, ← hs₁]
  exact s₁.destroyStored_ops op

omit [Inhabited R] in
lemma WellFormed.stored_posted {s : State R} (h : WellFormed s) (args : Args) :
    ((s.stored args).ops s.nextOp).posted = [] := by
  have hnew := h.fresh s.nextOp le_rfl
  simp [State.stored, State.storeHandler, State.destroyStored_ops, hnew]

/-- Every call on a transfer in flight is refused with `usb_errc::busy`, and leaves its own
arguments in the transfer and an empty slot. -/
lemma exec_overlap {s : State R} {sub : Submission} (hwf : WellFormed s)
    (halive : s.crashed = false) (hfly : s.inFlight = some sub) (args : Args) :
    ∃ t, exec step s (overlap s.nextOp args) = some t ∧ Refused s t args := by
  have hstored := exec_stored halive args
  have halive' : (s.stored args).crashed = false := by
    simpa [State.stored, State.storeHandler] using halive
  have hfly' : (s.stored args).inFlight = s.inFlight := by simp [State.stored, State.storeHandler]
  have hpc : ((s.stored args).ops s.nextOp).pc = .stored := by simp [State.stored]
  have hall := exec_append hstored [.submit s.nextOp 0, .postError s.nextOp,
    .resetError s.nextOp]
  rw [exec_refused halive' (hfly'.trans hfly) hpc rfl] at hall
  have hnext : (s.stored args).nextOp = s.nextOp + 1 := by simp [State.stored, State.storeHandler]
  refine ⟨_, hall, halive', hwf.of_exec hall, hnext, hfly', ?_, rfl, ?_, ?_⟩
  · simp [State.stored, State.storeHandler]
  · refine ⟨?_, by simp, by simp, by simp [hwf.stored_posted]⟩
    exact hnext ▸ Nat.lt_succ_self _
  · intro op hop
    rw [State.setOp_of_ne _ _ (Nat.ne_of_lt hop)]
    exact s.stored_ops args (Nat.ne_of_lt hop)

/-- The state `t` after the calls `l`, all made while the transfer was in flight. -/
structure RefusedAll (s t : State R) (l : List Args) : Prop where
  alive : t.crashed = false
  inFlight : t.inFlight = s.inFlight
  reported : ∀ i < l.length, (t.ops (s.nextOp + i)).posted = [busy]
  args : ∀ args ∈ l.getLast?, t.args = args
  slot : l ≠ [] → t.slot = none
  others : ∀ op < s.nextOp, (t.ops op).pc = (s.ops op).pc ∧
    (t.ops op).posted = (s.ops op).posted

lemma exec_overlaps {s : State R} {sub : Submission} (hwf : WellFormed s)
    (halive : s.crashed = false) (hfly : s.inFlight = some sub) (l : List Args) :
    ∃ t, exec step s (overlaps s.nextOp l) = some t ∧ RefusedAll s t l := by
  induction l generalizing s with
  | nil =>
    exact ⟨s, rfl, halive, rfl, fun i hi => absurd hi (Nat.not_lt_zero i), by simp,
      fun h => absurd rfl h, fun _ _ => ⟨rfl, rfl⟩⟩
  | cons args l ih =>
    obtain ⟨u, hu, hcall⟩ := exec_overlap hwf halive hfly args
    -- the later calls leave alone what has been reported of the first one
    obtain ⟨t, ht, hrest⟩ := ih hcall.wellFormed hcall.alive (hcall.inFlight.trans hfly)
    refine ⟨t, ?_, hrest.alive, hrest.inFlight.trans hcall.inFlight, ?_, ?_, ?_, ?_⟩
    · rw [overlaps, exec_append hu, ← hcall.nextOp]
      exact ht
    · intro i hi
      cases i with
      | zero => exact (hrest.others _ hcall.reported.called).2.trans hcall.reported.posted
      | succ i =>
        have := hrest.reported i (by simpa using hi)
        rwa [hcall.nextOp, Nat.add_right_comm, Nat.add_assoc] at this
    · intro last hlast
      cases l with
      | nil =>
        obtain rfl : args = last := by simpa using hlast
        cases ht
        exact hcall.args
      | cons args' l => exact hrest.args last (by simpa using hlast)
    · intro _
      cases l with
      | nil =>
        cases ht
        exact hcall.slot
      | cons args' l => exact hrest.slot (List.cons_ne_nil _ _)
    · intro op hop
      have hlt : op < u.nextOp := by
        rw [hcall.nextOp]
        exact Nat.lt_succ_of_lt hop
      obtain ⟨hpc, hposted⟩ := hrest.others op hlt
      obtain ⟨hpc', hposted'⟩ := hcall.others op hop
      exact ⟨hpc.trans hpc', hposted.trans hposted'⟩

/-! ### The operation in flight -/

/-- The operation in flight survives the calls `l`: each call is refused with
`usb_errc::busy`, the handler, the buffer and the length of the operation are still those it
was submitted with, and its completion posts its handler once. -/
def Unharmed (s : State R) (sub : Submission) (l : List Args) : Prop :=
  ∃ t, exec step s (overlaps s.nextOp l) = some t ∧
    (∀ i < l.length, (t.ops (s.nextOp + i)).posted = [busy]) ∧
    t.slot = some sub.op ∧ t.args = sub.args ∧
    ∀ status result, ∃ u, exec step t [.complete status result, .postResult] = some u ∧
      (u.ops sub.op).posted = [⟨makeTransferErrorCode status, result⟩]

/-- A single overlapping call, and the handler of the operation in flight has left the slot. -/
lemma not_unharmed {s : State R} {sub : Submission} {l : List Args} (hwf : WellFormed s)
    (halive : s.crashed = false) (hfly : s.inFlight = some sub) (hne : l ≠ []) :
    ¬ Unharmed s sub l := by
  rintro ⟨t, ht, -, hslot, -⟩
  obtain ⟨u, hu, hrefused⟩ := exec_overlaps hwf halive hfly l
  obtain rfl : u = t := Option.some.inj (hu.symm.trans ht)
  simp [hrefused.slot hne] at hslot

/-- The completion of an operation whose handler is not in the slot calls the empty slot. -/
lemma crashed_of_complete {s u : State R} {status : ℤ} {result : R} (hslot : s.slot = none)
    (hu : exec step s [.complete status result, .postResult] = some u) : u.crashed = true := by
  obtain ⟨t, ht, hlast⟩ := exec_cons_eq_some_iff.mp hu
  obtain ⟨v, hv, hnil⟩ := exec_cons_eq_some_iff.mp hlast
  obtain rfl : v = u := by simpa using hnil
  have hslot' : t.slot = none := by
    cases (Rule.of_step ht).2 with
    | complete => exact hslot
  cases (Rule.of_step hv).2 with
  | postResult => rw [State.invokeHandler_of_empty hslot']

/-- The next handler stored takes the place of the one in flight. -/
lemma gone_of_initiate {s t : State R} {sub : Submission} {op : ℕ} (hwf : WellFormed s)
    (hfly : s.inFlight = some sub) (ht : step s (.initiate op) = some t) :
    Gone sub.op (s.ops sub.op).posted t := by
  have hdone := hwf.submitted sub hfly
  have hlt := hwf.inFlight_lt hfly
  cases (Rule.of_step ht).2 with
  | initiate _ hpc =>
    have hne : sub.op ≠ op := by
      rintro rfl
      simp [hdone] at hpc
    obtain ⟨hpc', hposted⟩ := s.destroyStored_ops sub.op
    refine ⟨by simpa [State.storeHandler] using hlt, ?_, ?_, ?_⟩
    · rw [State.setOp_of_ne _ _ hne]
      exact hpc'.trans hdone
    · simpa [State.storeHandler] using hne.symm
    · rw [State.setOp_of_ne _ _ hne]
      exact hposted

/-- No overlapping call leaves the operation in flight unharmed. The calls themselves are
refused as they should be, but they leave the arguments of the last one in the transfer and an
empty slot; whatever happens then, the handler in flight is not posted any more, and the
completion of its operation calls the empty slot. The handler is lost as soon as the first call
stores its own, wherever the threads are then. -/
theorem overlap_harms_inFlight (s : State R) (hs : Reachable step (init R) s)
    (halive : s.crashed = false) (sub : Submission) (hfly : s.inFlight = some sub)
    (l : List Args) (hne : l ≠ []) :
    ¬ Unharmed s sub l ∧
      (∃ t, exec step s (overlaps s.nextOp l) = some t ∧
        (∀ i < l.length, (t.ops (s.nextOp + i)).posted = [busy]) ∧
        t.slot = none ∧ t.args = l.getLast hne ∧
        (∀ as, Always step (fun u => (u.ops sub.op).posted = (s.ops sub.op).posted) t as) ∧
        ∀ status result u, exec step t [.complete status result, .postResult] = some u →
          u.crashed = true) ∧
      ∀ op t, step s (.initiate op) = some t →
        ∀ as, Always step (fun u => (u.ops sub.op).posted = (s.ops sub.op).posted) t as := by
  have hwf := wellFormed_of_reachable hs
  obtain ⟨t, ht, hrefused⟩ := exec_overlaps hwf halive hfly l
  have hslot := hrefused.slot hne
  have hfly' : t.inFlight = some sub := hrefused.inFlight.trans hfly
  refine ⟨not_unharmed hwf halive hfly hne, ⟨t, ht, hrefused.reported, hslot,
    hrefused.args _ (List.getLast_mem_getLast? hne), ?_, ?_⟩, ?_⟩
  · obtain ⟨hpc, hposted⟩ := hrefused.others sub.op (hwf.inFlight_lt hfly)
    have hlt : sub.op < t.nextOp := (hwf.of_exec ht).inFlight_lt hfly'
    exact Gone.always ⟨hlt, hpc.trans (hwf.submitted sub hfly), by simp [hslot], hposted⟩
  · intro status result u hu
    exact crashed_of_complete hslot hu
  · intro op u hu
    exact (gone_of_initiate hwf hfly hu).always

/-- A first read, and it is in flight. -/
lemma exists_read_inFlight (args : Args) : ∃ s : State ℕ, Reachable step (init ℕ) s ∧
    s.crashed = false ∧ s.inFlight = some ⟨0, args⟩ ∧ s.slot = some 0 ∧ s.args = args :=
  ⟨_, ⟨[.call args, .initiate 0, .submit 0 0], rfl⟩, rfl, rfl, rfl, rfl⟩

/-- A second read while the first one is in flight. -/
theorem overlap_harms_read : ∃ (s : State ℕ) (sub : Submission), s.inFlight = some sub ∧
    ¬ Unharmed s sub [asyncReadSome ⟨8192, 64⟩] := by
  obtain ⟨s, hs, halive, hfly, -⟩ := exists_read_inFlight (asyncReadSome ⟨4096, 512⟩)
  exact ⟨s, _, hfly, (overlap_harms_inFlight s hs halive _ hfly _ (List.cons_ne_nil _ _)).1⟩

/-- The first read is lost to the second one. -/
theorem not_unharmed_read :
    ¬ ∀ (s : State ℕ) (sub : Submission) (l : List Args), Reachable step (init ℕ) s →
      s.crashed = false → s.inFlight = some sub → s.slot = some sub.op → s.args = sub.args →
      Unharmed s sub l := by
  intro h
  obtain ⟨s, hs, halive, hfly, hslot, hargs⟩ :=
    exists_read_inFlight (asyncReadSome ⟨4096, 512⟩)
  have hbad := not_unharmed (wellFormed_of_reachable hs) halive hfly
    (List.cons_ne_nil (asyncReadSome ⟨8192, 64⟩) [])
  exact hbad (h s _ _ hs halive hfly hslot hargs)

end UsbAsio.Transfer
