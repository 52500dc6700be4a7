import UsbAsio.Transfer.Deferred
import UsbAsio.Transfer.Turns

/-!
# Calls in turn

When every operation is called in turn, calls and operations are numbered alike, and libusb has been
given the arguments of the call whose operation it carries out.
-/

namespace UsbAsio.Transfer

variable {R : Type*} [Inhabited R] {s s' : State R} {calls : List Deferred.Call} {op : ℕ}

structure Matched (s : State R) (calls : List Deferred.Call) : Prop where
  turns : Turns s
  deferred : Deferred.Inv ⟨s, calls⟩
  own : ∀ sub, s.inFlight = some sub → ∀ c, calls[sub.op]? = some c → sub.args = c.args

lemma matched_init : Matched (init R) [] where
  turns := turns_init
  deferred := Deferred.inv_init
  own := nofun

/-! ### What follows -/

lemma Matched.exists_call (h : Matched s calls) (hlt : op < s.nextOp) :
    ∃ c, calls[op]? = some c := by
  have hcount : calls.length = s.nextOp := h.deferred.count
  rw [← hcount] at hlt
  exact ⟨_, List.getElem?_eq_getElem hlt⟩

/-- The operation that libusb carries out is the latest one. -/
lemma Matched.exists_inFlight (h : Matched s calls) {sub : Submission}
    (hfly : s.inFlight = some sub) :
    sub.op + 1 = s.nextOp ∧ ∃ c, calls[sub.op]? = some c ∧ sub.args = c.args := by
  have hlast := h.turns.last_of_inFlight hfly
  obtain ⟨c, hc⟩ : ∃ c, calls[sub.op]? = some c := h.exists_call (by omega)
  exact ⟨hlast, c, hc, h.own sub hfly c hc⟩

/-- A new call does not concern the operations so far. -/
lemma Matched.getElem?_append (h : Matched s calls) (hlt : op < s.nextOp) (c : Deferred.Call) :
    (calls ++ [c])[op]? = calls[op]? := by
  have hcount : calls.length = s.nextOp := h.deferred.count
  exact List.getElem?_append_left (by omega)

lemma Matched.lt_of_outcome (h : Matched s calls) {o : Outcome R}
    (ho : (s.ops op).outcome = some o) : op < s.nextOp :=
  h.turns.wellFormed.lt_nextOp fun hnew => by simp [hnew] at ho

/-- A handler that has begun to run has begun for good. -/
lemma not_begun_of_step {a : Action R} (hstep : step s a = some s')
    (h : (s'.ops op).begun = false) : (s.ops op).begun = false := by
  have hdestroy : ∀ k, (s.destroyStored.ops k).begun = (s.ops k).begun :=
    fun k => (congrArg Op.begun (s.destroyStored_visible k) :)
  have hinvoke : ∀ o k, ((s.invokeHandler o).ops k).begun = (s.ops k).begun :=
    fun o k => s.invokeHandler_congr Op.begun o (fun _ _ => rfl) k
  have hset : ∀ (s₁ : State R) k f, ((s₁.setOp k f).ops op).begun = false →
      (∀ k, (s₁.ops k).begun = (s.ops k).begun) →
      (∀ r : Op R, (f r).begun = false → r.begun = false) → (s.ops op).begun = false := by
    intro s₁ k f hop hsame hf
    rw [← hsame]
    by_cases hk : op = k
    · rw [hk, State.setOp_self] at hop
      rw [hk]
      exact hf _ hop
    · rwa [State.setOp_of_ne _ _ hk] at hop
  cases (Rule.of_step hstep).2 with
  | call | refused | accepted | complete => exact hset _ _ _ h (fun _ => rfl) fun _ hr => hr
  | initiate k | resetError k => exact hset _ _ _ h hdestroy fun _ hr => hr
  | postError k ec => exact hset _ _ _ h (hinvoke _) fun _ hr => hr
  | cancel => exact h
  | postResult k o => exact (hinvoke o op).symm.trans h
  | resetSlot => exact (hdestroy op).symm.trans h
  | runHandler k => exact hset _ _ _ h (fun _ => rfl) fun _ hr => by cases hr

/-- While an operation is in flight, the handlers of all others have begun. -/
lemma Matched.begun_of_inFlight (h : Matched s calls) {sub : Submission} {o : Outcome R}
    (hfly : s.inFlight = some sub) (ho : (s.ops op).outcome = some o) (hne : op ≠ sub.op) :
    (s.ops op).begun = true := by
  have hlast := h.turns.last_of_inFlight hfly
  have hlt := h.lt_of_outcome ho
  exact h.turns.begun op (by omega)

/-- An operation without an outcome has a handler that has not begun. -/
lemma Matched.not_begun (h : Matched s calls) (hnone : (s.ops op).outcome = none) :
    (s.ops op).begun = false := by
  rw [← Bool.not_eq_true]
  intro hbegun
  rcases (h.turns.known op).posted with hnil | ⟨o, ho, -⟩
  · exact (h.turns.known op).ran hbegun hnil
  · rw [hnone] at ho
    cases ho

/-- A handler that begins to run is that of the latest operation. -/
lemma Matched.runHandler (h : Matched s calls) (hstep : step s (.runHandler op) = some s') :
    op + 1 = s.nextOp ∧ (s.ops op).begun = false ∧ ∃ c o, calls[op]? = some c ∧
      (s.ops op).outcome = some o ∧ (s.ops op).posted = [o] := by
  obtain ⟨hlast, o, ho, hposted⟩ := h.turns.posted_of_run hstep
  obtain ⟨c, hc⟩ : ∃ c, calls[op]? = some c := h.exists_call (by omega)
  refine ⟨hlast, ?_, c, o, hc, ho, hposted⟩
  rw [step_of_alive (Rule.of_step hstep).1, next] at hstep
  by_contra hbegun
  simp [hbegun] at hstep

/-! ### One step -/

lemma Matched.call (h : Matched s calls) {c : Deferred.Call} (hturn : InTurn s (.call c.args))
    (hstep : step s (.call c.args) = some s') : Matched s' (calls ++ [c]) := by
  obtain ⟨hfly, -⟩ := outcome_step (fun _ _ h => by cases h) (fun _ _ h => by cases h) hstep
  refine ⟨h.turns.call c.args hturn hstep, ?_, ?_⟩
  · refine Deferred.inv_step (a := .call c) h.deferred ?_
    show (Transfer.step s (.call c.args)).map _ = _
    rw [hstep]
    rfl
  · intro sub hsub c' hc'
    rw [hfly] at hsub
    have hlast := h.turns.last_of_inFlight hsub
    rw [h.getElem?_append (by omega)] at hc'
    exact h.own sub hsub c' hc'

/-- The operation that is submitted is the one called last. -/
lemma Matched.own_submit (h : Matched s calls) {retCode : ℤ}
    (hstep : step s (.submit op retCode) = some s') {sub : Submission}
    (hsub : s'.inFlight = some sub) {c : Deferred.Call} (hc : calls[sub.op]? = some c) :
    sub.args = c.args := by
  obtain ⟨hpc, -, hcase⟩ := outcome_submit hstep
  obtain ⟨-, hnil⟩ := (h.turns.known op).early (.inr (.inr hpc))
  rcases hcase with ⟨-, hfly, -⟩ | ⟨-, hfly, -⟩
  · exact h.own sub (hfly ▸ hsub) c hc
  · rw [hfly] at hsub
    cases hsub
    have hnew : s.ops op ≠ {} := fun hnew => by simp [hnew] at hpc
    have hlast := h.turns.last hnew hnil
    have hcount : calls.length = s.nextOp := h.deferred.count
    refine h.deferred.latest c ?_
    show calls.getLast? = some c
    rw [List.getLast?_eq_getElem?, hcount, ← hlast, Nat.add_sub_cancel]
    exact hc

lemma Matched.step (h : Matched s calls) {a : Action R} (hcall : ∀ args, a ≠ .call args)
    (hstep : Transfer.step s a = some s') : Matched s' calls := by
  have hturn : InTurn s a := by
    cases a with
    | call args => exact absurd rfl (hcall args)
    | _ => trivial
  refine ⟨turns_step h.turns hturn hstep, ?_, ?_⟩
  · refine Deferred.inv_step (a := .other a) h.deferred ?_
    cases a with
    | call args => exact absurd rfl (hcall args)
    | _ =>
      show (Transfer.step s _).map _ = _
      rw [hstep]
      rfl
  · intro sub hsub c hc
    cases a with
    | submit op retCode => exact h.own_submit hstep hsub hc
    | complete status result =>
      obtain ⟨-, -, hnone, -⟩ := outcome_complete hstep
      rw [hnone] at hsub
      cases hsub
    | call | initiate | postError | resetError | cancel | postResult | resetSlot | runHandler =>
      obtain ⟨hfly, -⟩ := outcome_step (fun _ _ h => by cases h) (fun _ _ h => by cases h) hstep
      exact h.own sub (hfly ▸ hsub) c hc

/-! ### Operations with an outcome -/

/-- `P` holds of every operation that has an outcome, until its handler begins to run. -/
def Settles (P : ℕ → Deferred.Call → Outcome R → Prop) (s : State R)
    (calls : List Deferred.Call) : Prop :=
  ∀ op c o, calls[op]? = some c → (s.ops op).outcome = some o → (s.ops op).begun = false → P op c o

variable {P Q : ℕ → Deferred.Call → Outcome R → Prop}

omit [Inhabited R] in
lemma settles_init : Settles P (init R) [] := nofun

omit [Inhabited R] in
lemma Settles.imp (h : Settles P s calls) (hPQ : ∀ op c o, calls[op]? = some c →
    (s.ops op).begun = false → P op c o → Q op c o) : Settles Q s calls :=
  fun op c o hc ho hbegun => hPQ op c o hc hbegun (h op c o hc ho hbegun)

/-- What has an outcome keeps it. -/
lemma outcome_eq_none_of_step {a : Action R} (hstep : Transfer.step s a = some s')
    (hnone : (s'.ops op).outcome = none) : (s.ops op).outcome = none := by
  cases a with
  | submit k retCode =>
    obtain ⟨-, -, ⟨-, -, hout⟩ | ⟨-, -, hout⟩⟩ := outcome_submit hstep
    · rw [hout] at hnone
      split_ifs at hnone
      exact hnone
    · rwa [hout] at hnone
  | complete status result =>
    obtain ⟨sub, -, -, -, hout⟩ := outcome_complete hstep
    rw [hout] at hnone
    split_ifs at hnone
    exact hnone
  | call | initiate | postError | resetError | cancel | postResult | resetSlot | runHandler =>
    obtain ⟨-, hout⟩ := outcome_step (fun _ _ h => by cases h) (fun _ _ h => by cases h) hstep
    rwa [hout] at hnone

/-- The operation that is completed gets an outcome. -/
lemma ne_of_complete {status : ℤ} {result : R} {sub : Submission} (hfly : s.inFlight = some sub)
    (hstep : Transfer.step s (.complete status result) = some s')
    (hnone : (s'.ops op).outcome = none) : op ≠ sub.op := by
  obtain ⟨sub', hfly', -, -, hout⟩ := outcome_complete hstep
  obtain rfl : sub' = sub := Option.some.inj (hfly'.symm.trans hfly)
  rintro rfl
  simp [hout] at hnone

lemma Settles.call (h : Settles P s calls) (hm : Matched s calls) {c : Deferred.Call}
    (hstep : Transfer.step s (.call c.args) = some s') : Settles P s' (calls ++ [c]) := by
  obtain ⟨-, hout⟩ := outcome_step (fun _ _ h => by cases h) (fun _ _ h => by cases h) hstep
  intro op c' o hc' ho hbegun
  rw [hout] at ho
  rw [hm.getElem?_append (hm.lt_of_outcome ho)] at hc'
  exact h op c' o hc' ho (not_begun_of_step hstep hbegun)

/-- A submission may be refused. -/
lemma Settles.step (h : Settles P s calls) (hm : Matched s calls) {a : Action R}
    (hcomplete : ∀ status result, a ≠ .complete status result)
    (hrefused : ∀ op c ec, (s.ops op).outcome = none → ec.isError = true → P op c ⟨ec, default⟩)
    (hstep : Transfer.step s a = some s') : Settles P s' calls := by
  intro op c o hc ho hbegun
  have hbegun' := not_begun_of_step hstep hbegun
  by_cases hsubmit : ∃ k retCode, a = .submit k retCode
  · obtain ⟨k, retCode, rfl⟩ := hsubmit
    obtain ⟨hpc, -, hcase⟩ := outcome_submit hstep
    obtain ⟨hnone, -⟩ := (hm.turns.known k).early (.inr (.inr hpc))
    rcases hcase with ⟨herr, -, hout⟩ | ⟨-, -, hout⟩
    · rw [hout] at ho
      split_ifs at ho with hk
      · cases ho
        exact hrefused op c _ (hk ▸ hnone) herr
      · exact h op c o hc ho hbegun'
    · rw [hout] at ho
      exact h op c o hc ho hbegun'
  · push Not at hsubmit
    obtain ⟨-, hout⟩ := outcome_step hsubmit hcomplete hstep
    rw [hout] at ho
    exact h op c o hc ho hbegun'

/-- Only the operation that is completed has a handler that has not begun. -/
lemma Matched.settles_complete (h : Matched s calls) {status : ℤ} {result : R} {sub : Submission}
    (hfly : s.inFlight = some sub) (hstep : Transfer.step s (.complete status result) = some s')
    (hnew : ∀ c, calls[sub.op]? = some c → P sub.op c ⟨makeTransferErrorCode status, result⟩) :
    Settles P s' calls := by
  obtain ⟨sub', hfly', -, -, hout⟩ := outcome_complete hstep
  obtain rfl : sub' = sub := Option.some.inj (hfly'.symm.trans hfly)
  intro op c o hc ho hbegun
  rw [hout] at ho
  split_ifs at ho with hop
  · cases ho
    subst hop
    exact hnew c hc
  · have hbegun' := h.begun_of_inFlight hfly ho hop
    rw [not_begun_of_step hstep hbegun] at hbegun'
    cases hbegun'

end UsbAsio.Transfer
