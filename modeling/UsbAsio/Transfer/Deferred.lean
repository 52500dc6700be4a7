import UsbAsio.Transfer.Control
import UsbAsio.Transfer.Frame

/-!
# Deferred initiations

A call of `async_read_some`, `async_write_some` or `async_control` writes its buffer into the
`libusb_transfer` at once, and the completion token decides when the initiation submits the
transfer. What is submitted is what the latest call has written: the operation's own buffer as
long as no other call comes in between, as with tokens that initiate at once.

The initiations may be interleaved in any way; they need not be run one after another.
-/

namespace UsbAsio.Transfer.Deferred

open Transition

/-! ### Calls -/

/-- The functions that start an operation. -/
inductive Call where
  | asyncReadSome (buffer : Buffer)
  | asyncWriteSome (buffer : Buffer)
  | asyncControl (request : ControlRequest) (buffer : ControlTransferBuffer)

/-- `handle->buffer` and `handle->length`, as a call derives them from its buffer. -/
def Call.args : Call → Args
  | .asyncReadSome buffer  => Transfer.asyncReadSome buffer
  | .asyncWriteSome buffer => Transfer.asyncWriteSome buffer
  | .asyncControl _ buffer => ⟨buffer.data, toInt32 (buffer.size + controlSetupSize)⟩

/-- The buffer of a call. -/
def Call.buffer : Call → Buffer
  | .asyncReadSome buffer | .asyncWriteSome buffer => buffer
  | .asyncControl _ buffer                         => buffer.payload

/-- They are those that `async_control` fills in. -/
lemma Call.args_asyncControl (r : ControlRequest) (b : ControlTransferBuffer) :
    (Transfer.asyncControl r b).map Prod.fst = some (Call.asyncControl r b).args := by
  rw [asyncControl_eq]
  rfl

/-! ### Steps -/

/-- A transfer, and the calls that have been made on it: the one of operation 0 stands first. -/
structure World (R : Type*) where
  transfer : State R
  calls : List Call

def init (R : Type*) : World R := ⟨Transfer.init R, []⟩

inductive Action (R : Type*) where
  | call (c : Call)
  | other (a : Transfer.Action R)

variable {R : Type*} [Inhabited R]

def step (w : World R) : Action R → Option (World R)
  | .call c            => (Transfer.step w.transfer (.call c.args)).map fun t => ⟨t, w.calls ++ [c]⟩
  | .other (.call _)   => none
  | .other a           => (Transfer.step w.transfer a).map fun t => { w with transfer := t }

/-! ### The property and the conditions -/

/-- A property of the moments at which the initiation of an operation calls
`libusb_submit_transfer`. -/
def AtSubmit (P : World R → ℕ → Prop) (w : World R) : Action R → Prop
  | .other (.submit op _) => P w op
  | _                     => True

instance {P : World R → ℕ → Prop} [∀ w op, Decidable (P w op)] (w : World R) (a : Action R) :
    Decidable (AtSubmit P w a) :=
  match a with
  | .other (.submit op _) => inferInstanceAs (Decidable (P w op))
  | .call _ | .other (.call _) | .other (.initiate _) | .other (.postError _)
  | .other (.resetError _) | .other .cancel | .other (.complete _ _) | .other .postResult
  | .other .resetSlot | .other (.runHandler _) => inferInstanceAs (Decidable True)

/-- The operation submits its own buffer. -/
def OwnBuffer (w : World R) (op : ℕ) : Prop := ∀ c ∈ w.calls[op]?, w.transfer.args = c.args

instance (w : World R) (op : ℕ) : Decidable (OwnBuffer w op) :=
  inferInstanceAs (Decidable (∀ c ∈ w.calls[op]?, _))

/-- The latest call is the one of the operation, or one with the same buffer. -/
def LatestCall (w : World R) (op : ℕ) : Prop :=
  ∀ c ∈ w.calls[op]?, ∀ latest ∈ w.calls.getLast?, c.args = latest.args

/-- The operation has been called, and has not submitted the transfer yet. -/
def Waiting (s : State R) (op : ℕ) : Prop := (s.ops op).pc = .called ∨ (s.ops op).pc = .stored

/-- When an operation is started, the earlier ones have submitted the transfer. -/
def Eager (w : World R) : Action R → Prop
  | .call _ => ∀ op, ¬ Waiting w.transfer op
  | _       => True

/-! ### The invariants -/

/-- The transfer carries the arguments of the latest call. -/
structure Inv (w : World R) : Prop where
  latest : ∀ c ∈ w.calls.getLast?, w.transfer.args = c.args
  count : w.calls.length = w.transfer.nextOp

omit [Inhabited R] in
lemma inv_init : Inv (init R) := ⟨nofun, rfl⟩

/-- A step is a call, or some other step of the transfer. -/
lemma step_cases {w w' : World R} {a : Action R} (h : step w a = some w') :
    (∃ c t, a = .call c ∧ Transfer.step w.transfer (.call c.args) = some t ∧
      w' = ⟨t, w.calls ++ [c]⟩) ∨
    ∃ b t, a = .other b ∧ (∀ args, b ≠ .call args) ∧ Transfer.step w.transfer b = some t ∧
      w' = { w with transfer := t } := by
  cases a with
  | call c =>
    obtain ⟨t, ht, rfl⟩ := Option.map_eq_some_iff.mp h
    exact Or.inl ⟨c, t, rfl, ht, rfl⟩
  | other b =>
    cases b with
    | call => cases h
    | initiate | submit | postError | resetError | cancel | complete | postResult | resetSlot
    | runHandler =>
      obtain ⟨t, ht, rfl⟩ := Option.map_eq_some_iff.mp h
      exact Or.inr ⟨_, t, rfl, nofun, ht, rfl⟩

lemma inv_step {w w' : World R} {a : Action R} (h : Inv w) (hstep : step w a = some w') :
    Inv w' := by
  rcases step_cases hstep with ⟨c, t, rfl, ht, rfl⟩ | ⟨b, t, rfl, hb, ht, rfl⟩
  · have hargs : t.args = c.args ∧ t.nextOp = w.transfer.nextOp + 1 := by
      cases (Rule.of_step ht).2
      exact ⟨rfl, rfl⟩
    constructor
    · intro latest hlatest
      rw [List.getLast?_append, List.getLast?_singleton] at hlatest
      obtain rfl : c = latest := by simpa using hlatest
      exact hargs.1
    · rw [List.length_append, List.length_singleton, h.count, hargs.2]
  · obtain ⟨hargs, hnext⟩ := args_step hb ht
    constructor
    · rw [hargs]
      exact h.latest
    · rw [hnext]
      exact h.count

/-- Only a call makes an operation wait. -/
lemma waiting_of_step {s t : State R} {a : Transfer.Action R} (ha : ∀ args, a ≠ .call args)
    (ht : Transfer.step s a = some t) {op : ℕ} (hop : Waiting t op) : Waiting s op := by
  have hset : ∀ {s₁ : State R} {k : ℕ} {f : Op R → Op R}, Waiting (s₁.setOp k f) op →
      (∀ op, (s₁.ops op).pc = (s.ops op).pc) → (Waiting (s₁.setOp k f) k → Waiting s k) →
        Waiting s op := by
    intro s₁ k f hwait hsame hk
    by_cases hne : op = k
    · subst hne
      exact hk hwait
    · rwa [Waiting, State.setOp_of_ne _ _ hne, hsame] at hwait
  have hdestroy : ∀ op, (s.destroyStored.ops op).pc = (s.ops op).pc := fun op =>
    (s.destroyStored_ops op).1
  cases (Rule.of_step ht).2 with
  | call args => exact absurd rfl (ha args)
  | initiate k hpc => exact hset hop hdestroy fun _ => Or.inl hpc
  | refused k | accepted k => exact hset hop (fun _ => rfl) (by simp [Waiting])
  | postError k ec => exact hset hop (fun op => s.invokeHandler_pc _ op) (by simp [Waiting])
  | resetError k => exact hset hop hdestroy (by simp [Waiting])
  | cancel => exact hop
  | complete status result sub => exact hset hop (fun _ => rfl) (by simp [Waiting])
  | postResult k o => simpa only [Waiting, s.invokeHandler_pc o op] using hop
  | resetSlot => simpa only [Waiting, State.resetHandler, hdestroy op] using hop
  | runHandler k => exact hset hop (fun _ => rfl) (by simp [Waiting])

/-- Only the operation called last waits. -/
structure EagerInv (w : World R) : Prop extends Inv w where
  last : ∀ op, Waiting w.transfer op → op + 1 = w.calls.length

lemma eagerInv_step {w w' : World R} {a : Action R} (h : EagerInv w) (heager : Eager w a)
    (hstep : step w a = some w') : EagerInv w' := by
  refine ⟨inv_step h.toInv hstep, ?_⟩
  rcases step_cases hstep with ⟨c, t, rfl, ht, rfl⟩ | ⟨b, t, rfl, hb, ht, rfl⟩
  · intro op hop
    cases (Rule.of_step ht).2
    by_cases hne : op = w.transfer.nextOp
    · rw [hne, List.length_append, h.count, List.length_singleton]
    · rw [Waiting, State.setOp_of_ne _ _ hne] at hop
      exact absurd hop (heager op)
  · intro op hop
    exact h.last op (waiting_of_step hb ht hop)

/-- The operation that submits is the one called last. -/
lemma EagerInv.latestCall {w w' : World R} {a : Action R} (h : EagerInv w)
    (hstep : step w a = some w') : AtSubmit LatestCall w a := by
  cases a with
  | call => trivial
  | other b =>
    cases b with
    | submit op retCode =>
      obtain ⟨t, ht, -⟩ := Option.map_eq_some_iff.mp hstep
      have hstored : (w.transfer.ops op).pc = .stored := by
        cases (Rule.of_step ht).2 with
        | refused _ _ _ hpc => exact hpc
        | accepted _ _ hpc => exact hpc
      have hlast := h.last op (Or.inr hstored)
      intro c hc latest hlatest
      rw [List.getLast?_eq_getElem?, ← hlast, Nat.add_sub_cancel] at hlatest
      cases hc.symm.trans hlatest
      rfl
    | call | initiate | postError | resetError | cancel | complete | postResult | resetSlot
    | runHandler => trivial

/-! ### Every run -/

omit [Inhabited R] in
/-- Some call is the latest, when there is one at all. -/
lemma Inv.exists_latest {w : World R} (h : Inv w) {op : ℕ} {c : Call} (hc : c ∈ w.calls[op]?) :
    ∃ latest ∈ w.calls.getLast?, w.transfer.args = latest.args := by
  have hne : w.calls ≠ [] := List.ne_nil_of_mem (List.mem_of_getElem? hc)
  have hlast := List.getLast?_eq_some_getLast hne
  exact ⟨_, hlast, h.latest _ hlast⟩

/-- What the invariant implies at a submission may be used along a run. -/
lemma along_atSubmit {P Q : World R → ℕ → Prop} (hPQ : ∀ w op, Inv w → P w op → Q w op)
    {as : List (Action R)} (h : Along step (AtSubmit P) (init R) as) :
    Along step (AtSubmit Q) (init R) as := by
  refine along_of_invariant (fun _ _ _ hw _ => inv_step hw) ?_ inv_init h
  intro w a w' hw hP _
  unfold AtSubmit at hP ⊢
  split at hP
  · exact hPQ w _ hw hP
  · trivial

/-- Every operation submits its own buffer exactly when, each time an initiation submits, the
latest call is the one of its operation or has the same buffer; and this is so when every
operation is initiated before the next one is called. -/
theorem along_ownBuffer_iff_latestCall (as : List (Action R)) :
    (Along step (AtSubmit OwnBuffer) (init R) as ↔
      Along step (AtSubmit LatestCall) (init R) as) ∧
    (Along step Eager (init R) as → Along step (AtSubmit OwnBuffer) (init R) as) := by
  have hmp : ∀ (w : World R) op, Inv w → OwnBuffer w op → LatestCall w op :=
    fun w op h hown c hc latest hlatest => (hown c hc).symm.trans (h.latest latest hlatest)
  have hmpr : ∀ (w : World R) op, Inv w → LatestCall w op → OwnBuffer w op := by
    intro w op h hcall c hc
    obtain ⟨latest, hlatest, hargs⟩ := h.exists_latest hc
    rw [hargs, hcall c hc latest hlatest]
  refine ⟨⟨along_atSubmit hmp, along_atSubmit hmpr⟩, fun heager => along_atSubmit hmpr ?_⟩
  have hinit : EagerInv (init R) := ⟨inv_init, by simp [Waiting, init, Transfer.init]⟩
  exact along_of_invariant (fun _ _ _ => eagerInv_step) (fun _ _ _ h _ => h.latestCall) hinit heager

/-- Two reads are called with a token that initiates later; the first one submits the buffer of
the second. -/
theorem not_ownBuffer_two_reads :
    ¬ ∀ as : List (Action ℕ), Along step (AtSubmit OwnBuffer) (init ℕ) as := by
  intro h
  have hnot : ¬ Along step (AtSubmit OwnBuffer) (init ℕ)
      [.call (.asyncReadSome ⟨4096, 64⟩), .call (.asyncReadSome ⟨8192, 512⟩),
        .other (.initiate 0), .other (.submit 0 0)] := by
    decide
  exact hnot (h _)

end UsbAsio.Transfer.Deferred
