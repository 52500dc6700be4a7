import UsbAsio.Error
import UsbAsio.Narrowing.Basic
import UsbAsio.Transition.Basic

/-!
# One transfer object

A `basic_usb_transfer` owns a `libusb_transfer` and a completion context with a single handler
slot. The state below is the two of them together with every thread that touches them: the
threads that run the initiations of operations, the event thread inside `completion_callback`,
and the executor that runs posted handlers. A step is one access to the shared state, so a run
is an interleaving of the threads.

Operations are numbered in the order of their calls; the number of an operation stands for its
completion handler.
-/

namespace UsbAsio

/-- `asio::mutable_buffer`, `asio::const_buffer`: an address and a size in bytes. -/
structure Buffer where
  data : ℕ
  size : ℕ
  deriving DecidableEq

/-- `static_cast<int>`. -/
def toInt32 (n : ℤ) : ℤ := n.bmod (2 ^ 32)

lemma toInt32_eq_self_iff {n : ℤ} : toInt32 n = n ↔ -2 ^ 31 ≤ n ∧ n < 2 ^ 31 :=
  Narrowing.signed_eq_self_iff (w := 31)

namespace Transfer

/-! ### Calls -/

/-- The fields of a `libusb_transfer` that a call writes before it submits. -/
structure Args where
  buffer : ℕ
  length : ℤ
  deriving DecidableEq

def asyncReadSome (b : Buffer) : Args := ⟨b.data, toInt32 b.size⟩

def asyncWriteSome (b : Buffer) : Args := ⟨b.data, toInt32 b.size⟩

/-! ### State -/

/-- The arguments of a completion handler. -/
structure Outcome (R : Type*) where
  ec : ErrorCode
  result : R
  deriving DecidableEq

/-- Where the thread that starts an operation is. -/
inductive SubmitPc where
  | idle
  | called                   -- `buffer` and `length` written
  | stored                   -- handler stored, about to submit
  | failed (ec : ErrorCode)  -- submission failed, about to post the handler
  | resetting                -- handler posted, about to reset the slot
  | done
  deriving DecidableEq

/-- Where the event thread is with respect to this transfer. -/
inductive CallbackPc (R : Type*) where
  | idle
  | running (op : ℕ) (o : Outcome R)  -- about to call `context.handler(ec, result)`
  | resetting                            -- about to call `context.handler.reset()`
  deriving DecidableEq

/-- The history of one operation. -/
structure Op (R : Type*) where
  pc : SubmitPc := .idle
  /-- What libusb reported for the operation. -/
  outcome : Option (Outcome R) := none
  /-- What its handler has been posted with, latest first. -/
  posted : List (Outcome R) := []
  begun : Bool := false
  /-- Its handler was destroyed in the slot before it was posted. -/
  destroyed : Bool := false

/-- A transfer that libusb has accepted. -/
structure Submission where
  op : ℕ
  args : Args
  deriving DecidableEq

structure State (R : Type*) where
  args : Args := ⟨0, 0⟩
  /-- `completion_context_->handler`. -/
  slot : Option ℕ := none
  inFlight : Option Submission := none
  callbackPc : CallbackPc R := .idle
  nextOp : ℕ := 0
  ops : ℕ → Op R := fun _ => {}
  /-- `completion_handler_t::operator()` has been called on an empty slot. -/
  crashed : Bool := false

/-- A transfer after its construction. -/
def init (R : Type*) : State R := {}

variable {R : Type*}

def State.setOp (s : State R) (op : ℕ) (f : Op R → Op R) : State R :=
  { s with ops := Function.update s.ops op (f (s.ops op)) }

/-! ### The handler slot -/

/-- The `handler_impl` in the slot, if there is one, is destroyed. -/
def State.destroyStored (s : State R) : State R :=
  { s with ops := fun op =>
      if s.slot = some op ∧ (s.ops op).posted = [] then { s.ops op with destroyed := true }
      else s.ops op }

/-- `context->handler = completion_handler_t{executor, std::move(completion_handler)}`. -/
def State.storeHandler (s : State R) (op : ℕ) : State R :=
  { s.destroyStored with slot := some op }

/-- `completion_handler_t::reset`. -/
def State.resetHandler (s : State R) : State R :=
  { s.destroyStored with slot := none }

/-- `completion_handler_t::operator()`: posts the stored handler. -/
def State.invokeHandler (s : State R) (o : Outcome R) : State R :=
  match s.slot with
  | none    => { s with crashed := true }
  | some op => s.setOp op fun r => { r with posted := o :: r.posted }

/-! ### Steps -/

inductive Action (R : Type*) where
  | call (args : Args)
  | initiate (op : ℕ)
  | submit (op : ℕ) (retCode : ℤ)
  | postError (op : ℕ)
  | resetError (op : ℕ)
  | cancel
  | complete (status : ℤ) (result : R)
  | postResult
  | resetSlot
  | runHandler (op : ℕ)

/-- `libusb_submit_transfer` refuses a transfer that is in flight; otherwise `retCode` is its
answer. -/
def State.libusbSubmitTransfer (s : State R) (retCode : ℤ) : ℤ :=
  if s.inFlight.isSome then UsbErrc.busy.value else retCode

/-- One step of a process that has not crashed. `initiate`, `submit`, `postError` and
`resetError` are `async_submit_impl`; `complete`, `postResult` and `resetSlot` are
`completion_callback`, which libusb runs once for each transfer it accepted. -/
def next [Inhabited R] (s : State R) : Action R → Option (State R)
  | .call args =>
    some ({ s with args := args, nextOp := s.nextOp + 1 }.setOp s.nextOp
      fun r => { r with pc := .called })
  | .initiate op =>
    match (s.ops op).pc with
    | .called => some ((s.storeHandler op).setOp op fun r => { r with pc := .stored })
    | _       => none
  | .submit op retCode =>
    match (s.ops op).pc with
    | .stored =>
      let ec := (libusbTry (s.libusbSubmitTransfer retCode)).1
      if ec.isError then
        some (s.setOp op fun r => { r with pc := .failed ec, outcome := some ⟨ec, default⟩ })
      else
        some ({ s with inFlight := some ⟨op, s.args⟩ }.setOp op fun r => { r with pc := .done })
    | _       => none
  | .postError op =>
    match (s.ops op).pc with
    | .failed ec =>
      some ((s.invokeHandler ⟨ec, default⟩).setOp op fun r => { r with pc := .resetting })
    | _          => none
  | .resetError op =>
    match (s.ops op).pc with
    | .resetting => some (s.resetHandler.setOp op fun r => { r with pc := .done })
    | _          => none
  | .cancel => some s  -- libusb reports the cancellation through the callback
  | .complete status result =>
    match s.inFlight, s.callbackPc with
    | some sub, .idle =>
      let o : Outcome R := ⟨makeTransferErrorCode status, result⟩
      some ({ s with inFlight := none, callbackPc := .running sub.op o }.setOp sub.op
        fun r => { r with outcome := some o })
    | _, _            => none
  | .postResult =>
    match s.callbackPc with
    | .running _ o => some { s.invokeHandler o with callbackPc := .resetting }
    | _            => none
  | .resetSlot =>
    match s.callbackPc with
    | .resetting => some { s.resetHandler with callbackPc := .idle }
    | _          => none
  | .runHandler op =>
    if (s.ops op).posted.isEmpty || (s.ops op).begun then none
    else some (s.setOp op fun r => { r with begun := true })

/-- Nothing happens after a call on an empty slot. -/
def step [Inhabited R] (s : State R) (a : Action R) : Option (State R) :=
  if s.crashed then none else next s a

/-- The rules of `next`, one for each way a step can go. -/
inductive Rule [Inhabited R] (s : State R) : Action R → State R → Prop where
  | call (args : Args) : Rule s (.call args)
      ({ s with args := args, nextOp := s.nextOp + 1 }.setOp s.nextOp
        fun r => { r with pc := .called })
  | initiate (op : ℕ) (hpc : (s.ops op).pc = .called) : Rule s (.initiate op)
      ((s.storeHandler op).setOp op fun r => { r with pc := .stored })
  | refused (op : ℕ) (retCode : ℤ) (ec : ErrorCode) (hpc : (s.ops op).pc = .stored)
      (hec : ec = (libusbTry (s.libusbSubmitTransfer retCode)).1) (herr : ec.isError = true) :
      Rule s (.submit op retCode)
      (s.setOp op fun r => { r with pc := .failed ec, outcome := some ⟨ec, default⟩ })
  | accepted (op : ℕ) (retCode : ℤ) (hpc : (s.ops op).pc = .stored)
      (hok : (libusbTry (s.libusbSubmitTransfer retCode)).1.isError = false) :
      Rule s (.submit op retCode)
      ({ s with inFlight := some ⟨op, s.args⟩ }.setOp op fun r => { r with pc := .done })
  | postError (op : ℕ) (ec : ErrorCode) (hpc : (s.ops op).pc = .failed ec) :
      Rule s (.postError op)
      ((s.invokeHandler ⟨ec, default⟩).setOp op fun r => { r with pc := .resetting })
  | resetError (op : ℕ) (hpc : (s.ops op).pc = .resetting) : Rule s (.resetError op)
      (s.resetHandler.setOp op fun r => { r with pc := .done })
  | cancel : Rule s .cancel s
  | complete (status : ℤ) (result : R) (sub : Submission) (hfly : s.inFlight = some sub)
      (hcb : s.callbackPc = .idle) : Rule s (.complete status result)
      ({ s with inFlight := none
                callbackPc := .running sub.op ⟨makeTransferErrorCode status, result⟩ }.setOp
        sub.op fun r => { r with outcome := some ⟨makeTransferErrorCode status, result⟩ })
  | postResult (op : ℕ) (o : Outcome R) (hcb : s.callbackPc = .running op o) :
      Rule s .postResult { s.invokeHandler o with callbackPc := .resetting }
  | resetSlot (hcb : s.callbackPc = .resetting) :
      Rule s .resetSlot { s.resetHandler with callbackPc := .idle }
  | runHandler (op : ℕ) (hposted : (s.ops op).posted ≠ []) : Rule s (.runHandler op)
      (s.setOp op fun r => { r with begun := true })

/-- Every step is an instance of a rule. -/
lemma Rule.of_step [Inhabited R] {s t : State R} {a : Action R} (h : step s a = some t) :
    s.crashed = false ∧ Rule s a t := by
  unfold step at h
  split_ifs at h with hcrashed
  refine ⟨by simpa using hcrashed, ?_⟩
  cases a with
  | call args => cases h; exact .call args
  | initiate op =>
    cases hpc : (s.ops op).pc <;> simp only [next, hpc] at h <;> cases h
    exact .initiate op hpc
  | submit op retCode =>
    cases hpc : (s.ops op).pc <;> simp only [next, hpc] at h <;> try contradiction
    split_ifs at h with herr <;> cases h
    · exact .refused op retCode _ hpc rfl herr
    · exact .accepted op retCode hpc (by simpa using herr)
  | postError op =>
    cases hpc : (s.ops op).pc <;> simp only [next, hpc] at h <;> cases h
    exact .postError op _ hpc
  | resetError op =>
    cases hpc : (s.ops op).pc <;> simp only [next, hpc] at h <;> cases h
    exact .resetError op hpc
  | cancel => cases h; exact .cancel
  | complete status result =>
    simp only [next] at h
    split at h <;> cases h
    exact .complete status result _ ‹_› ‹_›
  | postResult =>
    cases hcb : s.callbackPc <;> simp only [next, hcb] at h <;> cases h
    exact .postResult _ _ hcb
  | resetSlot =>
    cases hcb : s.callbackPc <;> simp only [next, hcb] at h <;> cases h
    exact .resetSlot hcb
  | runHandler op =>
    simp only [next] at h
    split_ifs at h with hcond
    cases h
    refine .runHandler op fun hnil => hcond ?_
    simp [hnil]

lemma step_of_alive [Inhabited R] {s : State R} (h : s.crashed = false) (a : Action R) :
    step s a = next s a := by
  simp [step, h]

/-! ### Frame lemmas -/

@[simp] lemma State.setOp_self (s : State R) (op : ℕ) (f : Op R → Op R) :
    (s.setOp op f).ops op = f (s.ops op) := by simp [State.setOp]

lemma State.setOp_of_ne (s : State R) {op op' : ℕ} (f : Op R → Op R) (h : op' ≠ op) :
    (s.setOp op f).ops op' = s.ops op' := by simp [State.setOp, h]

/-- An update that leaves `p` alone leaves it alone in every operation. -/
lemma State.setOp_congr {α : Type*} (p : Op R → α) (s : State R) (k : ℕ) {f : Op R → Op R}
    (hf : ∀ r, p (f r) = p r) (op : ℕ) : p ((s.setOp k f).ops op) = p (s.ops op) := by
  by_cases hk : op = k
  · rw [hk, State.setOp_self]
    exact hf _
  · rw [State.setOp_of_ne _ _ hk]

lemma State.setOp_setOp (s : State R) (op : ℕ) (f g : Op R → Op R) :
    (s.setOp op f).setOp op g = s.setOp op (g ∘ f) := by simp [State.setOp]

@[simp] lemma State.setOp_args (s : State R) (op : ℕ) (f : Op R → Op R) :
    (s.setOp op f).args = s.args := rfl

@[simp] lemma State.setOp_slot (s : State R) (op : ℕ) (f : Op R → Op R) :
    (s.setOp op f).slot = s.slot := rfl

@[simp] lemma State.setOp_inFlight (s : State R) (op : ℕ) (f : Op R → Op R) :
    (s.setOp op f).inFlight = s.inFlight := rfl

@[simp] lemma State.setOp_callbackPc (s : State R) (op : ℕ) (f : Op R → Op R) :
    (s.setOp op f).callbackPc = s.callbackPc := rfl

@[simp] lemma State.setOp_nextOp (s : State R) (op : ℕ) (f : Op R → Op R) :
    (s.setOp op f).nextOp = s.nextOp := rfl

@[simp] lemma State.setOp_crashed (s : State R) (op : ℕ) (f : Op R → Op R) :
    (s.setOp op f).crashed = s.crashed := rfl

/-- Every handler in the slot has been posted already. -/
def State.Spent (s : State R) : Prop := ∀ op, s.slot = some op → (s.ops op).posted ≠ []

/-- Emptying a spent slot harms nobody. -/
lemma State.Spent.destroyStored {s : State R} (h : s.Spent) : s.destroyStored = s := by
  have hops : s.destroyStored.ops = s.ops := by
    funext op
    exact if_neg fun hop => h op hop.1 hop.2
  calc s.destroyStored = { s with ops := s.destroyStored.ops } := rfl
    _ = s := by rw [hops]

lemma State.invokeHandler_of_slot {s : State R} {op : ℕ} (h : s.slot = some op)
    (o : Outcome R) :
    s.invokeHandler o = s.setOp op fun r => { r with posted := o :: r.posted } := by
  simp [State.invokeHandler, h]

lemma State.invokeHandler_of_empty {s : State R} (h : s.slot = none) (o : Outcome R) :
    s.invokeHandler o = { s with crashed := true } := by
  simp only [State.invokeHandler, h]

end Transfer

end UsbAsio
