import Mathlib.Data.Nat.Bitwise
import UsbAsio.Transfer.Constructors
import UsbAsio.Transfer.Deferred

/-!
# The direction of a transfer

The direction of a `basic_usb_transfer` is a parameter of the class and decides which of
`async_read_some` and `async_write_some` exists. libusb goes by bit 7 of the endpoint, which the
caller supplies: the two agree only if the caller has set the bit to the direction.
-/

namespace UsbAsio.Transfer.Direction

open Transition

/-! ### libusb -/

/-- libusb takes the transfer for one from the device to the host: `LIBUSB_ENDPOINT_IN`. -/
def deviceToHost (t : LibusbTransfer) : Bool := t.endpoint &&& 0x80 ≠ 0

/-- The direction in which libusb moves the bytes. -/
def directionOf (t : LibusbTransfer) : UsbTransferDirection :=
  if deviceToHost t then .«in» else .out

/-- Bit 7 of a byte is set or not. -/
lemma and_directionMask (e : UInt8) : e &&& 0x80 = 0x80 ∨ e &&& 0x80 = 0 := by
  have hbit : (e &&& 0x80).toNat = (e.toNat.testBit 7).toNat * 2 ^ 7 := by
    rw [UInt8.toNat_and]
    exact Nat.and_two_pow e.toNat 7
  cases hb : e.toNat.testBit 7 with
  | true => exact Or.inl (UInt8.toNat_inj.mp (by rw [hbit, hb]; rfl))
  | false => exact Or.inr (UInt8.toNat_inj.mp (by rw [hbit, hb]; rfl))

lemma directionOf_eq_iff (t : LibusbTransfer) (direction : UsbTransferDirection) :
    directionOf t = direction ↔ t.endpoint &&& 0x80 = direction.value := by
  rcases and_directionMask t.endpoint with h | h <;>
    cases direction <;> simp [directionOf, deviceToHost, h, UsbTransferDirection.value]

/-- The memory after the completion of a transfer that moves the bytes `data`. -/
def received (t : LibusbTransfer) (args : Args) (data : List UInt8) (memory : ℕ → UInt8) :
    ℕ → UInt8 :=
  if deviceToHost t then fun addr =>
    if args.buffer ≤ addr then data.getD (addr - args.buffer) (memory addr) else memory addr
  else memory

/-- The addresses of the bytes that it sends to the device. -/
def sent (t : LibusbTransfer) (args : Args) (data : List UInt8) : Finset ℕ :=
  if deviceToHost t then ∅ else Finset.Ico args.buffer (args.buffer + data.length)

/-! ### Steps -/

/-- The direction that a call requires of its transfer. -/
def requires : Deferred.Call → Option UsbTransferDirection
  | .asyncReadSome _  => some .«in»
  | .asyncWriteSome _ => some .out
  | .asyncControl _ _ => none

/-- A transfer with its calls, and the memory of the process. -/
structure World (R : Type*) where
  started : Deferred.World R
  memory : ℕ → UInt8

def init (R : Type*) (memory : ℕ → UInt8) : World R := ⟨Deferred.init R, memory⟩

inductive Action (R : Type*) where
  | call (c : Deferred.Call)
  | other (a : Transfer.Action R)
  /-- A completion that has moved the bytes `data`. -/
  | complete (status : ℤ) (result : R) (data : List UInt8)

variable {R : Type*} [Inhabited R]

/-- Only the calls exist that the direction of the class allows, and a completion moves at most
`length` bytes. -/
def step (direction : UsbTransferDirection) (t : LibusbTransfer) (w : World R) :
    Action R → Option (World R)
  | .call c                      =>
    if requires c = some direction then
      (Deferred.step w.started (.call c)).map fun started => { w with started := started }
    else none
  | .other (.complete _ _)       => none
  | .other a                     =>
    (Deferred.step w.started (.other a)).map fun started => { w with started := started }
  | .complete status result data =>
    match w.started.transfer.inFlight with
    | none     => none
    | some sub =>
      if data.length ≤ sub.args.length then
        (Deferred.step w.started (.other (.complete status result))).map fun started =>
          ⟨started, received t sub.args data w.memory⟩
      else none

/-! ### The property -/

/-- The bytes of a buffer. -/
def bytesOf (b : Buffer) : Finset ℕ := Finset.Ico b.data (b.data + b.size)

/-- What has been started with a call is submitted in the direction of the call; a completion
changes no byte of a buffer passed to `async_write_some`, and sends none of a buffer passed to
`async_read_some`. -/
def Faithful (t : LibusbTransfer) (w : World R) : Action R → Prop
  | .other (.submit op _)  => ∀ c ∈ w.started.calls[op]?, requires c = some (directionOf t)
  | .complete _ _ data     => ∀ sub ∈ w.started.transfer.inFlight, ∀ c ∈ w.started.calls,
    (requires c = some .out → ∀ addr ∈ bytesOf c.buffer,
      received t sub.args data w.memory addr = w.memory addr) ∧
    (requires c = some .«in» → Disjoint (bytesOf c.buffer) (sent t sub.args data))
  | _                      => True

/-! ### The invariant -/

/-- All calls are of the direction of the class. -/
def Directed (direction : UsbTransferDirection) (w : World R) : Prop :=
  ∀ c ∈ w.started.calls, requires c = some direction

lemma directed_step {direction : UsbTransferDirection} {t : LibusbTransfer} {w w' : World R}
    {a : Action R} (h : Directed direction w) (hstep : step direction t w a = some w') :
    Directed direction w' := by
  have hother : ∀ b started, Deferred.step w.started (.other b) = some started →
      ∀ memory, Directed direction ⟨started, memory⟩ := by
    intro b started hb memory c hc
    rcases Deferred.step_cases hb with ⟨_, _, hcall, -⟩ | ⟨_, _, -, -, -, rfl⟩
    · cases hcall
    · exact h c hc
  -- only a call adds to the calls, and the type of the transfer decides which it has
  cases a with
  | call c =>
    obtain ⟨hrequires, hstep⟩ := Option.ite_none_right_eq_some.mp hstep
    obtain ⟨started, hstarted, rfl⟩ := Option.map_eq_some_iff.mp hstep
    rcases Deferred.step_cases hstarted with ⟨_, t', ⟨⟩, -, rfl⟩ | ⟨_, _, hcall, -⟩
    · intro c' hc'
      rcases List.mem_append.mp hc' with hc' | hc'
      · exact h c' hc'
      · rwa [List.mem_singleton.mp hc']
    · cases hcall
  | other b =>
    cases b with
    | complete => cases hstep
    | call => simp [step, Deferred.step] at hstep
    | initiate | submit | postError | resetError | cancel | postResult | resetSlot
    | runHandler =>
      obtain ⟨started, hstarted, rfl⟩ := Option.map_eq_some_iff.mp hstep
      exact hother _ started hstarted w.memory
  | complete status result data =>
    simp only [step] at hstep
    split at hstep
    · cases hstep
    · obtain ⟨-, hstep⟩ := Option.ite_none_right_eq_some.mp hstep
      obtain ⟨started, hstarted, rfl⟩ := Option.map_eq_some_iff.mp hstep
      exact hother _ started hstarted _

/-! ### Agreement -/

omit [Inhabited R] in
/-- libusb moves the bytes in the direction of all calls. -/
lemma Directed.faithful {t : LibusbTransfer} {w : World R} (h : Directed (directionOf t) w)
    (a : Action R) : Faithful t w a := by
  cases a with
  | call => trivial
  | other b =>
    cases b with
    | submit op retCode => exact fun c hc => h c (List.mem_of_getElem? hc)
    | call | initiate | complete | postError | resetError | cancel | postResult | resetSlot
    | runHandler => trivial
  | complete status result data =>
    intro sub hsub c hc
    have hdir := h c hc
    constructor
    · intro hout addr haddr
      have hhost : deviceToHost t = false := by
        have heq := hout.symm.trans hdir
        by_contra hhost
        simp [directionOf, hhost] at heq
      simp [received, hhost]
    · intro hin
      have hhost : deviceToHost t = true := by
        have heq := hin.symm.trans hdir
        by_contra hhost
        simp [directionOf, hhost] at heq
      simp [sent, hhost]

/-- One operation, submitted as soon as it is called. -/
def oneOperation : UsbTransferDirection → List (Action R)
  | .«in» => [.call (.asyncReadSome ⟨0, 0⟩), .other (.initiate 0), .other (.submit 0 0)]
  | .out  => [.call (.asyncWriteSome ⟨0, 0⟩), .other (.initiate 0), .other (.submit 0 0)]

/-- One operation is enough to see a wrong direction. -/
lemma not_faithful_oneOperation {direction : UsbTransferDirection} {t : LibusbTransfer}
    (hne : directionOf t ≠ direction) (memory : ℕ → UInt8) :
    ¬ Along (step direction t) (Faithful t) (init R memory) (oneOperation direction) := by
  intro h
  cases direction with
  | «in» =>
    obtain ⟨-, hcalled⟩ := along_cons_iff.mp h _ rfl
    obtain ⟨-, hstored⟩ := along_cons_iff.mp hcalled _ rfl
    obtain ⟨hsubmit, -⟩ := along_cons_iff.mp hstored _ rfl
    exact hne (Option.some.inj (hsubmit _ rfl)).symm
  | out =>
    obtain ⟨-, hcalled⟩ := along_cons_iff.mp h _ rfl
    obtain ⟨-, hstored⟩ := along_cons_iff.mp hcalled _ rfl
    obtain ⟨hsubmit, -⟩ := along_cons_iff.mp hstored _ rfl
    exact hne (Option.some.inj (hsubmit _ rfl)).symm

/-! ### Every run -/

/-- A transfer is faithful to the direction of its class in every run exactly when bit 7 of the
endpoint that its constructor was given is that direction. -/
theorem faithful_iff_endpoint {E : Type*} {c₀ : Constructor E} {alloc : Bool} {t : UsbTransfer E}
    (h : c₀.construct alloc = some t) (direction : UsbTransferDirection) :
    (∀ (memory : ℕ → UInt8) (as : List (Action R)),
      Along (step direction t.handle) (Faithful t.handle) (init R memory) as) ↔
        c₀.endpoint &&& 0x80 = direction.value := by
  rw [← Constructor.endpoint_construct h, ← directionOf_eq_iff]
  constructor
  · intro hfaithful
    by_contra hne
    exact not_faithful_oneOperation hne (fun _ => 0) (hfaithful _ _)
  · rintro rfl memory as
    have hinit : Directed (directionOf t.handle) (init R memory) := nofun
    exact along_of_preserved (fun _ _ _ => directed_step) (fun _ a _ h _ => h.faithful a) hinit as

/-- A bulk transfer out of the device, from endpoint `0x83`. -/
theorem faithful_in_endpoint :
    ∃ t, (Constructor.bulk () ⟨none, ()⟩ 0x83 1000).construct true = some t ∧
      ∀ (memory : ℕ → UInt8) (as : List (Action ℕ)),
        Along (step .«in» t.handle) (Faithful t.handle) (init ℕ memory) as := by
  let c₀ : Constructor Unit := .bulk () ⟨none, ()⟩ 0x83 1000
  have hconstruct : c₀.construct true = some _ := rfl
  exact ⟨_, hconstruct, (faithful_iff_endpoint hconstruct .«in»).mpr (by decide)⟩

/-- `usb_in_bulk_transfer{dev, endpoint_number, timeout}` with the endpoint number 3: what is
started as a read is submitted as a write. -/
theorem not_faithful_endpoint_number :
    ¬ ∀ (c₀ : Constructor Unit) (alloc : Bool) (t : UsbTransfer Unit)
        (direction : UsbTransferDirection) (memory : ℕ → UInt8) (as : List (Action ℕ)),
      c₀.construct alloc = some t →
        Along (step direction t.handle) (Faithful t.handle) (init ℕ memory) as := by
  intro h
  let c₀ : Constructor Unit := .bulkOf ⟨none, ()⟩ 3 1000
  have hnot : ∀ t, c₀.construct true = some t → ¬ Along (step .«in» t.handle)
      (Faithful t.handle) (init ℕ fun _ => 0) (oneOperation .«in») := by
    rintro t ⟨⟩
    exact not_faithful_oneOperation (by decide) _
  exact hnot _ rfl (h c₀ true _ .«in» _ _ rfl)

end UsbAsio.Transfer.Direction
