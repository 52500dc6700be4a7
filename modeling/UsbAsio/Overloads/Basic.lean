import UsbAsio.Device.Basic
import UsbAsio.Effects.Basic

/-!
# Reporting errors

The two ways in which a member reports the failure of a libusb call, through an `error_code&` or by
an exception: the overloads of `libusb_try` and `try_with_ec`, as programs that call libusb. The
`error_code&` of a member is a value that goes in and comes out.
-/

namespace UsbAsio.Overloads

open Effects

/-! ### Calls of libusb -/

/-- A `libusb_device*`. -/
structure DevicePtr where
  address : ℕ
  deriving DecidableEq

/-- A `libusb_transfer*`. -/
structure TransferPtr where
  address : ℕ
  deriving DecidableEq

/-- A `libusb_config_descriptor*`. -/
structure ConfigDescriptorPtr where
  address : ℕ
  deriving DecidableEq

/-- `libusb_device_descriptor`, as its 18 bytes. -/
structure DeviceDescriptor where
  bytes : Vector UInt8 18
  deriving DecidableEq

/-- `::libusb_device_descriptor{}`. -/
def DeviceDescriptor.zero : DeviceDescriptor := ⟨.replicate 18 0⟩

/-- The calls with their arguments, out parameters left out; a null pointer is `none`. -/
inductive LibusbCall where
  | open (device : Option DevicePtr)
  | close (handle : DeviceHandle)
  | setConfiguration (handle : Option DeviceHandle) (configuration : UInt8)
  | clearHalt (handle : Option DeviceHandle) (endpoint : UInt8)
  | resetDevice (handle : Option DeviceHandle)
  | allocStreams (handle : Option DeviceHandle) (numStreams : UInt32) (endpoints : ℕ)
      (numEndpoints : ℤ)
  | freeStreams (handle : Option DeviceHandle) (endpoints : ℕ) (numEndpoints : ℤ)
  | claimInterface (handle : Option DeviceHandle) (number : UInt8)
  | releaseInterface (handle : Option DeviceHandle) (number : UInt8)
  | detachKernelDriver (handle : Option DeviceHandle) (number : UInt8)
  | attachKernelDriver (handle : Option DeviceHandle) (number : UInt8)
  | setInterfaceAltSetting (handle : Option DeviceHandle) (number altSetting : UInt8)
  | cancelTransfer (transfer : Option TransferPtr)
  | getMaxIsoPacketSize (device : Option DevicePtr) (endpoint : UInt8)
  | getDeviceDescriptor (device : Option DevicePtr)
  | getActiveConfigDescriptor (device : Option DevicePtr)
  | getConfigDescriptor (device : Option DevicePtr) (configIndex : UInt8)
  | getConfigDescriptorByValue (device : Option DevicePtr) (configIdValue : UInt8)
  deriving DecidableEq

/-- The calls whose return code the library looks at. -/
def LibusbCall.examined : LibusbCall → Bool
  | .close _ | .detachKernelDriver _ _ | .attachKernelDriver _ _ => false
  | _                                                            => true

/-- What a call returns, and what it stores when it succeeds and has such an out parameter. -/
structure Answer where
  retCode : ℤ
  handle : DeviceHandle
  deviceDescriptor : DeviceDescriptor
  configDescriptor : ConfigDescriptorPtr

/-- An out parameter after a call: it is written only if the call succeeds. -/
def Answer.out {α : Type} (answer : Answer) (initial : α) (stored : Answer → α) : α :=
  if answer.retCode < 0 then initial else stored answer

abbrev Program (σ : Type) := Effects.Program LibusbCall Answer ErrorCode σ

abbrev Machine (σ : Type) := Effects.Machine LibusbCall Answer σ

variable {σ α : Type}

/-! ### `try_with_ec` and `libusb_try` -/

/-- `if (ec) { throw std::system_error{ec}; } return result;` -/
def throwOrReturn (x : α × ErrorCode) : Program σ α :=
  if x.2.isError then throw (.thrown x.2) else return x.1

/-- `try_with_ec(fn)`, also for an `fn` without a result. -/
def tryWithEc (fn : ErrorCode → Program σ (α × ErrorCode)) : Program σ α :=
  fn .clear >>= throwOrReturn

/-- `libusb_try(ec, fn, args...)`, which clears whatever `ec` held; the answer is kept for the out
parameters. -/
def libusbTryEc (c : LibusbCall) (_ec : ErrorCode) : Program σ ((Answer × ℕ) × ErrorCode) := do
  let answer ← call c
  let tried := libusbTry answer.retCode
  return ((answer, tried.2), tried.1)

/-- `libusb_try(fn, args...)`. -/
def libusbTryThrowing (c : LibusbCall) : Program σ (Answer × ℕ) := tryWithEc (libusbTryEc c)

/-! ### Members that make one call -/

/-- The body of a member with an `error_code&` that passes it to its only call. -/
def callEc (c : σ → LibusbCall) (result : Answer → ℕ → α) (ec : ErrorCode) :
    Program σ (α × ErrorCode) :=
  noexcept do
    let object ← getObject
    let tried ← libusbTryEc (c object) ec
    return (result tried.1.1 tried.1.2, tried.2)

/-- The body of a member with an `error_code&` that does not. -/
def callThrowing (c : σ → LibusbCall) (ec : ErrorCode) : Program σ (Unit × ErrorCode) :=
  noexcept do
    let object ← getObject
    let _ ← libusbTryThrowing (c object)
    return ((), ec)

/-! ### Runs -/

/-- What becomes of the end of a twin with an `error_code&` in the overload that throws. -/
def raised : EStateM.Result (Stop ErrorCode) (Machine σ) (α × ErrorCode) →
    EStateM.Result (Stop ErrorCode) (Machine σ) α
  | .ok x m    => if x.2.isError then .error (.thrown x.2) m else .ok x.1 m
  | .error e m => .error e m

lemma raised_of_clear {x : α × ErrorCode} (h : x.2.isError = false) (m : Machine σ) :
    raised (.ok x m) = .ok x.1 m := by
  simp only [raised, h, Bool.false_eq_true, if_false]

lemma raised_of_error {x : α × ErrorCode} (h : x.2.isError = true) (m : Machine σ) :
    raised (.ok x m) = .error (.thrown x.2) m := by
  simp only [raised, h, if_true]

@[simp] lemma final_raised (r : EStateM.Result (Stop ErrorCode) (Machine σ) (α × ErrorCode)) :
    final (raised r) = final r := by
  cases r with
  | ok x m => cases hec : x.2.isError <;> simp only [raised, hec] <;> rfl
  | error e m => rfl

/-- `try_with_ec` adds the exception and nothing else. -/
lemma run_tryWithEc (fn : ErrorCode → Program σ (α × ErrorCode)) (m : Machine σ) :
    (tryWithEc fn).run m = raised ((fn .clear).run m) := by
  rw [tryWithEc, EStateM.run_bind]
  cases (fn .clear).run m with
  | ok x m =>
    cases hec : x.2.isError <;> simp only [throwOrReturn, raised, hec] <;> rfl
  | error e m => rfl

@[simp] lemma run_libusbTryEc (c : LibusbCall) (ec : ErrorCode) (m : Machine σ) :
    (libusbTryEc c ec).run m =
      let answer := m.answers m.log.length
      .ok ((answer, (libusbTry answer.retCode).2), (libusbTry answer.retCode).1)
        { m with log := (c, answer) :: m.log } := rfl

lemma run_callEc (c : σ → LibusbCall) (result : Answer → ℕ → α) (ec : ErrorCode)
    (m : Machine σ) : (callEc c result ec).run m =
      let answer := m.answers m.log.length
      let tried := libusbTry answer.retCode
      .ok (result answer tried.2, tried.1) { m with log := (c m.object, answer) :: m.log } := rfl

lemma run_libusbTryThrowing (c : LibusbCall) (m : Machine σ) : (libusbTryThrowing c).run m =
    let answer := m.answers m.log.length
    let m' : Machine σ := { m with log := (c, answer) :: m.log }
    if answer.retCode < 0 then .error (.thrown (makeErrorCode answer.retCode)) m'
    else .ok (answer, answer.retCode.toNat) m' := by
  rw [libusbTryThrowing, run_tryWithEc, run_libusbTryEc]
  by_cases hret : (m.answers m.log.length).retCode < 0
  · simp [raised, libusbTry, hret, isError_makeErrorCode hret]
  · simp [raised, libusbTry, hret]

/-- A successful call leaves `ec` as it was. -/
lemma run_callThrowing_of_ok (c : σ → LibusbCall) (ec : ErrorCode) {m : Machine σ}
    (hret : 0 ≤ (m.answers m.log.length).retCode) : (callThrowing c ec).run m =
      .ok ((), ec) { m with log := (c m.object, m.answers m.log.length) :: m.log } := by
  have htry := run_libusbTryThrowing (c m.object) m
  simp only [not_lt.mpr hret, if_false] at htry
  apply run_noexcept_of_ok
  rw [run_bind_of_ok (run_getObject m), run_bind_of_ok htry]
  rfl

/-- The exception of a failed call does not get out. -/
lemma run_callThrowing_of_failed (c : σ → LibusbCall) (ec : ErrorCode) {m : Machine σ}
    (hret : (m.answers m.log.length).retCode < 0) : (callThrowing c ec).run m =
      .error .terminated { m with log := (c m.object, m.answers m.log.length) :: m.log } := by
  have htry := run_libusbTryThrowing (c m.object) m
  simp only [hret, if_true] at htry
  apply run_noexcept_of_error
  rw [run_bind_of_ok (run_getObject m), run_bind_of_error htry]

end UsbAsio.Overloads
