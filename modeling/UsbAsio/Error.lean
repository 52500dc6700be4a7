import Mathlib.Tactic

/-!
# Error codes

The error codes of libusb as the library reports them: `usb_errc` for the calls,
`usb_transfer_errc` for finished transfers, and `libusb_try`, which turns the return code of a
libusb function into an error code and a value.
-/

namespace UsbAsio

/-- The errors of libusb calls. -/
inductive UsbErrc where
  | io
  | invalidParam
  | access
  | noDevice
  | notFound
  | busy
  | timeout
  | overflow
  | pipe
  | interrupted
  | noMem
  | notSupported
  | other
  deriving DecidableEq, Repr

/-- The `LIBUSB_ERROR_*` value of each error. -/
def UsbErrc.value : UsbErrc → ℤ
  | .io           => -1
  | .invalidParam => -2
  | .access       => -3
  | .noDevice     => -4
  | .notFound     => -5
  | .busy         => -6
  | .timeout      => -7
  | .overflow     => -8
  | .pipe         => -9
  | .interrupted  => -10
  | .noMem        => -11
  | .notSupported => -12
  | .other        => -99

/-- The category of an error code; `system` is that of a default constructed one. -/
inductive ErrorCategory where
  | system
  | usb
  | usbTransfer
  deriving DecidableEq, Repr

structure ErrorCode where
  value : ℤ
  category : ErrorCategory
  deriving DecidableEq, Repr

/-- `error_code{}`, and what `ec.clear()` leaves. -/
def ErrorCode.clear : ErrorCode := ⟨0, .system⟩

/-- `if (ec)`. -/
def ErrorCode.isError (ec : ErrorCode) : Bool := ec.value ≠ 0

@[simp] lemma ErrorCode.isError_clear : ErrorCode.clear.isError = false := rfl

/-- `make_error_code(static_cast<usb_errc>(ev))`. -/
def makeErrorCode (ev : ℤ) : ErrorCode := ⟨ev, .usb⟩

/-- The code of a failed call is an error. -/
lemma isError_makeErrorCode {ev : ℤ} (h : ev < 0) : (makeErrorCode ev).isError = true :=
  decide_eq_true h.ne

/-- `error_code{static_cast<usb_transfer_errc>(status)}`. -/
def makeTransferErrorCode (status : ℤ) : ErrorCode := ⟨status, .usbTransfer⟩

/-- `usb_errc::busy` as an error code. -/
def UsbErrc.errorCode (e : UsbErrc) : ErrorCode := makeErrorCode e.value

/-- `libusb_try(ec, fn, args...)`, given the code that `fn` returns. -/
def libusbTry (retCode : ℤ) : ErrorCode × ℕ :=
  if retCode < 0 then (makeErrorCode retCode, 0) else (.clear, retCode.toNat)

/-- After `libusb_try`, `ec` is set exactly when the call failed. -/
@[simp] lemma libusbTry_isError (retCode : ℤ) :
    (libusbTry retCode).1.isError = decide (retCode < 0) := by
  rw [libusbTry]
  split_ifs with h
  · simp [isError_makeErrorCode h, h]
  · simp [h]

/-- Every enumerated error is the code of a failed call. -/
lemma UsbErrc.value_neg (e : UsbErrc) : e.value < 0 := by
  cases e <;> simp [UsbErrc.value]

/-- The code of an enumerated error comes back as that error. -/
lemma libusbTry_value (e : UsbErrc) : libusbTry e.value = (e.errorCode, 0) := if_pos e.value_neg

end UsbAsio
