import UsbAsio.Device.Basic
import UsbAsio.Ledger.Basic

/-!
# Interfaces and their claims

The `basic_usb_interface` objects of a program and the libusb calls they issue. Every call is
free to succeed or fail: the actions carry the return codes. A step is one operation on one
object.
-/

namespace UsbAsio.Interface

open Ledger

/-- What is claimed: an interface of an open device. -/
structure Claim where
  device : DeviceHandle
  number : UInt8
  deriving DecidableEq

/-- `basic_usb_interface`; a null `device_handle_` is `none`. -/
structure UsbInterface where
  deviceHandle : Option DeviceHandle
  number : UInt8

/-- The claim that an object records. -/
def UsbInterface.record (x : UsbInterface) : Option Claim :=
  x.deviceHandle.map fun device => ⟨device, x.number⟩

/-- The calls of libusb, with the return codes that the library looks at. -/
inductive Call where
  | claim (p : Claim) (retCode : ℤ)
  | release (p : Claim) (retCode : ℤ)
  | attachKernelDriver (p : Claim)
  | detachKernelDriver (p : Claim)
  deriving DecidableEq

/-- What a call does to the claims. -/
def Call.event : Call → Option (Event Claim)
  | .claim p retCode       => if retCode < 0 then none else some (.acquire p)
  | .release p retCode     => some (if retCode < 0 then .use p else .release p)
  | .attachKernelDriver _  => none
  | .detachKernelDriver _  => none

/-- The claims that libusb has granted and not taken back; the latest call stands first. -/
def claims (log : List Call) : Finset Claim := held (log.filterMap Call.event)

/-- The objects are named by `ι`. -/
structure World (ι : Type*) where
  live : Finset ι
  iface : ι → UsbInterface
  log : List Call
  /-- The claims that `detach` or a failed destructor has left behind. -/
  givenUp : Finset Claim

variable {ι : Type*} [DecidableEq ι]

/-- No object exists; what the memory of future objects holds does not matter. -/
def init (iface : ι → UsbInterface) : World ι := ⟨∅, iface, [], ∅⟩

namespace World

variable (w : World ι)

def setIface (d : ι) (x : UsbInterface) : World ι :=
  { w with iface := Function.update w.iface d x }

/-- A call is issued. What is claimed anew is not given up any more. -/
def call (c : Call) : World ι :=
  { w with
    log := c :: w.log
    givenUp := match c with
      | .claim p retCode => if retCode < 0 then w.givenUp else w.givenUp.erase p
      | _                => w.givenUp }

/-- `device_handle_ = nullptr; number_ = 0`, in `detach()`. -/
def clear (d : ι) : World ι := w.setIface d ⟨none, 0⟩

/-- What `d` records is left behind. -/
def giveUp (d : ι) : World ι := { w with givenUp := w.givenUp ∪ (w.iface d).record.toFinset }

/-! ### Operations -/

/-- `basic_usb_interface{executor}`: `number_` has an initialiser, `device_handle_` has none. -/
def construct (d : ι) (deviceHandle : Option DeviceHandle) : World ι :=
  { w with live := insert d w.live }.setIface d ⟨deviceHandle, 0⟩

/-- `unclaim(reattach_kernel_driver, ec)`. -/
def unclaim (d : ι) (reattachKernelDriver : Bool) (retCode : ℤ) : World ι × ErrorCode :=
  match (w.iface d).record with
  | none   => (w, .clear)
  | some p =>
    let w := w.call (.release p retCode)
    let ec := (libusbTry retCode).1
    if ec.isError then (w, ec)
    else
      let w := if reattachKernelDriver then w.call (.attachKernelDriver p) else w
      (w.clear d, ec)

/-- `claim(device, number, detach_kernel_driver, ec)`; the other overloads pass `true`. -/
def claim (d : ι) (p : Claim) (detachKernelDriver : Bool) (releaseRet claimRet : ℤ) :
    World ι × ErrorCode :=
  let (w, ec) := w.unclaim d true releaseRet
  if ec.isError then (w, ec)
  else
    let w := if detachKernelDriver then w.call (.detachKernelDriver p) else w
    let w := w.call (.claim p claimRet)
    let ec := (libusbTry claimRet).1
    if ec.isError then (w, ec) else (w.setIface d ⟨some p.device, p.number⟩, ec)

/-- `detach()`, called by the user. -/
def detach (d : ι) : World ι := (w.giveUp d).clear d

/-- `~basic_usb_interface()`. -/
def destroy (d : ι) (retCode : ℤ) : World ι :=
  let w := (w.unclaim d true retCode).1
  { w.giveUp d with live := w.live.erase d }

/-- `basic_usb_interface{executor, device, number}`: when the claim throws, the object made by
the executor-only constructor is destroyed. -/
def constructClaim (d : ι) (deviceHandle : Option DeviceHandle) (p : Claim)
    (releaseRet claimRet destroyRet : ℤ) : World ι :=
  let (w, ec) := (w.construct d deviceHandle).claim d p true releaseRet claimRet
  if ec.isError then w.destroy d destroyRet else w

/-- `operator=(basic_usb_interface&&)`: whatever `unclaim` says, the fields are exchanged. -/
def moveAssign (d src : ι) (retCode : ℤ) : World ι :=
  let w := (w.unclaim d true retCode).1
  (w.clear src).setIface d (w.iface src)

/-- Another live object records `p`. -/
def RecordedElsewhere (d : ι) (p : Claim) : Prop :=
  ∃ d' ∈ w.live, d' ≠ d ∧ (w.iface d').record = some p

instance (d : ι) (p : Claim) : Decidable (w.RecordedElsewhere d p) :=
  inferInstanceAs (Decidable (∃ d' ∈ w.live, _))

variable {w} {d src : ι} {p : Claim} {reattach : Bool} {retCode : ℤ}

lemma unclaim_of_unclaimed (h : (w.iface d).record = none) :
    w.unclaim d reattach retCode = (w, .clear) := by
  simp only [unclaim, h]

lemma unclaim_of_failed (h : (w.iface d).record = some p) (hret : retCode < 0) :
    w.unclaim d reattach retCode = (w.call (.release p retCode), (libusbTry retCode).1) := by
  simp [unclaim, h, hret]

lemma unclaim_of_released (h : (w.iface d).record = some p) (hret : 0 ≤ retCode) :
    w.unclaim d reattach retCode =
      ((if reattach then (w.call (.release p retCode)).call (.attachKernelDriver p)
        else w.call (.release p retCode)).clear d, (libusbTry retCode).1) := by
  simp [unclaim, h, not_lt.mpr hret]

/-- `unclaim` finds nothing to release, is refused, or takes the claim back. -/
@[elab_as_elim]
lemma unclaim_rec {motive : World ι × ErrorCode → Prop}
    (unclaimed : (w.iface d).record = none → motive (w, .clear))
    (failed : ∀ p, (w.iface d).record = some p → retCode < 0 →
      motive (w.call (.release p retCode), (libusbTry retCode).1))
    (released : ∀ p, (w.iface d).record = some p → 0 ≤ retCode →
      motive ((if reattach then (w.call (.release p retCode)).call (.attachKernelDriver p)
        else w.call (.release p retCode)).clear d, (libusbTry retCode).1)) :
    motive (w.unclaim d reattach retCode) := by
  cases hp : (w.iface d).record with
  | none =>
    rw [unclaim_of_unclaimed hp]
    exact unclaimed hp
  | some p =>
    rcases lt_or_ge retCode 0 with hret | hret
    · rw [unclaim_of_failed hp hret]
      exact failed p hp hret
    · rw [unclaim_of_released hp hret]
      exact released p hp hret

/-- A claim ends with the release of the old one, with the refusal of the new one, or with the
new one recorded. -/
lemma claim_fst (detachDriver : Bool) (releaseRet claimRet : ℤ) :
    (w.claim d p detachDriver releaseRet claimRet).1 =
      let w₁ := (w.unclaim d true releaseRet).1
      let w₂ := if detachDriver then w₁.call (.detachKernelDriver p) else w₁
      if (w.unclaim d true releaseRet).2.isError then w₁
      else if claimRet < 0 then w₂.call (.claim p claimRet)
      else (w₂.call (.claim p claimRet)).setIface d ⟨some p.device, p.number⟩ := by
  simp only [claim, libusbTry_isError]
  split_ifs <;> simp_all

end World

/-! ### Steps -/

inductive Action (ι : Type*) where
  | construct (d : ι) (deviceHandle : Option DeviceHandle)
  | constructClaim (d : ι) (deviceHandle : Option DeviceHandle) (p : Claim)
      (releaseRet claimRet destroyRet : ℤ)
  | claim (d : ι) (p : Claim) (detachKernelDriver : Bool) (releaseRet claimRet : ℤ)
  | unclaim (d : ι) (reattachKernelDriver : Bool) (retCode : ℤ)
  | detach (d : ι)
  | moveAssign (d src : ι) (retCode : ℤ)
  | destroy (d : ι) (retCode : ℤ)

/-- Objects are constructed where there is none, used only while they live, and claim nothing
that another live object records. -/
def step (w : World ι) : Action ι → Option (World ι)
  | .construct d deviceHandle =>
    if d ∉ w.live then some (w.construct d deviceHandle) else none
  | .constructClaim d deviceHandle p releaseRet claimRet destroyRet =>
    if d ∉ w.live ∧ ¬ w.RecordedElsewhere d p then
      some (w.constructClaim d deviceHandle p releaseRet claimRet destroyRet)
    else none
  | .claim d p detachKernelDriver releaseRet claimRet =>
    if d ∈ w.live ∧ ¬ w.RecordedElsewhere d p then
      some (w.claim d p detachKernelDriver releaseRet claimRet).1
    else none
  | .unclaim d reattachKernelDriver retCode =>
    if d ∈ w.live then some (w.unclaim d reattachKernelDriver retCode).1 else none
  | .detach d => if d ∈ w.live then some (w.detach d) else none
  | .moveAssign d src retCode =>
    if d ∈ w.live ∧ src ∈ w.live then some (w.moveAssign d src retCode) else none
  | .destroy d retCode => if d ∈ w.live then some (w.destroy d retCode) else none

end UsbAsio.Interface
