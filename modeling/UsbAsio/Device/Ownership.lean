import UsbAsio.Device.Basic
import UsbAsio.Ownership.Basic

/-!
# Owning handles

Whatever becomes of the counters, every handle that libusb has opened and not closed is in exactly
one device, and a step closes no other handle. So a step changes the open handles by what it
passes to `libusb_close` and what it gets from `libusb_open`.
-/

namespace UsbAsio.Device

open Ownership

variable {ι σ : Type*} [DecidableEq ι] [DecidableEq σ]

/-- The handle that a step passes to `libusb_close`. -/
def closes (w : World ι σ) : Action ι σ → Option DeviceHandle
  | .openEc d _ _ | .open d _ _ | .close d | .destroy d     => (w.dev d).handle
  | .moveAssign d src                                       =>
    if d = src then none else (w.dev d).handle
  | .construct _ _ | .constructOpen _ _ _ _ | .moveConstruct _ _ => none

/-- The handle that a step gets from `libusb_open`. -/
def opens : Action ι σ → Option DeviceHandle
  | .constructOpen _ _ retCode handle | .openEc _ retCode handle | .open _ retCode handle =>
    if retCode < 0 then none else some handle
  | .construct _ _ | .close _ | .moveConstruct _ _ | .moveAssign _ _ | .destroy _ => none

/-- Every open handle is in exactly one live device. -/
def Owned (w : World ι σ) : Prop := Owns w.live (UsbDevice.handle ∘ w.dev) w.openHandles

omit [DecidableEq ι] [DecidableEq σ] in
lemma owned_init (dev : ι → UsbDevice σ) : Owned (init dev) := owns_empty _

variable {w w' : World ι σ} {d src : ι}

namespace World

lemma openHandles_close : (w.close d).openHandles =
    w.openHandles \ (w.dev d).handle.toFinset := by
  cases h : (w.dev d).handle with
  | none => rw [close_of_closed h, Option.toFinset_none, Finset.sdiff_empty]
  | some handle =>
    rw [close_of_open h, Option.toFinset_some, Finset.sdiff_singleton_eq_erase]

lemma openHandles_openEc (retCode : ℤ) (handle : DeviceHandle) :
    (w.openEc d retCode handle).1.openHandles = (w.close d).openHandles ∪
      (if retCode < 0 then none else some handle : Option DeviceHandle).toFinset := by
  by_cases hret : retCode < 0
  · rw [openEc_of_error (by simpa using hret), if_pos hret, Option.toFinset_none,
      Finset.union_empty]
  · rw [openEc_of_ok (by simpa using hret), if_neg hret, Option.toFinset_some, Finset.union_comm]
    rfl

omit [DecidableEq ι] [DecidableEq σ] in
lemma openHandles_libusbClose (p : Option DeviceHandle) :
    (w.libusbClose p).openHandles = w.openHandles \ p.toFinset := by
  cases p with
  | none => rw [Option.toFinset_none, Finset.sdiff_empty]; rfl
  | some handle => rw [Option.toFinset_some, Finset.sdiff_singleton_eq_erase]; rfl

end World

/-! ### Operations -/

omit [DecidableEq σ] in
lemma Owned.construct (h : Owned w) (hd : d ∉ w.live) (service : σ) :
    Owned (w.construct d service) := by
  simp only [Owned, World.construct, World.setDev, Function.comp_update]
  exact h.create hd

lemma Owned.close (h : Owned w) (hd : d ∈ w.live) : Owned (w.close d) := by
  cases hhandle : (w.dev d).handle with
  | none =>
    rw [World.close_of_closed hhandle]
    exact h
  | some handle =>
    rw [World.close_of_open hhandle]
    simp only [Owned, Function.comp_update]
    exact h.drop hd hhandle

lemma Owned.openEc (h : Owned w) (hd : d ∈ w.live) (retCode : ℤ) {handle : DeviceHandle}
    (hfresh : handle ∉ (w.close d).openHandles) : Owned (w.openEc d retCode handle).1 := by
  have hclose := h.close hd
  cases herr : (libusbTry retCode).1.isError with
  | true =>
    rw [World.openEc_of_error herr]
    exact hclose
  | false =>
    have hlive : d ∈ (w.close d).live := by rwa [World.close_live]
    rw [World.openEc_of_ok herr]
    simp only [Owned, Function.comp_update]
    exact Owns.take hclose hlive World.close_handle hfresh

omit [DecidableEq σ] in
lemma Owned.handOver (h : Owned w) (hd : d ∈ w.live) (hsrc : src ∈ w.live) (hne : d ≠ src)
    (hclosed : (w.dev d).handle = none) : Owned (w.handOver d src) := by
  simp only [Owned, World.handOver, World.setDev, Function.comp_update]
  exact Owns.handOver h hd hsrc hne hclosed

omit [DecidableEq σ] in
lemma Owned.moveConstruct (h : Owned w) (hd : d ∉ w.live) (hsrc : src ∈ w.live) :
    Owned (w.moveConstruct d src) := by
  have hne : d ≠ src := (ne_of_mem_of_not_mem hsrc hd).symm
  rw [World.moveConstruct_eq hne]
  refine (h.construct hd (w.dev src).service).handOver ?_ ?_ hne ?_
  · exact Finset.mem_insert_self d w.live
  · exact Finset.mem_insert_of_mem hsrc
  · simp [World.construct, World.setDev]

omit [DecidableEq σ] in
lemma Owned.moveAssign (h : Owned w) (hd : d ∈ w.live) (hsrc : src ∈ w.live) :
    Owned (w.moveAssign d src) := by
  by_cases hne : d = src
  · rw [hne, World.moveAssign_self]
    exact h
  · have hreplace := h.replace hd hsrc hne
    rw [World.moveAssign_of_ne hne, Owned, World.openHandles_libusbClose]
    simp only [World.libusbClose_live, World.libusbClose_dev, World.handOver, World.setDev,
      Function.comp_update]
    exact hreplace

omit [DecidableEq σ] in
lemma Owned.destroy (h : Owned w) (hd : d ∈ w.live) : Owned (w.destroy d) := by
  have hvacate := h.vacate hd
  have hdestroy := hvacate.destroy (Function.update_self ..)
  simp only [Owned, World.destroy, World.resetHandle, World.openHandles_libusbClose,
    World.libusbClose_live, World.libusbClose_dev, World.setDev, Function.comp_update]
  exact hdestroy

/-! ### Steps -/

theorem owned_step {a : Action ι σ} (h : Owned w) (hstep : step w a = some w') : Owned w' := by
  cases Rule.of_step hstep with
  | construct d service hd => exact h.construct hd service
  | constructOpen d service retCode handle hd hfresh =>
    exact (h.construct hd service).openEc (Finset.mem_insert_self d w.live) retCode hfresh
  | openEc _ d retCode handle hd _ hfresh => exact h.openEc hd retCode hfresh
  | close d hd => exact h.close hd
  | moveConstruct d src hd hsrc => exact h.moveConstruct hd hsrc
  | moveAssign d src hd hsrc => exact h.moveAssign hd hsrc
  | destroy d hd => exact h.destroy hd

/-- The open handles after a step: without the one it closes, and with the one it opens. -/
theorem openHandles_step {a : Action ι σ} (hstep : step w a = some w') :
    w'.openHandles = w.openHandles \ (closes w a).toFinset ∪ (opens a).toFinset := by
  cases Rule.of_step hstep with
  | construct d service hd => simp [closes, opens, World.construct, World.setDev]
  | constructOpen d service retCode handle hd hfresh =>
    rw [World.openHandles_openEc, World.openHandles_close]
    simp [closes, opens, World.construct, World.setDev]
  | openEc _ d retCode handle hd ha hfresh =>
    rw [World.openHandles_openEc, World.openHandles_close]
    rcases ha with rfl | rfl <;> rfl
  | close d hd =>
    rw [World.openHandles_close]
    simp [closes, opens]
  | moveConstruct d src hd hsrc =>
    simp [closes, opens, World.moveConstruct, World.releaseHandle, World.setDev]
  | moveAssign d src hd hsrc =>
    by_cases hne : d = src
    · simp [hne, closes, opens, World.moveAssign_self]
    · rw [World.moveAssign_of_ne hne, World.openHandles_libusbClose]
      simp [hne, closes, opens, World.handOver, World.setDev]
  | destroy d hd =>
    simp [closes, opens, World.destroy, World.resetHandle, World.openHandles_libusbClose,
      World.setDev]

/-- A step closes only what is open. -/
lemma Owned.mem_of_closes {a : Action ι σ} (h : Owned w) (hstep : step w a = some w')
    {handle : DeviceHandle} (hclose : closes w a = some handle) : handle ∈ w.openHandles := by
  have hlive : ∀ d ∈ w.live, (w.dev d).handle = some handle → handle ∈ w.openHandles :=
    fun d hd => h.mem d hd handle
  cases Rule.of_step hstep with
  | construct | constructOpen | moveConstruct => cases hclose
  | openEc _ d retCode handle' hd ha =>
    rcases ha with rfl | rfl <;> exact hlive d hd hclose
  | close d hd => exact hlive d hd hclose
  | moveAssign d src hd =>
    simp only [closes] at hclose
    split_ifs at hclose
    exact hlive d hd hclose
  | destroy d hd => exact hlive d hd hclose

end UsbAsio.Device
