import UsbAsio.Error
import UsbAsio.Service.Counter
import UsbAsio.Transition.Basic

/-!
# Devices and their services

The `basic_usb_device` objects of a program, the device counters of the services they are
attached to, and the handles that libusb has opened and not closed. A step is one operation on
one object.
-/

namespace UsbAsio

/-- A device handle of libusb: a non-null address of 64 bits. -/
structure DeviceHandle where
  address : ℕ
  pos : 0 < address
  lt : address < 2 ^ 64
  deriving DecidableEq

namespace Device

/-- `basic_usb_device`; a null `handle_` is `none`. -/
structure UsbDevice (σ : Type*) where
  handle : Option DeviceHandle
  service : σ

def UsbDevice.isOpen {σ : Type*} (x : UsbDevice σ) : Bool := x.handle.isSome

/-- The service that has to count the device. -/
def UsbDevice.openOn {σ : Type*} (x : UsbDevice σ) : Option σ := x.handle.map fun _ => x.service

lemma UsbDevice.openOn_of_closed {σ : Type*} {x : UsbDevice σ} (h : x.handle = none) :
    x.openOn = none := by
  simp [UsbDevice.openOn, h]

lemma UsbDevice.openOn_of_open {σ : Type*} {x : UsbDevice σ} {handle : DeviceHandle}
    (h : x.handle = some handle) : x.openOn = some x.service := by
  simp [UsbDevice.openOn, h]

/-- The objects are named by `ι`, the services by `σ`. -/
structure World (ι σ : Type*) where
  live : Finset ι
  dev : ι → UsbDevice σ
  /-- `open_devices_` of each service. -/
  openDevices : σ → ℕ
  /-- Opened by `libusb_open`, and not passed to `libusb_close` yet. -/
  openHandles : Finset DeviceHandle

variable {ι σ : Type*} [DecidableEq ι] [DecidableEq σ]

/-- No object exists; what the memory of future objects holds does not matter. -/
def init (dev : ι → UsbDevice σ) : World ι σ := ⟨∅, dev, fun _ => 0, ∅⟩

namespace World

variable (w : World ι σ)

def setDev (d : ι) (x : UsbDevice σ) : World ι σ := { w with dev := Function.update w.dev d x }

/-! ### The counter and the handle -/

def notifyDevOpened (service : σ) : World ι σ :=
  let n := incrementDevices (w.openDevices service)
  { w with openDevices := Function.update w.openDevices service n }

def notifyDevClosed (service : σ) : World ι σ :=
  let n := decrementDevices (w.openDevices service)
  { w with openDevices := Function.update w.openDevices service n }

/-- The deleter of a `unique_handle_type`, which is not called on null. -/
def libusbClose : Option DeviceHandle → World ι σ
  | none   => w
  | some h => { w with openHandles := w.openHandles.erase h }

omit [DecidableEq ι] [DecidableEq σ] in
@[simp] lemma libusbClose_live (p : Option DeviceHandle) : (w.libusbClose p).live = w.live := by
  cases p <;> rfl

omit [DecidableEq ι] [DecidableEq σ] in
@[simp] lemma libusbClose_dev (p : Option DeviceHandle) : (w.libusbClose p).dev = w.dev := by
  cases p <;> rfl

omit [DecidableEq ι] [DecidableEq σ] in
@[simp] lemma libusbClose_openDevices (p : Option DeviceHandle) :
    (w.libusbClose p).openDevices = w.openDevices := by
  cases p <;> rfl

/-- `handle_.reset(p)`. -/
def resetHandle (d : ι) (p : Option DeviceHandle) : World ι σ :=
  (w.setDev d { w.dev d with handle := p }).libusbClose (w.dev d).handle

/-- What `handle_.release()` leaves. -/
def releaseHandle (d : ι) : World ι σ := w.setDev d { w.dev d with handle := none }

/-! ### Operations -/

/-- `basic_usb_device{executor}`. -/
def construct (d : ι) (service : σ) : World ι σ :=
  { w with live := insert d w.live }.setDev d ⟨none, service⟩

def close (d : ι) : World ι σ :=
  if (w.dev d).isOpen then (w.notifyDevClosed (w.dev d).service).resetHandle d none else w

/-- `open(info, ec)`; `libusb_open` answers with `retCode` and, when it succeeds, stores
`handle`. -/
def openEc (d : ι) (retCode : ℤ) (handle : DeviceHandle) : World ι σ × ErrorCode :=
  let w := w.close d
  let ec := (libusbTry retCode).1
  if ec.isError then (w, ec)
  else
    let w := { w with openHandles := insert handle w.openHandles }
    ((w.resetHandle d (some handle)).notifyDevOpened (w.dev d).service, ec)

/-- `basic_usb_device(basic_usb_device&&)`: both members are moved. -/
def moveConstruct (d src : ι) : World ι σ :=
  { w.releaseHandle src with live := insert d w.live }.setDev d (w.dev src)

/-- `operator=(basic_usb_device&&)`: `handle_` is moved, `service_` is copied. -/
def moveAssign (d src : ι) : World ι σ :=
  let w' := (w.releaseHandle src).resetHandle d (w.dev src).handle
  w'.setDev d { w'.dev d with service := (w.dev src).service }

/-- `~basic_usb_device()`. -/
def destroy (d : ι) : World ι σ :=
  let w := w.resetHandle d none
  { w with live := w.live.erase d }

/-- The device of `src` is now that of `d`, which held no handle. -/
def handOver (d src : ι) : World ι σ :=
  (w.setDev src ⟨none, (w.dev src).service⟩).setDev d (w.dev src)

variable {w} {d src : ι}

lemma close_of_closed (h : (w.dev d).handle = none) : w.close d = w := by
  simp [close, UsbDevice.isOpen, h]

lemma close_of_open {handle : DeviceHandle} (h : (w.dev d).handle = some handle) :
    w.close d = { w.notifyDevClosed (w.dev d).service with
      dev := Function.update w.dev d ⟨none, (w.dev d).service⟩
      openHandles := w.openHandles.erase handle } := by
  simp [close, UsbDevice.isOpen, h, resetHandle, setDev, libusbClose, notifyDevClosed]

/-- A closed device stays closed. -/
lemma close_handle : ((w.close d).dev d).handle = none := by
  cases h : (w.dev d).handle with
  | none => rw [close_of_closed h, h]
  | some handle => simp [close_of_open h]

lemma close_live : (w.close d).live = w.live := by
  cases h : (w.dev d).handle with
  | none => rw [close_of_closed h]
  | some handle => rw [close_of_open h]; rfl

lemma openEc_of_error {retCode : ℤ} {handle : DeviceHandle}
    (h : (libusbTry retCode).1.isError = true) :
    (w.openEc d retCode handle).1 = w.close d := by
  simp only [openEc, h, if_true]

lemma openEc_of_ok {retCode : ℤ} {handle : DeviceHandle}
    (h : (libusbTry retCode).1.isError = false) :
    (w.openEc d retCode handle).1 =
      { (w.close d).notifyDevOpened ((w.close d).dev d).service with
        dev := Function.update (w.close d).dev d ⟨some handle, ((w.close d).dev d).service⟩
        openHandles := insert handle (w.close d).openHandles } := by
  simp [openEc, h, resetHandle, setDev, libusbClose, close_handle, notifyDevOpened]

omit [DecidableEq σ] in
lemma destroy_of_closed (h : (w.dev d).handle = none) :
    w.destroy d = { w with live := w.live.erase d } := by
  have hsame : ({ w.dev d with handle := none } : UsbDevice σ) = w.dev d := by rw [← h]
  simp only [destroy, resetHandle, setDev, h, libusbClose, hsame, Function.update_eq_self]

omit [DecidableEq σ] in
lemma moveAssign_self : w.moveAssign d d = w := by
  simp [moveAssign, releaseHandle, resetHandle, setDev, libusbClose]

omit [DecidableEq σ] in
lemma moveAssign_of_ne (hne : d ≠ src) :
    w.moveAssign d src = (w.handOver d src).libusbClose (w.dev d).handle := by
  cases h : (w.dev d).handle <;>
    simp [moveAssign, releaseHandle, resetHandle, setDev, libusbClose, hne, h, handOver]

omit [DecidableEq σ] in
lemma moveConstruct_eq (hne : d ≠ src) :
    w.moveConstruct d src = (w.construct d (w.dev src).service).handOver d src := by
  simp [moveConstruct, construct, releaseHandle, setDev, handOver, hne.symm,
    Function.update_comm hne]

end World

/-! ### Steps -/

inductive Action (ι σ : Type*) where
  | construct (d : ι) (service : σ)
  | constructOpen (d : ι) (service : σ) (retCode : ℤ) (handle : DeviceHandle)
  | openEc (d : ι) (retCode : ℤ) (handle : DeviceHandle)
  | open (d : ι) (retCode : ℤ) (handle : DeviceHandle)
  | close (d : ι)
  | moveConstruct (d src : ι)
  | moveAssign (d src : ι)
  | destroy (d : ι)

/-- `open(info, ec)` while libusb gives out only handles that are not open. -/
def openStep (w : World ι σ) (d : ι) (retCode : ℤ) (handle : DeviceHandle) :
    Option (World ι σ × ErrorCode) :=
  if handle ∈ (w.close d).openHandles then none else some (w.openEc d retCode handle)

/-- `open(info)` is `noexcept` and throws on failure: the process ends. -/
def openNoexcept (w : World ι σ) (d : ι) (retCode : ℤ) (handle : DeviceHandle) :
    Option (World ι σ) :=
  match openStep w d retCode handle with
  | none         => none
  | some (w, ec) => if ec.isError then none else some w

/-- Objects are constructed where there is none, and used only while they live. -/
def step (w : World ι σ) : Action ι σ → Option (World ι σ)
  | .construct d service => if d ∈ w.live then none else some (w.construct d service)
  | .constructOpen d service retCode handle =>
    if d ∈ w.live then none else openNoexcept (w.construct d service) d retCode handle
  | .openEc d retCode handle =>
    if d ∈ w.live then (openStep w d retCode handle).map Prod.fst else none
  | .open d retCode handle => if d ∈ w.live then openNoexcept w d retCode handle else none
  | .close d => if d ∈ w.live then some (w.close d) else none
  | .moveConstruct d src =>
    if d ∉ w.live ∧ src ∈ w.live then some (w.moveConstruct d src) else none
  | .moveAssign d src => if d ∈ w.live ∧ src ∈ w.live then some (w.moveAssign d src) else none
  | .destroy d => if d ∈ w.live then some (w.destroy d) else none

/-- The operations, with the case distinctions of the source carried out. -/
inductive Rule (w : World ι σ) : Action ι σ → World ι σ → Prop where
  | construct (d : ι) (service : σ) (hd : d ∉ w.live) :
      Rule w (.construct d service) (w.construct d service)
  | constructOpen (d : ι) (service : σ) (retCode : ℤ) (handle : DeviceHandle) (hd : d ∉ w.live)
      (hfresh : handle ∉ ((w.construct d service).close d).openHandles) :
      Rule w (.constructOpen d service retCode handle)
        ((w.construct d service).openEc d retCode handle).1
  | openEc (a : Action ι σ) (d : ι) (retCode : ℤ) (handle : DeviceHandle) (hd : d ∈ w.live)
      (ha : a = .openEc d retCode handle ∨ a = .open d retCode handle)
      (hfresh : handle ∉ (w.close d).openHandles) : Rule w a (w.openEc d retCode handle).1
  | close (d : ι) (hd : d ∈ w.live) : Rule w (.close d) (w.close d)
  | moveConstruct (d src : ι) (hd : d ∉ w.live) (hsrc : src ∈ w.live) :
      Rule w (.moveConstruct d src) (w.moveConstruct d src)
  | moveAssign (d src : ι) (hd : d ∈ w.live) (hsrc : src ∈ w.live) :
      Rule w (.moveAssign d src) (w.moveAssign d src)
  | destroy (d : ι) (hd : d ∈ w.live) : Rule w (.destroy d) (w.destroy d)

lemma openStep_eq_some {w : World ι σ} {d : ι} {retCode : ℤ} {handle : DeviceHandle}
    {x : World ι σ × ErrorCode} (h : openStep w d retCode handle = some x) :
    handle ∉ (w.close d).openHandles ∧ x = w.openEc d retCode handle := by
  unfold openStep at h
  split_ifs at h with hfresh
  exact ⟨hfresh, (Option.some.inj h).symm⟩

/-- Where `open(info)` comes back, it has done what `open(info, ec)` does. -/
lemma openNoexcept_eq_some {w w' : World ι σ} {d : ι} {retCode : ℤ} {handle : DeviceHandle}
    (h : openNoexcept w d retCode handle = some w') :
    handle ∉ (w.close d).openHandles ∧ w' = (w.openEc d retCode handle).1 := by
  unfold openNoexcept at h
  cases hstep : openStep w d retCode handle with
  | none => simp [hstep] at h
  | some x =>
    obtain ⟨hfresh, rfl⟩ := openStep_eq_some hstep
    simp only [hstep] at h
    split_ifs at h
    exact ⟨hfresh, (Option.some.inj h).symm⟩

lemma Rule.of_step {w w' : World ι σ} {a : Action ι σ} (h : step w a = some w') :
    Rule w a w' := by
  cases a with
  | construct d service =>
    simp only [step] at h
    split_ifs at h with hd
    cases h
    exact .construct d service hd
  | constructOpen d service retCode handle =>
    simp only [step] at h
    split_ifs at h with hd
    obtain ⟨hfresh, rfl⟩ := openNoexcept_eq_some h
    exact .constructOpen d service retCode handle hd hfresh
  | openEc d retCode handle =>
    simp only [step] at h
    split_ifs at h with hd
    obtain ⟨x, hx, rfl⟩ := Option.map_eq_some_iff.mp h
    obtain ⟨hfresh, rfl⟩ := openStep_eq_some hx
    exact .openEc _ d retCode handle hd (Or.inl rfl) hfresh
  | «open» d retCode handle =>
    simp only [step] at h
    split_ifs at h with hd
    obtain ⟨hfresh, rfl⟩ := openNoexcept_eq_some h
    exact .openEc _ d retCode handle hd (Or.inr rfl) hfresh
  | close d =>
    simp only [step] at h
    split_ifs at h with hd
    cases h
    exact .close d hd
  | moveConstruct d src =>
    simp only [step] at h
    split_ifs at h with hd
    cases h
    exact .moveConstruct d src hd.1 hd.2
  | moveAssign d src =>
    simp only [step] at h
    split_ifs at h with hd
    cases h
    exact .moveAssign d src hd.1 hd.2
  | destroy d =>
    simp only [step] at h
    split_ifs at h with hd
    cases h
    exact .destroy d hd

end Device

end UsbAsio
