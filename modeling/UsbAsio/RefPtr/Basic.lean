import UsbAsio.Ledger.Basic

/-!
# Reference counted pointers

The `libusb_ref_ptr` objects of a program, also those inside `usb_device_info` objects, and the
references that they take on the devices of libusb and give back. A step is one operation on one
object; an object that was moved from or reset is empty.
-/

namespace UsbAsio.RefPtr

open Ledger

/-- The calls of `ref_libusb_fn` and `unref_libusb_fn`, and the references that a caller hands
over with `adopt_ref`; a null pointer is `none`. -/
inductive Call (δ : Type*) where
  | ref (p : Option δ)
  | adopt (p : δ)
  | unref (p : Option δ)
  deriving DecidableEq

/-- What a call does to the references that the library holds. -/
def Call.event {δ : Type*} : Call δ → Option (Event δ)
  | .ref p   => p.map .acquire
  | .adopt p => some (.acquire p)
  | .unref p => p.map .release

/-- The objects are named by `ι`, the devices by `δ`; the latest call stands first. -/
structure World (ι δ : Type*) where
  live : Finset ι
  ptr : ι → Option δ
  log : List (Call δ)

variable {ι δ : Type*} [DecidableEq ι] [DecidableEq δ]

/-- No object exists; what the memory of future objects holds does not matter. -/
def init (ptr : ι → Option δ) : World ι δ := ⟨∅, ptr, []⟩

namespace World

variable (w : World ι δ)

def call (c : Call δ) : World ι δ := { w with log := c :: w.log }

def setPtr (d : ι) (p : Option δ) : World ι δ := { w with ptr := Function.update w.ptr d p }

/-- `d` starts to live with `ptr_{p}`. -/
def emplace (d : ι) (p : Option δ) : World ι δ := { w with live := insert d w.live }.setPtr d p

/-- The destructor of a `unique_ptr` that holds `p`: the deleter is not called on null. -/
def delete (p : Option δ) : World ι δ := if p = none then w else w.call (.unref p)

/-! ### Operations -/

/-- `libusb_ref_ptr{}` and `libusb_ref_ptr{nullptr}`. -/
def construct (d : ι) : World ι δ := w.emplace d none

/-- `libusb_ref_ptr{ptr}`, also in `usb_device_info{handle}`. -/
def fromPointer (d : ι) (p : Option δ) : World ι δ := (w.call (.ref p)).emplace d p

/-- `libusb_ref_ptr{ptr, adopt_ref}`. -/
def adopt (d : ι) (p : δ) : World ι δ := (w.call (.adopt p)).emplace d (some p)

/-- `libusb_ref_ptr(libusb_ref_ptr const&)` delegates to the constructor from a pointer. -/
def copyConstruct (d src : ι) : World ι δ := w.fromPointer d (w.ptr src)

def moveConstruct (d src : ι) : World ι δ := (w.setPtr src none).emplace d (w.ptr src)

/-- `operator=(libusb_ref_ptr other)`: the pointers are swapped, and `other` is destroyed. -/
def assign (d : ι) (other : Option δ) : World ι δ := (w.setPtr d other).delete (w.ptr d)

/-- The parameter of `operator=` is copied from `src`. -/
def copyAssign (d src : ι) : World ι δ := (w.call (.ref (w.ptr src))).assign d (w.ptr src)

/-- The parameter of `operator=` is moved from `src`. -/
def moveAssign (d src : ι) : World ι δ := (w.setPtr src none).assign d (w.ptr src)

def reset (d : ι) : World ι δ := (w.setPtr d none).delete (w.ptr d)

def destroy (d : ι) : World ι δ := { w with live := w.live.erase d }.delete (w.ptr d)

/-- `usb_device_info::parent()`, given what `libusb_get_parent` returns, which is not a new
reference. -/
def parent (d : ι) (parentHandle : Option δ) : World ι δ :=
  match parentHandle with
  | none   => w
  | some p => w.fromPointer d (some p)

end World

/-! ### Steps -/

inductive Action (ι δ : Type*) where
  | construct (d : ι)
  | fromPointer (d : ι) (p : δ)
  | adopt (d : ι) (p : δ)
  | copyConstruct (d src : ι)
  | moveConstruct (d src : ι)
  | copyAssign (d src : ι)
  | moveAssign (d src : ι)
  | reset (d : ι)
  | destroy (d : ι)
  | parent (d src : ι) (parentHandle : Option δ)

/-- Objects are constructed where there is none, and used only while they live;
`libusb_get_parent` reads its argument. -/
def operate (w : World ι δ) : Action ι δ → Option (World ι δ)
  | .construct d => if d ∉ w.live then some (w.construct d) else none
  | .fromPointer d p => if d ∉ w.live then some (w.fromPointer d (some p)) else none
  | .adopt d p => if d ∉ w.live then some (w.adopt d p) else none
  | .copyConstruct d src =>
    if d ∉ w.live ∧ src ∈ w.live then some (w.copyConstruct d src) else none
  | .moveConstruct d src =>
    if d ∉ w.live ∧ src ∈ w.live then some (w.moveConstruct d src) else none
  | .copyAssign d src =>
    if d ∈ w.live ∧ src ∈ w.live then some (w.copyAssign d src) else none
  | .moveAssign d src =>
    if d ∈ w.live ∧ src ∈ w.live then some (w.moveAssign d src) else none
  | .reset d => if d ∈ w.live then some (w.reset d) else none
  | .destroy d => if d ∈ w.live then some (w.destroy d) else none
  | .parent d src parentHandle =>
    if d ∉ w.live ∧ src ∈ w.live ∧ w.ptr src ≠ none then some (w.parent d parentHandle) else none

/-- `libusb_ref_device` dereferences its argument: after a null one nothing comes any more. -/
def step (w : World ι δ) (a : Action ι δ) : Option (World ι δ) :=
  if .ref none ∈ w.log then none else operate w a

end UsbAsio.RefPtr
