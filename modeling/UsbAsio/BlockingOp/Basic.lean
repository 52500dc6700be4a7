import UsbAsio.Device.Ownership
import UsbAsio.Interface.Basic
import UsbAsio.Ledger.Basic
import UsbAsio.Transition.Basic

/-!
# Blocking operations

Devices, interfaces, and the functions that `async_try_blocking_with_ec` posts to
`blocking_op_executor()`, which the blocking thread runs one after another in the order of their
posting. A function of a device has captured the handle, a function of an interface has captured
`this`.

A step of the user is one operation on one object. A step of the blocking thread is one access to
the fields of an object, or one call of libusb; the user may do something before each of them.
-/

namespace UsbAsio.BlockingOp

open Transition Ledger Interface

/-! ### Posted functions -/

inductive DeviceFn where
  | setConfiguration (configuration : UInt8)
  | clearHalt (endpoint : UInt8)
  | resetDevice
  deriving DecidableEq

/-- The calls of libusb whose arguments are the fields of an interface. -/
inductive InterfaceFn where
  | setAltSetting (altSetting : UInt8)
  | release (reattachKernelDriver : Bool)
  | attachKernelDriver
  deriving DecidableEq

/-- What the blocking thread has to do: a posted function, or the rest of one. The fields that a
call is given are read before it, one after the other (which one first, C++ leaves open). The claim
is the one that the object recorded when the operation was initiated; the code does not keep it. -/
inductive Task (ι : Type*) where
  | device (fn : DeviceFn) (handle : DeviceHandle)
  | unclaim (d : ι) (reattachKernelDriver : Bool) (p : Claim)  -- about to ask `is_claimed()`
  | readHandle (fn : InterfaceFn) (d : ι) (p : Claim)
  | readNumber (fn : InterfaceFn) (d : ι) (p : Claim) (handle : Option DeviceHandle)
  | issue (fn : InterfaceFn) (d : ι) (p : Claim) (handle : Option DeviceHandle) (number : UInt8)
  | detach (d : ι) (p : Claim)       -- about to clear `device_handle_`
  | clearNumber (d : ι) (p : Claim)

variable {ι : Type*}

/-- The call belongs to `unclaim`. -/
def InterfaceFn.unclaims : InterfaceFn → Bool
  | .setAltSetting _                 => false
  | .release _ | .attachKernelDriver => true

/-- The handle that a task has a copy of, which may be null. -/
def Task.captured : Task ι → Option (Option DeviceHandle)
  | .device _ handle                                   => some (some handle)
  | .readNumber _ _ _ handle | .issue _ _ _ handle _   => some handle
  | .unclaim .. | .readHandle .. | .detach .. | .clearNumber .. => none

/-- The object whose `this` a task has captured, and what the task is meant for. -/
def Task.target : Task ι → Option (ι × Claim)
  | .unclaim d _ p | .readHandle _ d p | .readNumber _ d p _ | .issue _ d p _ _ | .detach d p
  | .clearNumber d p => some (d, p)
  | .device _ _      => none

/-- The object that a task leaves unclaimed. -/
def Task.ends : Task ι → Option ι
  | .unclaim d _ _ | .detach d _ | .clearNumber d _ => some d
  | .readHandle fn d _ | .readNumber fn d _ _ | .issue fn d _ _ _ =>
    if fn.unclaims then some d else none
  | .device _ _ => none

/-- The calls of the tasks, with all their arguments. -/
inductive Call where
  | device (fn : DeviceFn) (handle : Option DeviceHandle)
  | setInterfaceAltSetting (handle : Option DeviceHandle) (number altSetting : UInt8)
  | releaseInterface (handle : Option DeviceHandle) (number : UInt8)
  | attachKernelDriver (handle : Option DeviceHandle) (number : UInt8)
  deriving DecidableEq

def Call.handle : Call → Option DeviceHandle
  | .device _ handle | .setInterfaceAltSetting handle _ _ | .releaseInterface handle _
  | .attachKernelDriver handle _ => handle

/-- The interface that a call names, if it is about one. -/
def Call.interface : Call → Option (Option DeviceHandle × UInt8)
  | .setInterfaceAltSetting handle number _ | .releaseInterface handle number
  | .attachKernelDriver handle number => some (handle, number)
  | .device _ _ => none

def InterfaceFn.call (handle : Option DeviceHandle) (number : UInt8) : InterfaceFn → Call
  | .setAltSetting altSetting => .setInterfaceAltSetting handle number altSetting
  | .release _                => .releaseInterface handle number
  | .attachKernelDriver       => .attachKernelDriver handle number

@[simp] lemma InterfaceFn.handle_call (fn : InterfaceFn) (handle : Option DeviceHandle)
    (number : UInt8) : (fn.call handle number).handle = handle := by
  cases fn <;> rfl

@[simp] lemma InterfaceFn.interface_call (fn : InterfaceFn) (handle : Option DeviceHandle)
    (number : UInt8) : (fn.call handle number).interface = some (handle, number) := by
  cases fn <;> rfl

/-- The call that a task issues. -/
def Task.call : Task ι → Option Call
  | .device fn handle           => some (.device fn (some handle))
  | .issue fn _ _ handle number => some (fn.call handle number)
  | .unclaim .. | .readHandle .. | .readNumber .. | .detach .. | .clearNumber .. => none

/-- What remains to be done when the call `fn` has returned `retCode`. -/
def InterfaceFn.rest (d : ι) (p : Claim) (retCode : ℤ) : InterfaceFn → Option (Task ι)
  | .setAltSetting _              => none
  | .release reattachKernelDriver =>
    if (libusbTry retCode).1.isError then none
    else if reattachKernelDriver then some (.readHandle .attachKernelDriver d p)
    else some (.detach d p)
  | .attachKernelDriver           => some (.detach d p)

/-- What remains of a task, given the interfaces as they are now: only `unclaim` asks whether its
object is claimed, and it asks once. -/
def Task.rest (iface : ι → UsbInterface) (retCode : ℤ) : Task ι → Option (Task ι)
  | .device _ _                       => none
  | .unclaim d reattachKernelDriver p =>
    if (iface d).deviceHandle = none then none
    else some (.readHandle (.release reattachKernelDriver) d p)
  | .readHandle fn d p                => some (.readNumber fn d p (iface d).deviceHandle)
  | .readNumber fn d p handle         => some (.issue fn d p handle (iface d).number)
  | .issue fn d p _ _                 => fn.rest d p retCode
  | .detach d p                       => some (.clearNumber d p)
  | .clearNumber _ _                  => none

lemma InterfaceFn.rest_eq_some {fn : InterfaceFn} {d : ι} {p : Claim} {retCode : ℤ}
    {task : Task ι} (h : fn.rest d p retCode = some task) :
    fn.unclaims = true ∧ (task = .readHandle .attachKernelDriver d p ∨ task = .detach d p) := by
  cases fn with
  | setAltSetting => cases h
  | attachKernelDriver =>
    cases h
    exact ⟨rfl, .inr rfl⟩
  | release reattach =>
    simp only [rest] at h
    split_ifs at h <;> cases h
    · exact ⟨rfl, .inl rfl⟩
    · exact ⟨rfl, .inr rfl⟩

/-- The rest of a task has the same target, and leaves the same object unclaimed. -/
lemma Task.rest_eq_some {iface : ι → UsbInterface} {retCode : ℤ} {task task' : Task ι}
    (h : task.rest iface retCode = some task') :
    task'.target = task.target ∧ task'.ends = task.ends := by
  cases task with
  | device | clearNumber => cases h
  | readHandle | readNumber | detach =>
    cases h
    exact ⟨rfl, rfl⟩
  | unclaim d reattach p =>
    simp only [rest] at h
    split_ifs at h
    cases h
    exact ⟨rfl, rfl⟩
  | issue fn d p handle number =>
    -- only `unclaim` goes on after a call
    obtain ⟨hunclaims, hrest⟩ := InterfaceFn.rest_eq_some h
    have hends : (issue fn d p handle number).ends = some d := if_pos hunclaims
    rw [hends]
    rcases hrest with rfl | rfl <;> exact ⟨rfl, rfl⟩

/-- A handle is copied from the object, and then kept. -/
lemma Task.captured_rest {iface : ι → UsbInterface} {retCode : ℤ} {task task' : Task ι}
    (h : task.rest iface retCode = some task') {handle : Option DeviceHandle}
    (hcaptured : task'.captured = some handle) :
    task.captured = some handle ∨
      ∃ fn d p, task = .readHandle fn d p ∧ handle = (iface d).deviceHandle := by
  cases task with
  | device | clearNumber => cases h
  | readHandle fn d p =>
    cases h
    cases hcaptured
    exact .inr ⟨fn, d, p, rfl, rfl⟩
  | readNumber =>
    cases h
    exact .inl hcaptured
  | detach =>
    cases h
    cases hcaptured
  | unclaim d reattach p =>
    simp only [rest] at h
    split_ifs at h
    cases h
    cases hcaptured
  | issue fn d p =>
    obtain ⟨-, rfl | rfl⟩ := InterfaceFn.rest_eq_some h <;> cases hcaptured

/-- How many steps of the blocking thread are left, at most, when a call returns. -/
def InterfaceFn.rank : InterfaceFn → ℕ
  | .setAltSetting _    => 0
  | .attachKernelDriver => 2
  | .release _          => 5

def Task.rank : Task ι → ℕ
  | .device _ _ | .clearNumber _ _ => 1
  | .detach _ _                    => 2
  | .issue fn _ _ _ _              => fn.rank + 1
  | .readNumber fn _ _ _           => fn.rank + 2
  | .readHandle fn _ _             => fn.rank + 3
  | .unclaim _ _ _                 => 9

/-- A function goes one way, and ends. -/
lemma Task.rank_rest {iface : ι → UsbInterface} {retCode : ℤ} {task task' : Task ι}
    (h : task.rest iface retCode = some task') : task'.rank < task.rank := by
  cases task with
  | device | clearNumber => cases h
  | readHandle | readNumber | detach =>
    cases h
    simp [rank]
  | unclaim d reattach p =>
    simp only [rest] at h
    split_ifs at h
    cases h
    simp [rank, InterfaceFn.rank]
  | issue fn d p handle number =>
    cases fn with
    | setAltSetting => cases h
    | attachKernelDriver =>
      cases h
      simp [rank, InterfaceFn.rank]
    | release reattach =>
      have hrest : InterfaceFn.rest d p retCode (.release reattach) = some task' := h
      obtain ⟨-, rfl | rfl⟩ := InterfaceFn.rest_eq_some hrest <;> simp [rank, InterfaceFn.rank]

/-! ### The state -/

/-- The interfaces are named by `ι`, the devices by `δ`, their services by `σ`. -/
structure World (ι δ σ : Type*) where
  devices : Device.World δ σ
  /-- Its own log is moved to the common one after every operation. -/
  ifaces : Interface.World ι
  /-- The oldest task stands first. -/
  tasks : List (Task ι)
  /-- What has been done with device handles, the latest first: `libusb_open` acquires one,
  `libusb_close` releases it, and every other call uses it. -/
  log : List (Event (Option DeviceHandle))

variable {δ σ : Type*} [DecidableEq ι] [DecidableEq δ] [DecidableEq σ]

/-- No object exists; what the memory of future objects holds does not matter. -/
def init (dev : δ → Device.UsbDevice σ) (iface : ι → UsbInterface) : World ι δ σ :=
  ⟨Device.init dev, Interface.init iface, [], []⟩

/-- The interface that a call of the user names. -/
def calledOn : Interface.Call → Claim
  | .claim p _ | .release p _ | .attachKernelDriver p | .detachKernelDriver p => p

namespace World

variable (w : World ι δ σ)

def post (task : Task ι) : World ι δ σ := { w with tasks := w.tasks ++ [task] }

/-- A step of the devices, with what it opens and closes. -/
def setDevices (a : Device.Action δ σ) (devices : Device.World δ σ) : World ι δ σ :=
  { w with
    devices := devices
    log := ((Device.opens a).map fun h => .acquire (some h)).toList ++
      (((Device.closes w.devices a).map fun h => .release (some h)).toList ++ w.log) }

/-- An operation of an interface; its calls are added to the log. -/
def operate (op : Interface.World ι → Interface.World ι) : World ι δ σ :=
  let ifaces := op { w.ifaces with log := [] }
  { w with
    ifaces := { ifaces with log := [] }
    log := (ifaces.log.map fun c => some (calledOn c).device).map .use ++ w.log }

/-- The blocking thread carries out the first task, whose call returns `retCode`. -/
def run (task : Task ι) (tasks : List (Task ι)) (retCode : ℤ) : World ι δ σ :=
  { w with
    ifaces := match task with
      | .detach d _      => w.ifaces.setIface d { w.ifaces.iface d with deviceHandle := none }
      | .clearNumber d _ => w.ifaces.setIface d { w.ifaces.iface d with number := 0 }
      | _                => w.ifaces
    tasks := (task.rest w.ifaces.iface retCode).toList ++ tasks
    log := (task.call.map Call.handle).toList.map .use ++ w.log }

end World

/-! ### Steps -/

inductive Action (ι δ σ : Type*) where
  | device (a : Device.Action δ σ)
  | construct (d : ι) (deviceHandle : Option DeviceHandle)
  | constructClaim (d : ι) (deviceHandle : Option DeviceHandle) (device : δ) (number : UInt8)
      (releaseRet claimRet destroyRet : ℤ)
  | claim (d : ι) (device : δ) (number : UInt8) (detachKernelDriver : Bool)
      (releaseRet claimRet : ℤ)
  | unclaim (d : ι) (reattachKernelDriver : Bool) (retCode : ℤ)
  | detach (d : ι)
  | moveAssign (d src : ι) (retCode : ℤ)
  | destroy (d : ι) (retCode : ℤ)
  /-- The memory of an object that does not live is used for something else. -/
  | reuse (d : ι) (x : UsbInterface)
  | asyncDevice (device : δ) (fn : DeviceFn)
  | asyncUnclaim (d : ι) (reattachKernelDriver : Bool)
  | asyncSetAltSetting (d : ι) (altSetting : UInt8)
  | run (retCode : ℤ)

/-- `handle()` of a device that lives and is open. -/
def openHandle (w : World ι δ σ) (device : δ) : Option DeviceHandle :=
  if device ∈ w.devices.live then (w.devices.dev device).handle else none

/-- What an interface that lives has claimed. -/
def claimed (w : World ι δ σ) (d : ι) : Option Claim :=
  if d ∈ w.ifaces.live then (w.ifaces.iface d).record else none

/-- Objects are constructed where there is none, and used only while they live; an operation is
started on an open device, or on a claimed interface. -/
def step (w : World ι δ σ) : Action ι δ σ → Option (World ι δ σ)
  | .device a => (Device.step w.devices a).map (w.setDevices a)
  | .construct d deviceHandle =>
    if d ∉ w.ifaces.live then some (w.operate (·.construct d deviceHandle)) else none
  | .constructClaim d deviceHandle device number releaseRet claimRet destroyRet =>
    if d ∈ w.ifaces.live then none
    else
      (openHandle w device).map fun h =>
        w.operate (·.constructClaim d deviceHandle ⟨h, number⟩ releaseRet claimRet destroyRet)
  | .claim d device number detachKernelDriver releaseRet claimRet =>
    if d ∉ w.ifaces.live then none
    else
      (openHandle w device).map fun h =>
        w.operate fun ifaces =>
          (ifaces.claim d ⟨h, number⟩ detachKernelDriver releaseRet claimRet).1
  | .unclaim d reattachKernelDriver retCode =>
    if d ∈ w.ifaces.live then
      some (w.operate fun ifaces => (ifaces.unclaim d reattachKernelDriver retCode).1)
    else none
  | .detach d => if d ∈ w.ifaces.live then some (w.operate (·.detach d)) else none
  | .moveAssign d src retCode =>
    if d ∈ w.ifaces.live ∧ src ∈ w.ifaces.live then some (w.operate (·.moveAssign d src retCode))
    else none
  | .destroy d retCode =>
    if d ∈ w.ifaces.live then some (w.operate (·.destroy d retCode)) else none
  | .reuse d x => if d ∉ w.ifaces.live then some (w.operate (·.setIface d x)) else none
  | .asyncDevice device fn => (openHandle w device).map fun h => w.post (.device fn h)
  | .asyncUnclaim d reattachKernelDriver =>
    (claimed w d).map fun p => w.post (.unclaim d reattachKernelDriver p)
  | .asyncSetAltSetting d altSetting =>
    (claimed w d).map fun p => w.post (.readHandle (.setAltSetting altSetting) d p)
  | .run retCode =>
    match w.tasks with
    | []            => none
    | task :: tasks => some (w.run task tasks retCode)

/-- The operations of the user on interfaces. -/
inductive Operation (w : World ι δ σ) :
    Action ι δ σ → (Interface.World ι → Interface.World ι) → Prop where
  | construct (d : ι) (deviceHandle : Option DeviceHandle) (hd : d ∉ w.ifaces.live) :
      Operation w (.construct d deviceHandle) (·.construct d deviceHandle)
  | constructClaim (d : ι) (deviceHandle : Option DeviceHandle) (device : δ) (number : UInt8)
      (releaseRet claimRet destroyRet : ℤ) (h : DeviceHandle) (hd : d ∉ w.ifaces.live)
      (hopen : openHandle w device = some h) :
      Operation w (.constructClaim d deviceHandle device number releaseRet claimRet destroyRet)
        (·.constructClaim d deviceHandle ⟨h, number⟩ releaseRet claimRet destroyRet)
  | claim (d : ι) (device : δ) (number : UInt8) (detachKernelDriver : Bool)
      (releaseRet claimRet : ℤ) (h : DeviceHandle) (hd : d ∈ w.ifaces.live)
      (hopen : openHandle w device = some h) :
      Operation w (.claim d device number detachKernelDriver releaseRet claimRet)
        fun ifaces => (ifaces.claim d ⟨h, number⟩ detachKernelDriver releaseRet claimRet).1
  | unclaim (d : ι) (reattachKernelDriver : Bool) (retCode : ℤ) (hd : d ∈ w.ifaces.live) :
      Operation w (.unclaim d reattachKernelDriver retCode)
        fun ifaces => (ifaces.unclaim d reattachKernelDriver retCode).1
  | detach (d : ι) (hd : d ∈ w.ifaces.live) : Operation w (.detach d) (·.detach d)
  | moveAssign (d src : ι) (retCode : ℤ) (hd : d ∈ w.ifaces.live) (hsrc : src ∈ w.ifaces.live) :
      Operation w (.moveAssign d src retCode) (·.moveAssign d src retCode)
  | destroy (d : ι) (retCode : ℤ) (hd : d ∈ w.ifaces.live) :
      Operation w (.destroy d retCode) (·.destroy d retCode)
  | reuse (d : ι) (x : UsbInterface) (hd : d ∉ w.ifaces.live) :
      Operation w (.reuse d x) (·.setIface d x)

/-- The kinds of steps. -/
inductive Rule (w : World ι δ σ) : Action ι δ σ → World ι δ σ → Prop where
  | device (a : Device.Action δ σ) (devices : Device.World δ σ)
      (hstep : Device.step w.devices a = some devices) :
      Rule w (.device a) (w.setDevices a devices)
  | operate (a : Action ι δ σ) (op : Interface.World ι → Interface.World ι)
      (hop : Operation w a op) : Rule w a (w.operate op)
  | asyncDevice (device : δ) (fn : DeviceFn) (h : DeviceHandle)
      (hopen : openHandle w device = some h) :
      Rule w (.asyncDevice device fn) (w.post (.device fn h))
  | asyncUnclaim (d : ι) (reattachKernelDriver : Bool) (p : Claim)
      (hclaimed : claimed w d = some p) :
      Rule w (.asyncUnclaim d reattachKernelDriver) (w.post (.unclaim d reattachKernelDriver p))
  | asyncSetAltSetting (d : ι) (altSetting : UInt8) (p : Claim)
      (hclaimed : claimed w d = some p) :
      Rule w (.asyncSetAltSetting d altSetting)
        (w.post (.readHandle (.setAltSetting altSetting) d p))
  | run (task : Task ι) (tasks : List (Task ι)) (retCode : ℤ) (htasks : w.tasks = task :: tasks) :
      Rule w (.run retCode) (w.run task tasks retCode)

lemma Rule.of_step {w w' : World ι δ σ} {a : Action ι δ σ} (hstep : step w a = some w') :
    Rule w a w' := by
  cases a with
  | device a =>
    obtain ⟨devices, hdevices, rfl⟩ := Option.map_eq_some_iff.mp hstep
    exact .device a devices hdevices
  | construct d deviceHandle =>
    obtain ⟨hd, rfl⟩ := Option.ite_some_none_eq_some.mp hstep
    exact .operate _ _ (.construct d deviceHandle hd)
  | constructClaim d deviceHandle device number releaseRet claimRet destroyRet =>
    obtain ⟨hd, hstep⟩ := Option.ite_none_left_eq_some.mp hstep
    obtain ⟨h, hopen, rfl⟩ := Option.map_eq_some_iff.mp hstep
    exact .operate _ _
      (.constructClaim d deviceHandle device number releaseRet claimRet destroyRet h hd hopen)
  | claim d device number detachKernelDriver releaseRet claimRet =>
    obtain ⟨hd, hstep⟩ := Option.ite_none_left_eq_some.mp hstep
    obtain ⟨h, hopen, rfl⟩ := Option.map_eq_some_iff.mp hstep
    exact .operate _ _
      (.claim d device number detachKernelDriver releaseRet claimRet h (not_not.mp hd) hopen)
  | unclaim d reattachKernelDriver retCode =>
    obtain ⟨hd, rfl⟩ := Option.ite_some_none_eq_some.mp hstep
    exact .operate _ _ (.unclaim d reattachKernelDriver retCode hd)
  | detach d =>
    obtain ⟨hd, rfl⟩ := Option.ite_some_none_eq_some.mp hstep
    exact .operate _ _ (.detach d hd)
  | moveAssign d src retCode =>
    obtain ⟨⟨hd, hsrc⟩, rfl⟩ := Option.ite_some_none_eq_some.mp hstep
    exact .operate _ _ (.moveAssign d src retCode hd hsrc)
  | destroy d retCode =>
    obtain ⟨hd, rfl⟩ := Option.ite_some_none_eq_some.mp hstep
    exact .operate _ _ (.destroy d retCode hd)
  | reuse d x =>
    obtain ⟨hd, rfl⟩ := Option.ite_some_none_eq_some.mp hstep
    exact .operate _ _ (.reuse d x hd)
  | asyncDevice device fn =>
    obtain ⟨h, hopen, rfl⟩ := Option.map_eq_some_iff.mp hstep
    exact .asyncDevice device fn h hopen
  | asyncUnclaim d reattachKernelDriver =>
    obtain ⟨p, hp, rfl⟩ := Option.map_eq_some_iff.mp hstep
    exact .asyncUnclaim d reattachKernelDriver p hp
  | asyncSetAltSetting d altSetting =>
    obtain ⟨p, hp, rfl⟩ := Option.map_eq_some_iff.mp hstep
    exact .asyncSetAltSetting d altSetting p hp
  | run retCode =>
    simp only [step] at hstep
    split at hstep
    · cases hstep
    · next task tasks htasks =>
      cases hstep
      exact .run task tasks retCode htasks

/-! ### An uninterrupted function -/

lemma exec_run {w : World ι δ σ} {task : Task ι} {tasks : List (Task ι)}
    (htasks : w.tasks = task :: tasks) (retCode : ℤ) (as : List (Action ι δ σ)) :
    exec step w (.run retCode :: as) = exec step (w.run task tasks retCode) as := by
  apply exec_cons_some
  simp [step, htasks]

/-- A posted `unclaim` that nobody interrupts does what `unclaim(reattach, ec)` does. -/
theorem exec_unclaim {w : World ι δ σ} {d : ι} {reattach : Bool} {p : Claim}
    {tasks : List (Task ι)} (hlog : w.ifaces.log = [])
    (htasks : w.tasks = .unclaim d reattach p :: tasks) (retCode : ℤ) :
    ∃ n, exec step w (List.replicate n (.run retCode)) =
      some { w.operate fun ifaces => (ifaces.unclaim d reattach retCode).1 with
        tasks := tasks } := by
  obtain ⟨devices, ⟨live, iface, log, givenUp⟩, _, events⟩ := w
  obtain rfl : log = [] := hlog
  obtain rfl := htasks
  cases hp : (iface d).record with
  | none =>
    have hnull : (iface d).deviceHandle = none := Option.map_eq_none_iff.mp hp
    refine ⟨1, ?_⟩
    simp [exec, step, World.run, World.operate, World.unclaim_of_unclaimed, Task.rest, Task.call,
      hp, hnull, List.replicate]
  | some q =>
    obtain ⟨h, hh, rfl⟩ := Option.map_eq_some_iff.mp hp
    by_cases hret : retCode < 0
    · -- the question, two reads, and a release that is refused
      have hunclaim : (⟨live, iface, [], givenUp⟩ : Interface.World ι).unclaim d reattach retCode
          = _ := World.unclaim_of_failed hp hret
      refine ⟨4, ?_⟩
      simp [exec, step, World.run, World.operate, hunclaim, World.call, Task.rest, Task.call,
        InterfaceFn.rest, InterfaceFn.call, Call.handle, calledOn, hh, hret, List.replicate]
    · have hunclaim : (⟨live, iface, [], givenUp⟩ : Interface.World ι).unclaim d reattach retCode
          = _ := World.unclaim_of_released hp (not_lt.mp hret)
      cases reattach with
      | true =>
        refine ⟨9, ?_⟩
        simp [exec, step, World.run, World.operate, hunclaim, World.call, World.clear,
          World.setIface, Task.rest, Task.call, InterfaceFn.rest, InterfaceFn.call, Call.handle,
          calledOn, hh, hret, List.replicate]
      | false =>
        refine ⟨6, ?_⟩
        simp [exec, step, World.run, World.operate, hunclaim, World.call, World.clear,
          World.setIface, Task.rest, Task.call, InterfaceFn.rest, InterfaceFn.call, Call.handle,
          calledOn, hh, hret, List.replicate]

end UsbAsio.BlockingOp
