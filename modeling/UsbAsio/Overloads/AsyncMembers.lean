import UsbAsio.Effects.Parts
import UsbAsio.Overloads.Runs
import UsbAsio.Service.BlockingDrain

/-!
# The asynchronous members

The members of a device and of an interface whose calls block exist in a version that posts the
work to the blocking thread. The devices hand over the value of their handle, the interfaces
themselves. As long as nobody else uses the objects, the operations do one after the other what
the members with an `error_code&` do, in the order of their initiations, and each handler is
posted once, with the code of its own operation.
-/

namespace UsbAsio.Overloads

open Effects Transition WorkQueue

variable {δ ι : Type} [DecidableEq δ] [DecidableEq ι]

/-- The devices are named by `δ`, the interfaces by `ι`. -/
structure Objects (δ ι : Type) where
  device : δ → DeviceObject
  iface : ι → Interface.UsbInterface

/-! ### The members -/

def Objects.devicePart (d : δ) : Part (Objects δ ι) DeviceObject :=
  Part.component ⟨Objects.device, fun x device => { x with device := device }, fun _ _ => rfl,
    fun _ => rfl⟩ d

def Objects.ifacePart (i : ι) : Part (Objects δ ι) Interface.UsbInterface :=
  Part.component ⟨Objects.iface, fun x iface => { x with iface := iface }, fun _ _ => rfl,
    fun _ => rfl⟩ i

/-- What `async_try_blocking_with_ec` is given. -/
abbrev BlockingFn (δ ι : Type) := ErrorCode → Program (Objects δ ι) (Unit × ErrorCode)

/-- `libusb_try(ec, fn, args...)` on captured values. -/
def tryCaptured (c : LibusbCall) : BlockingFn δ ι := fun ec => do
  let tried ← libusbTryEc c ec
  return ((), tried.2)

inductive AsyncMember (δ ι : Type) where
  | setConfiguration (d : δ) (configuration : UInt8)
  | clearHalt (d : δ) (endpoint : UInt8)
  | resetDevice (d : δ)
  | unclaim (i : ι) (reattachKernelDriver : Bool)
  | setAltSetting (i : ι) (altSetting : UInt8)

namespace AsyncMember

/-- The function that is posted, given the objects when the operation is initiated: a device
captures `handle()`, an interface captures `this`. -/
def blockingFn (objects : Objects δ ι) : AsyncMember δ ι → BlockingFn δ ι
  | .setConfiguration d configuration =>
    tryCaptured (.setConfiguration (objects.device d).handle configuration)
  | .clearHalt d endpoint => tryCaptured (.clearHalt (objects.device d).handle endpoint)
  | .resetDevice d => tryCaptured (.resetDevice (objects.device d).handle)
  | .unclaim i reattachKernelDriver => fun ec =>
    onPart (Objects.ifacePart i) (InterfaceObject.unclaimReattachEc reattachKernelDriver ec)
  | .setAltSetting i altSetting => fun ec =>
    onPart (Objects.ifacePart i) (InterfaceObject.setAltSettingEc altSetting ec)

/-- The member with an `error_code&`. -/
def twin : AsyncMember δ ι → BlockingFn δ ι
  | .setConfiguration d configuration => fun ec =>
    onPart (Objects.devicePart d) (DeviceObject.setConfigurationEc configuration ec)
  | .clearHalt d endpoint => fun ec =>
    onPart (Objects.devicePart d) (DeviceObject.clearHaltEc endpoint ec)
  | .resetDevice d => fun ec => onPart (Objects.devicePart d) (DeviceObject.resetDeviceEc ec)
  | .unclaim i reattachKernelDriver => fun ec =>
    onPart (Objects.ifacePart i) (InterfaceObject.unclaimReattachEc reattachKernelDriver ec)
  | .setAltSetting i altSetting => fun ec =>
    onPart (Objects.ifacePart i) (InterfaceObject.setAltSettingEc altSetting ec)

end AsyncMember

/-- The devices have the same handles. -/
def SameHandles (x y : Objects δ ι) : Prop := ∀ d, (y.device d).handle = (x.device d).handle

omit [DecidableEq ι] in
/-- A member of a device makes its one call. -/
lemma run_devicePart (d : δ) (c : DeviceObject → LibusbCall) (ec : ErrorCode)
    (m : Machine (Objects δ ι)) :
    (onPart (Objects.devicePart d) (callEc c (fun _ _ => ()) ec)).run m =
      (tryCaptured (c (m.object.device d)) ec).run m := by
  rw [run_onPart_of_ok (run_callEc c _ ec _), Part.widen_of_same]
  rfl

namespace AsyncMember

/-- A function that runs while the devices have the handles that have been captured does what the
member with an `error_code&` does. -/
lemma run_blockingFn {objects : Objects δ ι} (op : AsyncMember δ ι) (ec : ErrorCode)
    {m : Machine (Objects δ ι)} (h : SameHandles objects m.object) :
    (op.blockingFn objects ec).run m = (op.twin ec).run m := by
  cases op with
  | setConfiguration d configuration =>
    simp only [blockingFn, ← h d]
    exact (run_devicePart d (fun x => .setConfiguration x.handle configuration) ec m).symm
  | clearHalt d endpoint =>
    simp only [blockingFn, ← h d]
    exact (run_devicePart d (fun x => .clearHalt x.handle endpoint) ec m).symm
  | resetDevice d =>
    simp only [blockingFn, ← h d]
    exact (run_devicePart d (fun x => .resetDevice x.handle) ec m).symm
  | unclaim | setAltSetting => rfl

/-- The members return, and leave the handles of the devices alone. -/
lemma run_twin (op : AsyncMember δ ι) (ec : ErrorCode) (m : Machine (Objects δ ι)) :
    ∃ ec' m', (op.twin ec).run m = .ok ((), ec') m' ∧ SameHandles m.object m'.object := by
  have hiface : ∀ (i : ι) (p : Program Interface.UsbInterface (Unit × ErrorCode)) ec' m',
      p.run ((Objects.ifacePart i).narrow m) = .ok ((), ec') m' → ∃ ec' m',
        (onPart (Objects.ifacePart i) p).run m = .ok ((), ec') m' ∧
          SameHandles m.object m'.object := by
    intro i p ec' m' hp
    exact ⟨ec', _, run_onPart_of_ok hp, fun _ => rfl⟩
  cases op with
  | setConfiguration d configuration =>
    exact ⟨_, _, run_devicePart d (fun x => .setConfiguration x.handle configuration) ec m,
      fun _ => rfl⟩
  | clearHalt d endpoint =>
    exact ⟨_, _, run_devicePart d (fun x => .clearHalt x.handle endpoint) ec m, fun _ => rfl⟩
  | resetDevice d =>
    exact ⟨_, _, run_devicePart d (fun x => .resetDevice x.handle) ec m, fun _ => rfl⟩
  | setAltSetting i altSetting =>
    exact hiface i (InterfaceObject.setAltSettingEc altSetting ec) _ _ rfl
  | unclaim i reattach =>
    let n := (Objects.ifacePart i).narrow m
    cases hhandle : n.object.deviceHandle with
    | none => exact hiface i _ _ _ (InterfaceObject.run_unclaim_of_unclaimed reattach ec hhandle)
    | some handle =>
      by_cases hret : nextRet n < 0
      · exact hiface i _ _ _ (InterfaceObject.run_unclaim_of_failed reattach ec hhandle hret)
      · exact hiface i _ _ _
          (InterfaceObject.run_unclaim_of_released reattach ec hhandle (not_lt.mp hret))

end AsyncMember

/-! ### The members one after the other -/

/-- The machine after some calls of the members with an `error_code&`, and their codes. -/
def callAll (m : Machine (Objects δ ι)) :
    List (AsyncMember δ ι) → Machine (Objects δ ι) × List ErrorCode
  | []        => (m, [])
  | op :: ops =>
    match (op.twin .clear).run m with
    | .ok x m'    => ((callAll m' ops).1, x.2 :: (callAll m' ops).2)
    | .error _ m' => (m', [])

lemma callAll_cons_of_ok {m m' : Machine (Objects δ ι)} {op : AsyncMember δ ι} {ec : ErrorCode}
    (h : (op.twin .clear).run m = .ok ((), ec) m') (ops : List (AsyncMember δ ι)) :
    callAll m (op :: ops) = ((callAll m' ops).1, ec :: (callAll m' ops).2) := by
  rw [callAll, h]

/-- One more call. -/
lemma callAll_concat {m m' : Machine (Objects δ ι)} {ops : List (AsyncMember δ ι)}
    {op : AsyncMember δ ι} {ec : ErrorCode}
    (h : (op.twin .clear).run (callAll m ops).1 = .ok ((), ec) m') :
    callAll m (ops ++ [op]) = (m', (callAll m ops).2 ++ [ec]) := by
  induction ops generalizing m with
  | nil => exact callAll_cons_of_ok h []
  | cons first ops ih =>
    obtain ⟨ec₁, m₁, hrun, -⟩ := first.run_twin .clear m
    rw [callAll_cons_of_ok hrun] at h ⊢
    rw [List.cons_append, callAll_cons_of_ok hrun, ih h]
    rfl

/-- The handles of the devices stay. -/
lemma sameHandles_callAll (m : Machine (Objects δ ι)) (ops : List (AsyncMember δ ι)) :
    SameHandles m.object (callAll m ops).1.object := by
  induction ops generalizing m with
  | nil => exact fun _ => rfl
  | cons op ops ih =>
    obtain ⟨ec, m', hrun, hsame⟩ := op.run_twin .clear m
    rw [callAll_cons_of_ok hrun]
    intro d
    exact (ih m' d).trans (hsame d)

lemma length_callAll (m : Machine (Objects δ ι)) (ops : List (AsyncMember δ ι)) :
    (callAll m ops).2.length = ops.length := by
  induction ops generalizing m with
  | nil => rfl
  | cons op ops ih =>
    obtain ⟨ec, m', hrun, -⟩ := op.run_twin .clear m
    rw [callAll_cons_of_ok hrun, List.length_cons, List.length_cons, ih]

end UsbAsio.Overloads
