import UsbAsio.Interface.Conservation
import UsbAsio.Overloads.Runs

/-!
# The members as operations

The members of an interface and of a device, as programs that call libusb, do what the operations
of the models of whole programs do: to the object, to the log of calls, and to `ec`.
-/

namespace UsbAsio.Overloads

open Effects Interface

variable {ι : Type} [DecidableEq ι]

/-! ### Interfaces -/

/-- A call on an interface of an open device. -/
def interfaceCall (e : LibusbCall × Answer) : Option Interface.Call :=
  match e.1 with
  | .claimInterface (some handle) number     => some (.claim ⟨handle, number⟩ e.2.retCode)
  | .releaseInterface (some handle) number   => some (.release ⟨handle, number⟩ e.2.retCode)
  | .attachKernelDriver (some handle) number => some (.attachKernelDriver ⟨handle, number⟩)
  | .detachKernelDriver (some handle) number => some (.detachKernelDriver ⟨handle, number⟩)
  | _                                        => none

/-- From `w` to `w'`, the object `d` went the way of a member that ended in `m`. -/
structure Follows (w w' : World ι) (d : ι) (m : Machine UsbInterface) : Prop where
  object : w'.iface d = m.object
  log : w'.log = m.log.filterMap interfaceCall ++ w.log

theorem unclaim_follows (w : World ι) (d : ι) (reattach : Bool) (ec : ErrorCode)
    (answers : ℕ → Answer) : ∃ m,
      (InterfaceObject.unclaimReattachEc reattach ec).run (.start answers (w.iface d)) =
        .ok ((), (w.unclaim d reattach (answers 0).retCode).2) m ∧
      Follows w (w.unclaim d reattach (answers 0).retCode).1 d m := by
  cases hhandle : (w.iface d).deviceHandle with
  | none =>
    have hrecord : (w.iface d).record = none := by rw [UsbInterface.record, hhandle]; rfl
    rw [World.unclaim_of_unclaimed hrecord]
    exact ⟨_, InterfaceObject.run_unclaim_of_unclaimed reattach ec hhandle, rfl, rfl⟩
  | some handle =>
    have hrecord : (w.iface d).record = some ⟨handle, (w.iface d).number⟩ := by
      rw [UsbInterface.record, hhandle]; rfl
    by_cases hret : (answers 0).retCode < 0
    · rw [World.unclaim_of_failed hrecord hret]
      exact ⟨_, InterfaceObject.run_unclaim_of_failed reattach ec hhandle hret, rfl, rfl⟩
    · have hret := not_lt.mp hret
      rw [World.unclaim_of_released hrecord hret]
      have hclear : (libusbTry (answers 0).retCode).1 = .clear := by
        rw [libusbTry, if_neg (not_lt.mpr hret)]
      rw [hclear]
      refine ⟨_, InterfaceObject.run_unclaim_of_released reattach ec hhandle hret, ?_, ?_⟩
      · simp [World.clear, World.setIface]
      · cases reattach <;> rfl

lemma unclaim_snd_of_ok {w : World ι} {d : ι} {reattach : Bool} {retCode : ℤ}
    (h : (w.unclaim d reattach retCode).2.isError = false) :
    (w.unclaim d reattach retCode).2 = .clear := by
  revert h
  refine World.unclaim_rec (fun _ _ => rfl) ?_ ?_
  · intro p _ hret h
    simp [hret] at h
  · intro p _ hret _
    dsimp only
    rw [libusbTry, if_neg (not_lt.mpr hret)]

lemma claim_snd (w : World ι) (d : ι) (p : Claim) (detachDriver : Bool)
    (releaseRet claimRet : ℤ) : (w.claim d p detachDriver releaseRet claimRet).2 =
      if (w.unclaim d true releaseRet).2.isError then (w.unclaim d true releaseRet).2
      else (libusbTry claimRet).1 := by
  simp only [World.claim]
  split_ifs <;> rfl

omit [DecidableEq ι] in
lemma Follows.call {w w' : World ι} {d : ι} {m : Machine UsbInterface} (h : Follows w w' d m)
    {c : LibusbCall} {c' : Interface.Call}
    (hc : interfaceCall (c, m.answers m.log.length) = some c') :
    Follows w (w'.call c') d (issue m c) := by
  refine ⟨h.object, ?_⟩
  rw [issue, List.filterMap_cons, hc, List.cons_append, ← h.log]
  rfl

lemma Follows.setIface {w w' : World ι} {d : ι} {m : Machine UsbInterface} (h : Follows w w' d m)
    (x : UsbInterface) : Follows w (w'.setIface d x) d { m with object := x } :=
  ⟨Function.update_self .., h.log⟩

/-- With the code that `libusb_claim_interface` returns, if it is called. -/
theorem claim_follows (w : World ι) (d : ι) (p : Claim) (detachDriver : Bool) (ec : ErrorCode)
    (answers : ℕ → Answer) : ∃ claimRet m,
      (InterfaceObject.claimDetachEc (some p.device) p.number detachDriver ec).run
          (.start answers (w.iface d)) =
        .ok ((), (w.claim d p detachDriver (answers 0).retCode claimRet).2) m ∧
      Follows w (w.claim d p detachDriver (answers 0).retCode claimRet).1 d m := by
  obtain ⟨m₁, hunclaim, hfollows⟩ := unclaim_follows w d true ec answers
  cases herr : (w.unclaim d true (answers 0).retCode).2.isError with
  | true =>
    refine ⟨0, m₁, ?_, ?_⟩
    · rw [InterfaceObject.run_claim_of_claimed (some p.device) p.number detachDriver hunclaim herr,
        claim_snd, if_pos herr]
    · rw [World.claim_fst]
      dsimp only
      rw [if_pos herr]
      exact hfollows
  | false =>
    rw [unclaim_snd_of_ok herr] at hunclaim
    let w₁ := (w.unclaim d true (answers 0).retCode).1
    let w₂ := if detachDriver then w₁.call (.detachKernelDriver p) else w₁
    let m₂ : Machine UsbInterface :=
      if detachDriver then issue m₁ (.detachKernelDriver (some p.device) p.number) else m₁
    have hdetach : Follows w w₂ d m₂ := by
      cases detachDriver with
      | false => exact hfollows
      | true => exact hfollows.call rfl
    have hobject : m₂.object = m₁.object := by
      cases detachDriver <;> rfl
    have hclaim : Follows w (w₂.call (.claim p (nextRet m₂))) d
        (issue m₂ (.claimInterface (some p.device) p.number)) := hdetach.call rfl
    refine ⟨nextRet m₂, { issue m₂ (.claimInterface (some p.device) p.number) with
      object := if nextRet m₂ < 0 then m₁.object else ⟨some p.device, p.number⟩ }, ?_, ?_⟩
    · rw [claim_snd, herr, if_neg Bool.false_ne_true]
      exact InterfaceObject.run_claim_of_unclaimed _ _ detachDriver ec hunclaim
    · rw [World.claim_fst]
      dsimp only
      rw [herr, if_neg Bool.false_ne_true]
      by_cases hret : nextRet m₂ < 0
      · rw [if_pos hret, if_pos hret]
        exact ⟨hclaim.object.trans hobject, hclaim.log⟩
      · rw [if_neg hret, if_neg hret]
        exact hclaim.setIface _

/-! ### Devices -/

/-- The counter of a service after what it has been told. -/
def counterAfter (counter : ℕ) : List Notice → ℕ
  | []                    => counter
  | .devOpened :: notices => incrementDevices (counterAfter counter notices)
  | .devClosed :: notices => decrementDevices (counterAfter counter notices)

/-- The open handles after the calls of a log. -/
def openHandlesAfter (openHandles : Finset DeviceHandle) :
    List (LibusbCall × Answer) → Finset DeviceHandle
  | []                       => openHandles
  | (.close handle, _) :: log => (openHandlesAfter openHandles log).erase handle
  | (.open _, answer) :: log =>
    if answer.retCode < 0 then openHandlesAfter openHandles log
    else insert answer.handle (openHandlesAfter openHandles log)
  | _ :: log                 => openHandlesAfter openHandles log

variable {σ : Type} [DecidableEq σ]

/-- From `w` to `w'`, the device `d` went the way of a member that ended in `m`. -/
structure FollowsDevice (w w' : Device.World ι σ) (d : ι) (m : Machine DeviceObject) : Prop where
  device : w'.dev d = ⟨m.object.handle, (w.dev d).service⟩
  counter : w'.openDevices (w.dev d).service =
    counterAfter (w.openDevices (w.dev d).service) m.object.notices
  openHandles : w'.openHandles = openHandlesAfter w.openHandles m.log

/-- A device whose service has been told nothing yet. -/
def deviceObject (x : Device.UsbDevice σ) : DeviceObject := ⟨x.handle, []⟩

lemma close_follows (w : Device.World ι σ) (d : ι) (answers : ℕ → Answer) : ∃ m,
    DeviceObject.close.run (.start answers (deviceObject (w.dev d))) = .ok () m ∧
      m.object.handle = none ∧ FollowsDevice w (w.close d) d m := by
  cases hhandle : (w.dev d).handle with
  | none =>
    rw [Device.World.close_of_closed hhandle]
    have hdevice : w.dev d = ⟨none, (w.dev d).service⟩ := by rw [← hhandle]
    exact ⟨_, DeviceObject.run_close_of_closed hhandle, hhandle, by rw [hdevice]; rfl, rfl, rfl⟩
  | some handle =>
    rw [Device.World.close_of_open hhandle]
    refine ⟨_, DeviceObject.run_close_of_open hhandle, rfl, ?_, ?_, rfl⟩
    · exact Function.update_self ..
    · simp only [Device.World.notifyDevClosed, Function.update_self]
      rfl

lemma openEc_snd (w : Device.World ι σ) (d : ι) (retCode : ℤ) (handle : DeviceHandle) :
    (w.openEc d retCode handle).2 = (libusbTry retCode).1 := by
  simp only [Device.World.openEc]
  split_ifs <;> rfl

/-- With what `libusb_open` returns and stores. -/
theorem open_follows (w : Device.World ι σ) (d : ι) (info : Option DevicePtr) (ec : ErrorCode)
    (answers : ℕ → Answer) : ∃ retCode handle m,
      (DeviceObject.openEc info ec).run (.start answers (deviceObject (w.dev d))) =
        .ok ((), (w.openEc d retCode handle).2) m ∧
      FollowsDevice w (w.openEc d retCode handle).1 d m := by
  obtain ⟨m₁, hclose, hclosed, hfollows⟩ := close_follows w d answers
  let answer := m₁.answers m₁.log.length
  refine ⟨nextRet m₁, answer.handle, { issue m₁ (.open info) with
    object :=
      if nextRet m₁ < 0 then m₁.object
      else ⟨some answer.handle, .devOpened :: m₁.object.notices⟩ }, ?_, ?_⟩
  · rw [openEc_snd]
    exact DeviceObject.run_open info ec hclose hclosed
  · have hservice : ((w.close d).dev d).service = (w.dev d).service := by rw [hfollows.device]
    by_cases hret : nextRet m₁ < 0
    · have herr : (libusbTry (nextRet m₁)).1.isError = true := by simpa using hret
      rw [Device.World.openEc_of_error herr, if_pos hret]
      refine ⟨hfollows.device, hfollows.counter, hfollows.openHandles.trans ?_⟩
      exact (if_pos hret).symm
    · have hok : (libusbTry (nextRet m₁)).1.isError = false := by simpa using hret
      rw [Device.World.openEc_of_ok hok, if_neg hret]
      refine ⟨?_, ?_, ?_⟩
      · rw [hservice]
        exact Function.update_self ..
      · rw [hservice]
        simp only [Device.World.notifyDevOpened, Function.update_self, counterAfter,
          hfollows.counter]
      · rw [hfollows.openHandles]
        exact (if_neg hret).symm

end UsbAsio.Overloads
