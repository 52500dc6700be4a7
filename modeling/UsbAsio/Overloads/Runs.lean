import UsbAsio.Overloads.Members

/-!
# Runs of the members

What the members with more than one call do, one lemma for each way they can go.
-/

namespace UsbAsio.Overloads

open Effects Interface

/-- `m` after one more call. -/
def issue {σ : Type} (m : Machine σ) (c : LibusbCall) : Machine σ :=
  { m with log := (c, m.answers m.log.length) :: m.log }

/-- The return code of the next call. -/
def nextRet {σ : Type} (m : Machine σ) : ℤ := (m.answers m.log.length).retCode

section TryWithEc

variable {σ α : Type} {m m₁ : Machine σ} {fn : ErrorCode → Program σ (α × ErrorCode)} {a : α}
  {ec : ErrorCode}

lemma run_tryWithEc_of_clear (h : (fn .clear).run m = .ok (a, ec) m₁) (hec : ec.isError = false) :
    (tryWithEc fn).run m = .ok a m₁ := by
  rw [run_tryWithEc, h]
  exact raised_of_clear hec m₁

lemma run_tryWithEc_of_error (h : (fn .clear).run m = .ok (a, ec) m₁) (hec : ec.isError = true) :
    (tryWithEc fn).run m = .error (.thrown ec) m₁ := by
  rw [run_tryWithEc, h]
  exact raised_of_error hec m₁

end TryWithEc

namespace DeviceObject

variable {m : Machine DeviceObject}

lemma run_close_of_closed (h : m.object.handle = none) : close.run m = .ok () m := by
  simp [close, h]

lemma run_close_of_open {handle : DeviceHandle} (h : m.object.handle = some handle) :
    close.run m = .ok () { issue m (.close handle) with
      object := ⟨none, .devClosed :: m.object.notices⟩ } := by
  simp [close, resetHandle, notify, h, issue]

/-- Once the old handle is closed. -/
lemma run_open {m₁ : Machine DeviceObject} (info : Option DevicePtr) (ec : ErrorCode)
    (h : close.run m = .ok () m₁) (hclosed : m₁.object.handle = none) :
    (openEc info ec).run m = .ok ((), (libusbTry (nextRet m₁)).1) { issue m₁ (.open info) with
      object :=
        if nextRet m₁ < 0 then m₁.object
        else ⟨some (m₁.answers m₁.log.length).handle, .devOpened :: m₁.object.notices⟩ } := by
  rw [openEc, run_bind_of_ok h]
  simp only [nextRet]
  by_cases hret : (m₁.answers m₁.log.length).retCode < 0 <;>
    simp [hret, resetHandle, notify, hclosed, issue]

end DeviceObject

namespace InterfaceObject

variable {m : Machine UsbInterface}

lemma run_unclaim_of_unclaimed (reattach : Bool) (ec : ErrorCode)
    (h : m.object.deviceHandle = none) :
    (unclaimReattachEc reattach ec).run m = .ok ((), .clear) m := by
  apply run_noexcept_of_ok
  simp [h]

lemma run_unclaim_of_failed (reattach : Bool) (ec : ErrorCode) {handle : DeviceHandle}
    (h : m.object.deviceHandle = some handle) (hret : nextRet m < 0) :
    (unclaimReattachEc reattach ec).run m = .ok ((), (libusbTry (nextRet m)).1)
      (issue m (.releaseInterface (some handle) m.object.number)) := by
  apply run_noexcept_of_ok
  simp only [nextRet] at hret ⊢
  simp [h, hret, issue]

lemma run_unclaim_of_released (reattach : Bool) (ec : ErrorCode) {handle : DeviceHandle}
    (h : m.object.deviceHandle = some handle) (hret : 0 ≤ nextRet m) :
    (unclaimReattachEc reattach ec).run m = .ok ((), .clear)
      { (if reattach then (issue (issue m (.releaseInterface (some handle) m.object.number))
            (.attachKernelDriver (some handle) m.object.number))
          else issue m (.releaseInterface (some handle) m.object.number)) with
        object := ⟨none, 0⟩ } := by
  apply run_noexcept_of_ok
  simp only [nextRet] at hret
  cases reattach <;> simp [h, not_lt.mpr hret, libusbTry, issue]

lemma unclaimEc_eq : unclaimEc = unclaimReattachEc true := by
  funext ec
  exact noexcept_noexcept _

lemma claimEc_eq (device : Option DeviceHandle) (number : UInt8) :
    claimEc device number = claimDetachEc device number true := by
  funext ec
  exact noexcept_noexcept _

/-- After the old claim. -/
lemma run_claim_of_unclaimed {m₁ : Machine UsbInterface} (device : Option DeviceHandle)
    (number : UInt8) (detachDriver : Bool) (ec : ErrorCode)
    (h : (unclaimReattachEc true ec).run m = .ok ((), .clear) m₁) :
    (claimDetachEc device number detachDriver ec).run m =
      let m₂ := if detachDriver then issue m₁ (.detachKernelDriver device number) else m₁
      .ok ((), (libusbTry (nextRet m₂)).1) { issue m₂ (.claimInterface device number) with
        object := if nextRet m₂ < 0 then m₁.object else ⟨device, number⟩ } := by
  apply run_noexcept_of_ok
  rw [unclaimEc_eq, run_bind_of_ok h]
  simp only [nextRet]
  cases detachDriver
  · by_cases hret : (m₁.answers m₁.log.length).retCode < 0 <;> simp [hret, issue]
  · by_cases hret : (m₁.answers (m₁.log.length + 1)).retCode < 0 <;> simp [hret, issue]

lemma run_claim_of_claimed {m₁ : Machine UsbInterface} (device : Option DeviceHandle)
    (number : UInt8) (detachDriver : Bool) {ec ec₁ : ErrorCode}
    (h : (unclaimReattachEc true ec).run m = .ok ((), ec₁) m₁) (herr : ec₁.isError = true) :
    (claimDetachEc device number detachDriver ec).run m = .ok ((), ec₁) m₁ := by
  apply run_noexcept_of_ok
  rw [unclaimEc_eq, run_bind_of_ok h]
  simp [herr]

end InterfaceObject

end UsbAsio.Overloads
