import UsbAsio.Overloads.Runs

/-!
# Reports through `ec`

A member with an `error_code&` returns normally and leaves in `ec` the code of the call that
failed, or clears it. What the members for streams report goes past `ec`: they call the overload of
`libusb_try` that throws.
-/

namespace UsbAsio.Overloads

open Effects Interface

variable {σ α : Type}

/-! ### The property -/

/-- What `ec` says after the calls of a log: the code of a call that failed and was looked at, and
nothing if there is none. -/
structure Reported (log : List (LibusbCall × Answer)) (ec : ErrorCode) : Prop where
  failed : ∀ e ∈ log, e.1.examined = true → e.2.retCode < 0 → ec = makeErrorCode e.2.retCode
  succeeded : (∀ e ∈ log, e.1.examined = true → 0 ≤ e.2.retCode) → ec = .clear

/-- `op(args..., ec)` returns normally, and `ec` reports its calls. -/
def Reports (op : Operation σ α) (ec : ErrorCode) (answers : ℕ → Answer) (object : σ) : Prop :=
  ∃ x m, (op.withEc ec).run (.start answers object) = .ok x m ∧ Reported m.log x.2

/-- The operations that call the wrong overload of `libusb_try`. -/
def Operation.onStreams : Operation σ α → Bool
  | .allocStreams _ _ | .freeStreams _ => true
  | _                                  => false

/-! ### Logs -/

/-- No call that was looked at has failed. -/
def Clean (log : List (LibusbCall × Answer)) : Prop :=
  ∀ e ∈ log, e.1.examined = true → 0 ≤ e.2.retCode

variable {log : List (LibusbCall × Answer)} {c : LibusbCall} {answer : Answer}

lemma clean_nil : Clean [] := nofun

lemma Clean.cons (h : Clean log) (hret : c.examined = true → 0 ≤ answer.retCode) :
    Clean ((c, answer) :: log) := by
  intro e he
  rcases List.mem_cons.mp he with rfl | he
  · exact hret
  · exact h e he

lemma Clean.reported (h : Clean log) : Reported log .clear := by
  constructor
  · intro e he hexamined hret
    exact absurd (h e he hexamined) (not_le.mpr hret)
  · intro _
    rfl

/-- The code of the last call is the one to report. -/
lemma Clean.reported_call (h : Clean log) (hc : c.examined = true) :
    Reported ((c, answer) :: log) (libusbTry answer.retCode).1 := by
  constructor
  · intro e he hexamined hret
    rcases List.mem_cons.mp he with rfl | he
    · rw [libusbTry, if_pos hret]
    · exact absurd (h e he hexamined) (not_le.mpr hret)
  · intro hclean
    have hret := hclean _ List.mem_cons_self hc
    rw [libusbTry, if_neg (not_lt.mpr hret)]

/-! ### One call -/

lemma reported_callEc {c : σ → LibusbCall} (result : Answer → ℕ → α) (ec : ErrorCode)
    (answers : ℕ → Answer) (object : σ) (hc : (c object).examined = true) :
    ∃ x m, (callEc c result ec).run (.start answers object) = .ok x m ∧ Reported m.log x.2 :=
  ⟨_, _, run_callEc c result ec _, clean_nil.reported_call hc⟩

lemma returns_callThrowing_iff {c : σ → LibusbCall} (ec : ErrorCode) (answers : ℕ → Answer)
    (object : σ) :
    Returns (callThrowing c ec) (.start answers object) ↔ 0 ≤ (answers 0).retCode := by
  constructor
  · rintro ⟨x, m, hok⟩
    by_contra hret
    rw [run_callThrowing_of_failed c ec (m := .start answers object) (not_le.mp hret)] at hok
    cases hok
  · intro hret
    exact ⟨_, _, run_callThrowing_of_ok c ec (m := .start answers object) hret⟩

/-- Nothing is written to `ec` here: it has to be clear already, and the call must not fail. -/
lemma reported_callThrowing_iff {c : σ → LibusbCall} (ec : ErrorCode) (answers : ℕ → Answer)
    (object : σ) :
    (∃ x m, (callThrowing c ec).run (.start answers object) = .ok x m ∧ Reported m.log x.2) ↔
      0 ≤ (answers 0).retCode ∧ ec = .clear := by
  constructor
  · rintro ⟨x, m, hok, hreported⟩
    have hret := (returns_callThrowing_iff ec answers object).mp ⟨x, m, hok⟩
    have hclean : Clean [(c object, answers 0)] := clean_nil.cons fun _ => hret
    rw [run_callThrowing_of_ok c ec (m := .start answers object) hret] at hok
    cases hok
    exact ⟨hret, hreported.succeeded hclean⟩
  · rintro ⟨hret, rfl⟩
    have hclean : Clean [(c object, answers 0)] := clean_nil.cons fun _ => hret
    exact ⟨_, _, run_callThrowing_of_ok c .clear (m := .start answers object) hret, hclean.reported⟩

/-! ### Several calls -/

/-- The release reports its failure; otherwise the log stays clean. -/
lemma reported_unclaim (reattach : Bool) (ec : ErrorCode) {m : Machine UsbInterface}
    (h : Clean m.log) : ∃ ec' m',
      (InterfaceObject.unclaimReattachEc reattach ec).run m = .ok ((), ec') m' ∧
        Reported m'.log ec' ∧ (ec'.isError = false → ec' = .clear ∧ Clean m'.log) := by
  cases hhandle : m.object.deviceHandle with
  | none =>
    exact ⟨_, _, InterfaceObject.run_unclaim_of_unclaimed reattach ec hhandle, h.reported,
      fun _ => ⟨rfl, h⟩⟩
  | some handle =>
    by_cases hret : nextRet m < 0
    · refine ⟨_, _, InterfaceObject.run_unclaim_of_failed reattach ec hhandle hret,
        h.reported_call rfl, ?_⟩
      intro hok
      simp [hret] at hok
    · have hret := not_lt.mp hret
      have hrelease : Clean (issue m (.releaseInterface (some handle) m.object.number)).log :=
        h.cons fun _ => hret
      refine ⟨_, _, InterfaceObject.run_unclaim_of_released reattach ec hhandle hret, ?_⟩
      cases reattach with
      | false => exact ⟨hrelease.reported, fun _ => ⟨rfl, hrelease⟩⟩
      | true =>
        have hattach : Clean (issue (issue m (.releaseInterface (some handle) m.object.number))
            (.attachKernelDriver (some handle) m.object.number)).log := hrelease.cons nofun
        exact ⟨hattach.reported, fun _ => ⟨rfl, hattach⟩⟩

lemma reported_claim (device : Option DeviceHandle) (number : UInt8) (detachDriver : Bool)
    (ec : ErrorCode) {m : Machine UsbInterface} (h : Clean m.log) : ∃ ec' m',
      (InterfaceObject.claimDetachEc device number detachDriver ec).run m = .ok ((), ec') m' ∧
        Reported m'.log ec' := by
  obtain ⟨ec₁, m₁, hunclaim, hreported, hok⟩ := reported_unclaim true ec h
  cases herr : ec₁.isError with
  | true =>
    exact ⟨_, _, InterfaceObject.run_claim_of_claimed device number detachDriver hunclaim herr,
      hreported⟩
  | false =>
    obtain ⟨rfl, hclean⟩ := hok herr
    have hdetach : Clean (if detachDriver then issue m₁ (.detachKernelDriver device number)
        else m₁).log := by
      cases detachDriver with
      | false => exact hclean
      | true => exact hclean.cons nofun
    refine ⟨_, _, InterfaceObject.run_claim_of_unclaimed device number detachDriver ec hunclaim, ?_⟩
    exact hdetach.reported_call rfl

lemma reported_open (info : Option DevicePtr) (ec : ErrorCode) {m : Machine DeviceObject}
    (h : Clean m.log) : ∃ ec' m',
      (DeviceObject.openEc info ec).run m = .ok ((), ec') m' ∧ Reported m'.log ec' := by
  obtain ⟨m₁, hclose, hclosed, hclean⟩ : ∃ m₁, DeviceObject.close.run m = .ok () m₁ ∧
      m₁.object.handle = none ∧ Clean m₁.log := by
    cases hhandle : m.object.handle with
    | none => exact ⟨m, DeviceObject.run_close_of_closed hhandle, hhandle, h⟩
    | some handle => exact ⟨_, DeviceObject.run_close_of_open hhandle, rfl, h.cons nofun⟩
  exact ⟨_, _, DeviceObject.run_open info ec hclose hclosed, hclean.reported_call rfl⟩

/-! ### All members -/

/-- The members that pass their `error_code&` on report through it, whatever it held. -/
lemma reports_of_not_onStreams {op : Operation σ α} (hop : op.onStreams = false) (ec : ErrorCode)
    (answers : ℕ → Answer) (object : σ) : Reports op ec answers object := by
  rw [Reports]
  cases op with
  | allocStreams | freeStreams => cases hop
  | «open» info =>
    obtain ⟨ec', m', hrun, hreported⟩ := reported_open info ec (m := .start answers object)
      clean_nil
    exact ⟨_, _, hrun, hreported⟩
  | claim device number =>
    obtain ⟨ec', m', hrun, hreported⟩ := reported_claim device number true ec
      (m := .start answers object) clean_nil
    rw [Operation.withEc, InterfaceObject.claimEc_eq]
    exact ⟨_, _, hrun, hreported⟩
  | claimDetach device number detachDriver =>
    obtain ⟨ec', m', hrun, hreported⟩ := reported_claim device number detachDriver ec
      (m := .start answers object) clean_nil
    exact ⟨_, _, hrun, hreported⟩
  | unclaim =>
    obtain ⟨ec', m', hrun, hreported, -⟩ := reported_unclaim true ec (m := .start answers object)
      clean_nil
    rw [Operation.withEc, InterfaceObject.unclaimEc_eq]
    exact ⟨_, _, hrun, hreported⟩
  | unclaimReattach reattach =>
    obtain ⟨ec', m', hrun, hreported, -⟩ := reported_unclaim reattach ec
      (m := .start answers object) clean_nil
    exact ⟨_, _, hrun, hreported⟩
  | setConfiguration | clearHalt | resetDevice | setAltSetting | cancel | maxIsoPacketSize
  | deviceDescriptor | activeConfigDescriptor | configDescriptor | configDescriptorByIdValue =>
    rw [Operation.withEc]
    apply reported_callEc
    rfl

/-- A member with an `error_code&` reports through it, whatever its calls answer and whatever `ec`
held, with one exception: the members for streams do so only when their call succeeds and `ec` was
clear. -/
theorem reports_iff (op : Operation σ α) (ec : ErrorCode) (answers : ℕ → Answer) (object : σ) :
    Reports op ec answers object ↔
      (op.onStreams = true → 0 ≤ (answers 0).retCode ∧ ec = .clear) := by
  cases hop : op.onStreams with
  | false => exact iff_of_true (reports_of_not_onStreams hop ec answers object) nofun
  | true =>
    refine Iff.trans ?_ (forall_prop_of_true rfl).symm
    rw [Reports]
    cases op with
    | allocStreams n endpoints => exact reported_callThrowing_iff ec answers object
    | freeStreams endpoints => exact reported_callThrowing_iff ec answers object
    | _ => cases hop

/-- `alloc_streams(2, endpoints, ec)` on a device that does not support streams. -/
theorem not_reports_allocStreams :
    ¬ ∀ (op : Operation DeviceObject Unit) (ec : ErrorCode) (answers : ℕ → Answer)
        (object : DeviceObject), Reports op ec answers object := by
  intro h
  let handle : DeviceHandle := ⟨4096, by decide, by decide⟩
  let answer : Answer := ⟨UsbErrc.notSupported.value, handle, .zero, ⟨8192⟩⟩
  obtain ⟨x, m, hrun, -⟩ :=
    h (.allocStreams 2 ⟨12288, 1⟩) .clear (fun _ => answer) ⟨some handle, []⟩
  cases hrun

end UsbAsio.Overloads
