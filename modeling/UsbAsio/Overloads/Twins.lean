import UsbAsio.Overloads.Report

/-!
# Overloads that throw

An operation without an `error_code&` against its twin with one: the same calls, the same object,
and an exception where the twin sets `ec`. All of them forward to their twin through `try_with_ec`,
which gives just this; what goes wrong is a `noexcept` around it, and a forgotten argument.
-/

namespace UsbAsio.Overloads

open Effects Interface

variable {σ α : Type}

/-! ### The property and the condition -/

/-- `op(args...)` makes the calls of `op(args..., ec)`, leaves the object as it does, and returns
its result, or throws its `ec` if that is set. -/
def Agrees (op : Operation σ α) (answers : ℕ → Answer) (object : σ) : Prop :=
  op.throwing.run (.start answers object) = raised ((op.withEc .clear).run (.start answers object))

/-- `open` does not have to throw: the call of `libusb_open`, before which an open device is closed,
succeeds. `claim` is not told to leave the kernel driver alone, or does not come that far because
the old claim cannot be released. -/
def Operation.Kept (op : Operation σ α) (answers : ℕ → Answer) (object : σ) : Prop :=
  match op, object with
  | .open _, x                       => 0 ≤ (answers (if x.handle.isSome then 1 else 0)).retCode
  | .claimDetach _ _ detachDriver, x =>
    detachDriver = true ∨ (x.deviceHandle ≠ none ∧ (answers 0).retCode < 0)
  | _, _                             => True

/-! ### `open` -/

/-- A `noexcept` around `try_with_ec` is right only if nothing is thrown. -/
lemma noexcept_agrees_iff {fn : ErrorCode → Program σ (α × ErrorCode)} {m m' : Machine σ}
    {x : α × ErrorCode} (h : (fn .clear).run m = .ok x m') :
    (noexcept (tryWithEc fn)).run m = raised ((fn .clear).run m) ↔ x.2.isError = false := by
  have htry := run_tryWithEc fn m
  rw [h] at htry ⊢
  cases hec : x.2.isError with
  | false =>
    rw [raised_of_clear hec] at htry ⊢
    exact iff_of_true (run_noexcept_of_ok htry) rfl
  | true =>
    rw [raised_of_error hec] at htry ⊢
    rw [run_noexcept_of_error htry]
    exact iff_of_false nofun nofun

lemma open_agrees_iff (info : Option DevicePtr) (answers : ℕ → Answer) (object : DeviceObject) :
    Agrees (.open info) answers object ↔ (Operation.open info).Kept answers object := by
  rw [Agrees, Operation.Kept]
  cases hhandle : object.handle with
  | none =>
    have hclose := DeviceObject.run_close_of_closed (m := .start answers object) hhandle
    have hrun := DeviceObject.run_open info .clear hclose hhandle
    exact (noexcept_agrees_iff hrun).trans (by simp [nextRet, Machine.start])
  | some handle =>
    have hclose := DeviceObject.run_close_of_open (m := .start answers object) hhandle
    have hrun := DeviceObject.run_open info .clear hclose rfl
    exact (noexcept_agrees_iff hrun).trans (by simp [nextRet, issue, Machine.start])

/-! ### `claim` -/

lemma claimDetach_agrees_iff (device : Option DeviceHandle) (number : UInt8)
    (detachDriver : Bool) (answers : ℕ → Answer) (object : UsbInterface) :
    Agrees (.claimDetach device number detachDriver) answers object ↔
      (Operation.claimDetach device number detachDriver).Kept answers object := by
  have hthrowing :
      (Operation.claimDetach device number detachDriver).throwing.run (.start answers object) =
        raised ((InterfaceObject.claimDetachEc device number true .clear).run
          (.start answers object)) := by
    rw [← InterfaceObject.claimEc_eq]
    exact run_tryWithEc _ _
  rw [Agrees, hthrowing, Operation.Kept, Operation.withEc]
  cases detachDriver with
  | true => exact iff_of_true rfl (Or.inl rfl)
  | false =>
    -- one call less, unless the old claim stays
    have hnot {m₁ : Machine UsbInterface}
        (h : (InterfaceObject.unclaimReattachEc true .clear).run (.start answers object) =
          .ok ((), .clear) m₁) :
        raised ((InterfaceObject.claimDetachEc device number true .clear).run
            (.start answers object)) ≠
          raised ((InterfaceObject.claimDetachEc device number false .clear).run
            (.start answers object)) := by
      intro heq
      have hlength := congrArg (fun r => (final r).log.length) heq
      rw [final_raised, final_raised,
        InterfaceObject.run_claim_of_unclaimed device number true .clear h,
        InterfaceObject.run_claim_of_unclaimed device number false .clear h] at hlength
      simp [final, issue] at hlength
    cases hhandle : object.deviceHandle with
    | none =>
      have hunclaim := InterfaceObject.run_unclaim_of_unclaimed true .clear
        (m := .start answers object) hhandle
      exact iff_of_false (hnot hunclaim) (by simp)
    | some handle =>
      by_cases hret : (answers 0).retCode < 0
      · have hunclaim := InterfaceObject.run_unclaim_of_failed true .clear
          (m := .start answers object) hhandle hret
        have herr : (libusbTry (nextRet (.start answers object : Machine UsbInterface))).1.isError
            = true := by
          rw [libusbTry_isError]
          exact decide_eq_true hret
        rw [InterfaceObject.run_claim_of_claimed device number true hunclaim herr,
          InterfaceObject.run_claim_of_claimed device number false hunclaim herr]
        exact iff_of_true rfl (Or.inr ⟨Option.some_ne_none handle, hret⟩)
      · have hunclaim := InterfaceObject.run_unclaim_of_released true .clear
          (m := .start answers object) hhandle (not_lt.mp hret)
        exact iff_of_false (hnot hunclaim) (by simp [hret])

/-! ### All operations -/

lemma agrees_iff (op : Operation σ α) (answers : ℕ → Answer) (object : σ) :
    Agrees op answers object ↔ op.Kept answers object := by
  cases op with
  | «open» info => exact open_agrees_iff info answers object
  | claimDetach device number detachDriver =>
    exact claimDetach_agrees_iff device number detachDriver answers object
  | unclaim =>
    refine iff_of_true ?_ trivial
    rw [Agrees, Operation.withEc, InterfaceObject.unclaimEc_eq]
    exact run_tryWithEc _ _
  | _ => exact iff_of_true (run_tryWithEc _ _) trivial

/-- The twin itself comes back, unless it is one for streams and its call fails. -/
lemma returns_withEc_iff (op : Operation σ α) (answers : ℕ → Answer) (object : σ) :
    Returns (op.withEc .clear) (.start answers object) ↔
      (op.onStreams = true → 0 ≤ (answers 0).retCode) := by
  cases hop : op.onStreams with
  | false =>
    obtain ⟨x, m, hrun, -⟩ := reports_of_not_onStreams hop .clear answers object
    exact iff_of_true ⟨x, m, hrun⟩ nofun
  | true =>
    refine Iff.trans ?_ (forall_prop_of_true rfl).symm
    cases op with
    | allocStreams n endpoints => exact returns_callThrowing_iff .clear answers object
    | freeStreams endpoints => exact returns_callThrowing_iff .clear answers object
    | _ => cases hop

/-- An operation agrees with its twin unless it is `open` and would have to throw, or `claim` and
forgets its argument; and the twin comes back unless it is one for streams whose call fails. -/
theorem twins_iff (op : Operation σ α) (answers : ℕ → Answer) (object : σ) :
    (Agrees op answers object ↔ op.Kept answers object) ∧
      (Returns (op.withEc .clear) (.start answers object) ↔
        (op.onStreams = true → 0 ≤ (answers 0).retCode)) :=
  ⟨agrees_iff op answers object, returns_withEc_iff op answers object⟩

/-- `open(info)` for a device that the user may not open. -/
theorem not_agrees_open :
    ¬ ∀ (op : Operation DeviceObject Unit) (answers : ℕ → Answer) (object : DeviceObject),
      Agrees op answers object := by
  intro h
  let handle : DeviceHandle := ⟨4096, by decide, by decide⟩
  let answer : Answer := ⟨UsbErrc.access.value, handle, .zero, ⟨8192⟩⟩
  have hrun := h (.open (some ⟨12288⟩)) (fun _ => answer) ⟨none, []⟩
  cases hrun

end UsbAsio.Overloads
