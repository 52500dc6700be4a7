import UsbAsio.Interface.Conservation

/-!
# Kernel drivers

Whether a kernel driver is bound to an interface, after the detaches and attaches of a log. A
claim detaches on the strength of its own flag and a later release attaches on the strength of
another one: nothing records whether there was a driver, and a claim that libusb refuses returns
before anything is put back.
-/

namespace UsbAsio.Interface.KernelDriver

open Transition

/-- The interfaces of the devices `δ`: a device may be open through several handles. -/
structure Slot (δ : Type*) where
  device : δ
  number : UInt8
  deriving DecidableEq

variable {δ : Type*} [DecidableEq δ] (deviceOf : DeviceHandle → δ) (bound₀ : Slot δ → Bool)

def slotOf (p : Claim) : Slot δ := ⟨deviceOf p.device, p.number⟩

/-- The interfaces with a kernel driver after the calls of a log, the latest of which stands
first: `libusb_detach_kernel_driver` unbinds it, `libusb_attach_kernel_driver` binds one. -/
def bound : List Call → Slot δ → Bool
  | []                           => bound₀
  | .detachKernelDriver p :: log => Function.update (bound log) (slotOf deviceOf p) false
  | .attachKernelDriver p :: log => Function.update (bound log) (slotOf deviceOf p) true
  | .claim _ _ :: log            => bound log
  | .release _ _ :: log          => bound log

/-! ### Runs of one object -/

/-- One initialised, unclaimed object. -/
def init : World Unit := ⟨{()}, fun _ => ⟨none, 0⟩, [], ∅⟩

inductive Action where
  /-- `claim(device, number, detach_kernel_driver, ec)` -/
  | claim (p : Claim) (detachKernelDriver : Bool) (releaseRet claimRet : ℤ)
  /-- `unclaim(true, ec)` -/
  | unclaim (retCode : ℤ)

def step (w : World Unit) : Action → Option (World Unit)
  | .claim p detachKernelDriver releaseRet claimRet =>
    some (w.claim () p detachKernelDriver releaseRet claimRet).1
  | .unclaim retCode => some (w.unclaim () true retCode).1

/-- An unclaimed object leaves every interface with the driver state it had at the start. -/
def GivenBack (w : World Unit) : Prop :=
  (w.iface ()).record = none → bound deviceOf bound₀ w.log = bound₀

/-- All drivers are given back between two operations, and will be if the object is unclaimed
now. -/
structure Restorable (w : World Unit) : Prop where
  now : GivenBack deviceOf bound₀ w
  next : ∀ retCode w', step w (.unclaim retCode) = some w' → GivenBack deviceOf bound₀ w'

/-- A claim that gets as far as `libusb_claim_interface` is granted only for an interface that had
a driver at the start, and refused only if it had none or was not to be detached. -/
def Careful (w : World Unit) : Action → Prop
  | .claim p detachKernelDriver releaseRet claimRet =>
    (w.iface ()).deviceHandle = none ∨ 0 ≤ releaseRet →
      if claimRet < 0 then detachKernelDriver = true → bound₀ (slotOf deviceOf p) = false
      else bound₀ (slotOf deviceOf p) = true
  | .unclaim _ => True

/-! ### The invariant -/

/-- Only the claimed interface differs from the start, and it had a driver then. -/
structure Inv (w : World Unit) : Prop where
  others : ∀ q, (∀ p, (w.iface ()).record = some p → slotOf deviceOf p ≠ q) →
    bound deviceOf bound₀ w.log q = bound₀ q
  had : ∀ p, (w.iface ()).record = some p → bound₀ (slotOf deviceOf p) = true

variable {deviceOf bound₀} {w w' : World Unit} {p : Claim}

lemma inv_init : Inv deviceOf bound₀ init := ⟨fun _ _ => rfl, nofun⟩

lemma Inv.givenBack (h : Inv deviceOf bound₀ w) : GivenBack deviceOf bound₀ w := by
  intro hrecord
  funext q
  apply h.others
  intro p hp
  rw [hrecord] at hp
  cases hp

/-- The release of a claim binds a driver, whether or not there was one. -/
lemma bound_unclaim {retCode : ℤ} (hp : (w.iface ()).record = some p) (hret : 0 ≤ retCode) :
    bound deviceOf bound₀ (w.unclaim () true retCode).1.log =
      Function.update (bound deviceOf bound₀ w.log) (slotOf deviceOf p) true := by
  rw [World.unclaim_of_released hp hret]
  rfl

lemma Inv.unclaim (h : Inv deviceOf bound₀ w) (retCode : ℤ) :
    Inv deviceOf bound₀ (w.unclaim () true retCode).1 := by
  refine World.unclaim_rec (fun _ => h) (fun _ _ _ => ⟨h.others, h.had⟩) ?_
  intro p hp hret
  rw [← World.unclaim_of_released hp hret]
  constructor
  · intro q _
    rw [bound_unclaim hp hret]
    by_cases hq : slotOf deviceOf p = q
    · rw [← hq, Function.update_self, h.had p hp]
    · rw [Function.update_of_ne (Ne.symm hq)]
      apply h.others
      intro p' hp'
      rw [hp] at hp'
      cases hp'
      exact hq
  · intro p' hp'
    rw [record_unclaim (isError_unclaim (Or.inr hret))] at hp'
    cases hp'

/-! ### Claims -/

/-- A claim gets as far as `libusb_claim_interface` exactly when nothing is left to release. -/
lemma isError_unclaim_iff (releaseRet : ℤ) : (w.unclaim () true releaseRet).2.isError = false ↔
    (w.iface ()).deviceHandle = none ∨ 0 ≤ releaseRet := by
  refine ⟨?_, isError_unclaim⟩
  intro hok
  cases hdevice : (w.iface ()).deviceHandle with
  | none => exact Or.inl rfl
  | some device =>
    by_contra hnot
    have hret : releaseRet < 0 := not_le.mp fun hret => hnot (Or.inr hret)
    rw [World.unclaim_of_failed (by rw [UsbInterface.record, hdevice]; rfl) hret] at hok
    simp [hret] at hok

lemma claim_of_failed (detachDriver : Bool) {releaseRet : ℤ} (claimRet : ℤ)
    (herr : (w.unclaim () true releaseRet).2.isError = true) :
    (w.claim () p detachDriver releaseRet claimRet).1 = (w.unclaim () true releaseRet).1 := by
  rw [World.claim_fst]
  exact if_pos herr

variable (deviceOf bound₀ p) in
/-- Granted or refused, a claim has detached what it was told to detach. -/
lemma bound_claim (detachDriver : Bool) {releaseRet : ℤ} (claimRet : ℤ)
    (hok : (w.unclaim () true releaseRet).2.isError = false) :
    bound deviceOf bound₀ (w.claim () p detachDriver releaseRet claimRet).1.log =
      let before := bound deviceOf bound₀ (w.unclaim () true releaseRet).1.log
      if detachDriver then Function.update before (slotOf deviceOf p) false else before := by
  rw [World.claim_fst]
  dsimp only
  rw [hok, if_neg Bool.false_ne_true]
  cases detachDriver <;> split_ifs <;> rfl

/-- What was claimed before has its driver again by then. -/
lemma Inv.bound_claim (h : Inv deviceOf bound₀ w) (p : Claim) (detachDriver : Bool)
    {releaseRet : ℤ} (claimRet : ℤ) (hok : (w.unclaim () true releaseRet).2.isError = false) :
    bound deviceOf bound₀ (w.claim () p detachDriver releaseRet claimRet).1.log =
      if detachDriver then Function.update bound₀ (slotOf deviceOf p) false else bound₀ := by
  have hbefore := (h.unclaim releaseRet).givenBack (record_unclaim hok)
  rw [KernelDriver.bound_claim deviceOf bound₀ p detachDriver claimRet hok, hbefore]

lemma record_claim (detachDriver : Bool) {releaseRet : ℤ} (claimRet : ℤ)
    (hok : (w.unclaim () true releaseRet).2.isError = false) :
    ((w.claim () p detachDriver releaseRet claimRet).1.iface ()).record =
      if claimRet < 0 then none else some p := by
  have hnone := record_unclaim hok
  rw [World.claim_fst]
  dsimp only
  rw [hok, if_neg Bool.false_ne_true]
  by_cases hret : claimRet < 0
  · rw [if_pos hret, if_pos hret]
    cases detachDriver <;> exact hnone
  · rw [if_neg hret, if_neg hret]
    cases detachDriver <;> rfl

lemma Inv.claim (h : Inv deviceOf bound₀ w) (detachDriver : Bool) (releaseRet claimRet : ℤ)
    (hcareful : Careful deviceOf bound₀ w (.claim p detachDriver releaseRet claimRet)) :
    Inv deviceOf bound₀ (w.claim () p detachDriver releaseRet claimRet).1 := by
  cases hok : (w.unclaim () true releaseRet).2.isError with
  | true =>
    rw [claim_of_failed detachDriver claimRet hok]
    exact h.unclaim releaseRet
  | false =>
    have hdriver := hcareful ((isError_unclaim_iff releaseRet).mp hok)
    have hbound := h.bound_claim p detachDriver claimRet hok
    have hrecord := record_claim (p := p) detachDriver claimRet hok
    split_ifs at hdriver hrecord
    · -- refused: what has been detached had no driver
      constructor
      · intro q _
        rw [hbound]
        split_ifs with hdetach
        · rw [← hdriver hdetach, Function.update_eq_self]
        · rfl
      · intro p' hp'
        rw [hrecord] at hp'
        cases hp'
    · constructor
      · intro q hq
        rw [hbound]
        split_ifs
        · exact Function.update_of_ne (Ne.symm (hq p hrecord)) _ _
        · rfl
      · intro p' hp'
        rw [hrecord] at hp'
        cases hp'
        exact hdriver

lemma inv_step {a : Action} (h : Inv deviceOf bound₀ w) (hcareful : Careful deviceOf bound₀ w a)
    (hstep : step w a = some w') : Inv deviceOf bound₀ w' := by
  cases a with
  | claim p detachDriver releaseRet claimRet =>
    cases hstep
    exact h.claim detachDriver releaseRet claimRet hcareful
  | unclaim retCode =>
    cases hstep
    exact h.unclaim retCode

lemma Inv.restorable (h : Inv deviceOf bound₀ w) : Restorable deviceOf bound₀ w :=
  ⟨h.givenBack, fun _ _ hstep => (inv_step (a := .unclaim _) h trivial hstep).givenBack⟩

/-! ### What a careless claim breaks -/

lemma not_restorable_step {a : Action} (h : Inv deviceOf bound₀ w)
    (hcareless : ¬ Careful deviceOf bound₀ w a) (hstep : step w a = some w') :
    ¬ Restorable deviceOf bound₀ w' := by
  cases a with
  | unclaim retCode => exact absurd trivial hcareless
  | claim p detachDriver releaseRet claimRet =>
    cases hstep
    intro hrestorable
    obtain ⟨hfree, hdriver⟩ := Classical.not_imp.mp hcareless
    have hok := (isError_unclaim_iff releaseRet).mpr hfree
    have hbound := h.bound_claim p detachDriver claimRet hok
    have hrecord := record_claim (p := p) detachDriver claimRet hok
    split_ifs at hdriver hrecord
    · -- refused, and the driver that was detached stays unbound
      obtain ⟨hdetach, hhad⟩ := Classical.not_imp.mp hdriver
      have hnow := hrestorable.now hrecord
      rw [hbound, if_pos hdetach] at hnow
      have hslot := congrFun hnow (slotOf deviceOf p)
      rw [Function.update_self] at hslot
      exact hhad hslot.symm
    · -- granted, and the release will bind a driver where there was none
      let w' := (w.claim () p detachDriver releaseRet claimRet).1
      have hreleased : (w'.unclaim () true 0).2.isError = false :=
        isError_unclaim (Or.inr (le_refl 0))
      have hnext := hrestorable.next 0 _ rfl (record_unclaim hreleased)
      rw [bound_unclaim hrecord (le_refl 0)] at hnext
      have hslot := congrFun hnext (slotOf deviceOf p)
      rw [Function.update_self] at hslot
      exact hdriver hslot.symm

/-! ### Every run -/

/-- The kernel drivers are given back on exactly those runs in which every claim that is granted
is of an interface that had a driver at the start, and every claim that is refused has detached
none. -/
theorem restorable_iff_careful (deviceOf : DeviceHandle → δ) (bound₀ : Slot δ → Bool)
    (as : List Action) :
    Always step (Restorable deviceOf bound₀) init as ↔
      Along step (Careful deviceOf bound₀) init as :=
  always_iff_along (fun _ _ _ => inv_step) (fun _ _ _ => not_restorable_step)
    (fun _ => Inv.restorable) inv_init

/-- Interface 0 of a device has a driver, and libusb refuses to claim it. -/
theorem not_givenBack_refused :
    ¬ ∀ (bound₀ : Slot DeviceHandle → Bool) (as : List Action),
      Always step (GivenBack id bound₀) init as := by
  intro h
  let p : Claim := ⟨⟨4096, by decide, by decide⟩, 0⟩
  have hrun := h (fun _ => true) [.claim p true 0 (-6)]
  have hslot := congrFun (hrun.last rfl rfl) (slotOf id p)
  exact absurd hslot (by decide)

end UsbAsio.Interface.KernelDriver
