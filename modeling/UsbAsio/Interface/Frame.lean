import UsbAsio.Interface.Conservation

/-!
# What an operation leaves alone

An operation on one interface changes the fields of no other object, apart from the source of a
move assignment.
-/

namespace UsbAsio.Interface.World

variable {ι : Type*} [DecidableEq ι] {w : World ι} {d d' src : ι}

lemma iface_setIface (x : UsbInterface) (hne : d' ≠ d) :
    (w.setIface d x).iface d' = w.iface d' := by
  simp [setIface, hne]

lemma iface_claim (p : Claim) (detachDriver : Bool) (releaseRet claimRet : ℤ) (hne : d' ≠ d) :
    (w.claim d p detachDriver releaseRet claimRet).1.iface d' = w.iface d' := by
  have hunclaim := iface_unclaim (w := w) true releaseRet hne
  rw [claim_fst]
  dsimp only
  split_ifs
  · exact hunclaim
  · exact hunclaim
  · exact hunclaim
  · exact (iface_setIface _ hne).trans hunclaim
  · exact (iface_setIface _ hne).trans hunclaim

lemma iface_destroy (retCode : ℤ) (hne : d' ≠ d) :
    (w.destroy d retCode).iface d' = w.iface d' :=
  iface_unclaim true retCode hne

lemma iface_constructClaim (deviceHandle : Option DeviceHandle) (p : Claim)
    (releaseRet claimRet destroyRet : ℤ) (hne : d' ≠ d) :
    (w.constructClaim d deviceHandle p releaseRet claimRet destroyRet).iface d' = w.iface d' := by
  have hconstruct : (w.construct d deviceHandle).iface d' = w.iface d' := iface_setIface _ hne
  have hclaim := iface_claim (w := w.construct d deviceHandle) p true releaseRet claimRet hne
  rw [constructClaim]
  dsimp only
  split_ifs
  · exact (iface_destroy destroyRet hne).trans (hclaim.trans hconstruct)
  · exact hclaim.trans hconstruct

lemma iface_moveAssign (retCode : ℤ) (hne : d' ≠ d) (hne' : d' ≠ src) :
    (w.moveAssign d src retCode).iface d' = w.iface d' := by
  rw [moveAssign, iface_setIface _ hne, clear, iface_setIface _ hne',
    iface_unclaim true retCode hne]

end UsbAsio.Interface.World
