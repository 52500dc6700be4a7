import UsbAsio.Interface.Basic
import UsbAsio.Ownership.Basic
import UsbAsio.Transition.Basic

/-!
# Conservation of claims

What the library has claimed and not released is recorded in exactly one object, and only such
claims are released. Two things break this: an object whose `device_handle_` was never
initialised, and a move assignment over a claim that libusb refuses to take back.
-/

namespace UsbAsio.Interface

open Transition Ownership Ledger

variable {ι : Type*} [DecidableEq ι]

/-! ### The property and the condition -/

/-- A kernel driver is attached right after the successful release of the same claim. -/
def AttachFollows : List Call → Prop
  | []                              => True
  | .attachKernelDriver p :: log    =>
    (∃ retCode rest, log = .release p retCode :: rest ∧ 0 ≤ retCode) ∧ AttachFollows log
  | .claim _ _ :: log               => AttachFollows log
  | .release _ _ :: log             => AttachFollows log
  | .detachKernelDriver _ :: log    => AttachFollows log

/-- Every release names a claim that is held, and every attach the claim just released; what is
held and not given up is recorded in exactly one live object. -/
structure Conserved (w : World ι) : Prop where
  legal : Legal (w.log.filterMap Call.event)
  attach : AttachFollows w.log
  recorded : ∀ p ∈ claims w.log, p ∉ w.givenUp →
    ∃! d, d ∈ w.live ∧ (w.iface d).record = some p

/-- The uninitialised `device_handle_` of a new object happens to be null, and no claim is
overwritten after libusb has refused to take it back. -/
def Careful (w : World ι) : Action ι → Prop
  | .construct _ deviceHandle | .constructClaim _ deviceHandle _ _ _ _ => deviceHandle = none
  | .moveAssign d src retCode => d = src ∨ (w.iface d).deviceHandle = none ∨ 0 ≤ retCode
  | .claim _ _ _ _ _ | .unclaim _ _ _ | .detach _ | .destroy _ _ => True

instance (w : World ι) (a : Action ι) : Decidable (Careful w a) :=
  match a with
  | .construct _ _ | .constructClaim _ _ _ _ _ _ => inferInstanceAs (Decidable (_ = _))
  | .moveAssign _ _ _ => inferInstanceAs (Decidable (_ ∨ _))
  | .claim _ _ _ _ _ | .unclaim _ _ _ | .detach _ | .destroy _ _ =>
    inferInstanceAs (Decidable True)

/-! ### The invariant -/

/-- The claims that some object has to record. -/
def World.owed (w : World ι) : Finset Claim := claims w.log \ w.givenUp

structure Inv (w : World ι) : Prop where
  owns : Owns w.live (UsbInterface.record ∘ w.iface) w.owed
  legal : Legal (w.log.filterMap Call.event)
  attach : AttachFollows w.log

omit [DecidableEq ι] in
lemma inv_init (iface : ι → UsbInterface) : Inv (init iface) :=
  ⟨owns_empty _, trivial, trivial⟩

omit [DecidableEq ι] in
lemma Inv.conserved {w : World ι} (h : Inv w) : Conserved w :=
  ⟨h.legal, h.attach, fun _ hp hnot => h.owns.existsUnique (Finset.mem_sdiff.mpr ⟨hp, hnot⟩)⟩

omit [DecidableEq ι] in
/-- What an object records is held. -/
lemma Inv.mem_claims {w : World ι} (h : Inv w) {d : ι} (hd : d ∈ w.live) {p : Claim}
    (hp : (w.iface d).record = some p) : p ∈ claims w.log :=
  (Finset.mem_sdiff.mp (h.owns.mem d hd p hp)).1

/-! ### Calls -/

section Calls

variable {w : World ι} {d : ι} {p : Claim} {retCode : ℤ}

omit [DecidableEq ι] in
lemma owed_refusedRelease (hret : retCode < 0) : (w.call (.release p retCode)).owed = w.owed := by
  simp [World.owed, World.call, claims, Call.event, hret]

omit [DecidableEq ι] in
lemma owed_release (hret : 0 ≤ retCode) :
    (w.call (.release p retCode)).owed = w.owed.erase p := by
  simp [World.owed, World.call, claims, Call.event, not_lt.mpr hret, Finset.erase_sdiff_comm]

omit [DecidableEq ι] in
lemma owed_refusedClaim (hret : retCode < 0) : (w.call (.claim p retCode)).owed = w.owed := by
  simp [World.owed, World.call, claims, Call.event, hret]

omit [DecidableEq ι] in
lemma owed_claim (hret : 0 ≤ retCode) :
    (w.call (.claim p retCode)).owed = insert p w.owed := by
  ext q
  by_cases hq : q = p <;>
    simp [World.owed, World.call, claims, Call.event, not_lt.mpr hret, hq]

omit [DecidableEq ι] in
/-- A release that libusb refuses changes nothing. -/
lemma Inv.refusedRelease (h : Inv w) (hd : d ∈ w.live) (hp : (w.iface d).record = some p)
    (hret : retCode < 0) : Inv (w.call (.release p retCode)) := by
  have hheld := h.mem_claims hd hp
  refine ⟨?_, ?_, h.attach⟩
  · rw [owed_refusedRelease hret]
    exact h.owns
  · simpa [World.call, Call.event, hret, Legal] using ⟨hheld, h.legal⟩

/-- An object releases what it records. -/
lemma Inv.release (h : Inv w) (hd : d ∈ w.live) (hp : (w.iface d).record = some p)
    (hret : 0 ≤ retCode) : Inv ((w.call (.release p retCode)).clear d) := by
  have hheld := h.mem_claims hd hp
  have howed : ((w.call (.release p retCode)).clear d).owed = w.owed.erase p := owed_release hret
  refine ⟨?_, ?_, h.attach⟩
  · rw [howed]
    simp only [World.clear, World.setIface, World.call, Function.comp_update]
    exact h.owns.drop hd hp
  · simpa [World.clear, World.setIface, World.call, Call.event, not_lt.mpr hret, Legal]
      using ⟨hheld, h.legal⟩

omit [DecidableEq ι] in
lemma Inv.attachKernelDriver (h : Inv w) {rest : List Call}
    (hlog : w.log = .release p retCode :: rest) (hret : 0 ≤ retCode) :
    Inv (w.call (.attachKernelDriver p)) :=
  ⟨h.owns, h.legal, ⟨retCode, rest, hlog, hret⟩, h.attach⟩

omit [DecidableEq ι] in
lemma Inv.detachKernelDriver (h : Inv w) (p : Claim) : Inv (w.call (.detachKernelDriver p)) :=
  ⟨h.owns, h.legal, h.attach⟩

omit [DecidableEq ι] in
lemma Inv.refusedClaim (h : Inv w) (hret : retCode < 0) : Inv (w.call (.claim p retCode)) := by
  refine ⟨?_, ?_, h.attach⟩
  · rw [owed_refusedClaim hret]
    exact h.owns
  · simpa [World.call, Call.event, hret] using h.legal

/-- An object that records nothing records a new claim that nobody else records. -/
lemma Inv.acquire (h : Inv w) (hd : d ∈ w.live) (hnone : (w.iface d).record = none)
    (helse : ¬ w.RecordedElsewhere d p) (hret : 0 ≤ retCode) :
    Inv ((w.call (.claim p retCode)).setIface d ⟨some p.device, p.number⟩) := by
  have hnew : p ∉ w.owed := by
    intro hp
    obtain ⟨d', hd', hrecord⟩ := h.owns.held p hp
    refine helse ⟨d', hd', ?_, hrecord⟩
    rintro rfl
    simp [hnone] at hrecord
  have howed : ((w.call (.claim p retCode)).setIface d ⟨some p.device, p.number⟩).owed =
      insert p w.owed := owed_claim hret
  refine ⟨?_, ?_, h.attach⟩
  · rw [howed]
    simp only [World.setIface, World.call, Function.comp_update]
    exact h.owns.take hd hnone hnew
  · simpa [World.setIface, World.call, Call.event, not_lt.mpr hret, Legal] using h.legal

/-- libusb is free to refuse it. -/
lemma Inv.tryAcquire (h : Inv w) (hd : d ∈ w.live) (hnone : (w.iface d).record = none)
    (helse : ¬ w.RecordedElsewhere d p) (retCode : ℤ) :
    Inv (if retCode < 0 then w.call (.claim p retCode)
      else (w.call (.claim p retCode)).setIface d ⟨some p.device, p.number⟩) := by
  split_ifs with hret
  · exact h.refusedClaim hret
  · exact h.acquire hd hnone helse (not_lt.mp hret)

omit [DecidableEq ι] in
lemma owed_giveUp (w : World ι) (d : ι) :
    (w.giveUp d).owed = w.owed \ (w.iface d).record.toFinset := by
  rw [World.owed, World.owed, sdiff_sdiff_left]
  rfl

/-- What an object records is left behind with its record. -/
lemma Inv.detach (h : Inv w) (hd : d ∈ w.live) : Inv (w.detach d) := by
  have howed : (w.detach d).owed = w.owed \ (w.iface d).record.toFinset := owed_giveUp w d
  refine ⟨?_, h.legal, h.attach⟩
  rw [howed]
  simp only [World.detach, World.clear, World.giveUp, World.setIface, Function.comp_update]
  cases hp : (w.iface d).record with
  | none =>
    rw [Option.toFinset_none, Finset.sdiff_empty]
    refine h.owns.congr fun d' _ => ?_
    by_cases hne : d' = d
    · rw [hne, Function.update_self, Function.comp_apply, hp]
      rfl
    · rw [Function.update_of_ne hne]
  | some p =>
    rw [Option.toFinset_some, Finset.sdiff_singleton_eq_erase]
    exact h.owns.drop hd hp

end Calls

/-! ### Operations -/

section Operations

variable {w : World ι} {d src : ι} {p : Claim} {retCode : ℤ}

lemma Inv.unclaim (h : Inv w) (hd : d ∈ w.live) (reattach : Bool) (retCode : ℤ) :
    Inv (w.unclaim d reattach retCode).1 := by
  refine World.unclaim_rec (fun _ => h) ?_ ?_
  · intro p hp hret
    exact h.refusedRelease hd hp hret
  · intro p hp hret
    have hrelease := h.release hd hp hret
    cases reattach with
    | false => exact hrelease
    | true => exact hrelease.attachKernelDriver rfl hret

lemma isError_unclaim {reattach : Bool} (h : (w.iface d).deviceHandle = none ∨ 0 ≤ retCode) :
    (w.unclaim d reattach retCode).2.isError = false := by
  cases hp : (w.iface d).record with
  | none =>
    rw [World.unclaim_of_unclaimed hp]
    rfl
  | some p =>
    rcases h with hnull | hret
    · simp [UsbInterface.record, hnull] at hp
    · rw [World.unclaim_of_released hp hret]
      simp [hret]

/-- An object that could be unclaimed records nothing. -/
lemma record_unclaim {reattach : Bool} (h : (w.unclaim d reattach retCode).2.isError = false) :
    ((w.unclaim d reattach retCode).1.iface d).record = none := by
  revert h
  refine World.unclaim_rec ?_ ?_ ?_
  · intro hp _
    exact hp
  · intro p _ hret h
    simp [hret] at h
  · intro p _ _ _
    simp [World.clear, World.setIface, UsbInterface.record]

lemma live_unclaim (reattach : Bool) (retCode : ℤ) :
    (w.unclaim d reattach retCode).1.live = w.live := by
  refine World.unclaim_rec (fun _ => rfl) (fun _ _ _ => rfl) ?_
  intro p _ _
  cases reattach <;> rfl

lemma iface_unclaim (reattach : Bool) (retCode : ℤ) {d' : ι} (hne : d' ≠ d) :
    (w.unclaim d reattach retCode).1.iface d' = w.iface d' := by
  refine World.unclaim_rec (fun _ => rfl) (fun _ _ _ => rfl) ?_
  intro p _ _
  cases reattach <;> simp [World.clear, World.setIface, World.call, hne]

lemma Inv.claim (h : Inv w) (hd : d ∈ w.live) (helse : ¬ w.RecordedElsewhere d p)
    (detachDriver : Bool) (releaseRet claimRet : ℤ) :
    Inv (w.claim d p detachDriver releaseRet claimRet).1 := by
  have hunclaim := h.unclaim hd true releaseRet
  have hd' : d ∈ (w.unclaim d true releaseRet).1.live := by rwa [live_unclaim]
  have helse' : ¬ (w.unclaim d true releaseRet).1.RecordedElsewhere d p := by
    rintro ⟨d', hlive, hne, hrecord⟩
    rw [live_unclaim] at hlive
    rw [iface_unclaim true releaseRet hne] at hrecord
    exact helse ⟨d', hlive, hne, hrecord⟩
  rw [World.claim_fst]
  dsimp only
  cases herr : (w.unclaim d true releaseRet).2.isError with
  | true => simpa using hunclaim
  | false =>
    have hnone := record_unclaim herr
    rw [if_neg Bool.false_ne_true]
    cases detachDriver with
    | false => exact hunclaim.tryAcquire hd' hnone helse' claimRet
    | true => exact (hunclaim.detachKernelDriver p).tryAcquire hd' hnone helse' claimRet

lemma live_claim (detachDriver : Bool) (releaseRet claimRet : ℤ) :
    (w.claim d p detachDriver releaseRet claimRet).1.live = w.live := by
  rw [World.claim_fst]
  dsimp only
  split_ifs <;> exact live_unclaim true releaseRet

lemma Inv.construct (h : Inv w) (hd : d ∉ w.live) : Inv (w.construct d none) := by
  refine ⟨?_, h.legal, h.attach⟩
  simp only [World.construct, World.setIface, Function.comp_update]
  exact h.owns.create hd

/-- What the destructor fails to release is left behind. -/
lemma Inv.destroy (h : Inv w) (hd : d ∈ w.live) (retCode : ℤ) : Inv (w.destroy d retCode) := by
  have hunclaim := h.unclaim hd true retCode
  have hd' : d ∈ (w.unclaim d true retCode).1.live := by rwa [live_unclaim]
  have hdetach := hunclaim.detach hd'
  refine ⟨?_, hunclaim.legal, hunclaim.attach⟩
  have hnone : ((w.unclaim d true retCode).1.detach d |>.iface d).record = none := by
    simp [World.detach, World.clear, World.setIface, UsbInterface.record]
  refine (hdetach.owns.destroy hnone).congr fun d' hd' => ?_
  have hne : d' ≠ d := Finset.ne_of_mem_erase hd'
  simp [World.destroy, World.detach, World.clear, World.giveUp, World.setIface, hne]

lemma Inv.constructClaim (h : Inv w) (hd : d ∉ w.live) (helse : ¬ w.RecordedElsewhere d p)
    (releaseRet claimRet destroyRet : ℤ) :
    Inv (w.constructClaim d none p releaseRet claimRet destroyRet) := by
  have hd' : d ∈ (w.construct d none).live := Finset.mem_insert_self d w.live
  have helse' : ¬ (w.construct d none).RecordedElsewhere d p := by
    rintro ⟨d', hlive, hne, hrecord⟩
    refine helse ⟨d', Finset.mem_of_mem_insert_of_ne hlive hne, hne, ?_⟩
    simpa [World.construct, World.setIface, hne] using hrecord
  have hclaim := (h.construct hd).claim hd' helse' true releaseRet claimRet
  have hlive : d ∈ ((w.construct d none).claim d p true releaseRet claimRet).1.live := by
    rwa [live_claim]
  rw [World.constructClaim]
  dsimp only
  split_ifs
  · exact hclaim.destroy hlive destroyRet
  · exact hclaim

/-- A move assignment whose release is not refused hands the claim of the source over. -/
lemma Inv.moveAssign (h : Inv w) (hd : d ∈ w.live) (hsrc : src ∈ w.live)
    (hcareful : d = src ∨ (w.iface d).deviceHandle = none ∨ 0 ≤ retCode) :
    Inv (w.moveAssign d src retCode) := by
  have hunclaim := h.unclaim hd true retCode
  by_cases hne : d = src
  · have hsame : w.moveAssign d src retCode = (w.unclaim d true retCode).1 := by
      simp [World.moveAssign, World.clear, World.setIface, hne]
    rw [hsame]
    exact hunclaim
  · have hnone : ((w.unclaim d true retCode).1.iface d).record = none := by
      apply record_unclaim
      exact isError_unclaim (hcareful.resolve_left hne)
    refine ⟨?_, hunclaim.legal, hunclaim.attach⟩
    simp only [World.moveAssign, World.clear, World.setIface, Function.comp_update]
    refine hunclaim.owns.handOver ?_ ?_ hne hnone
    · rwa [live_unclaim]
    · rwa [live_unclaim]

end Operations

/-! ### Runs -/

lemma inv_step {w w' : World ι} {a : Action ι} (h : Inv w) (hcareful : Careful w a)
    (hstep : step w a = some w') : Inv w' := by
  cases a with
  | construct d deviceHandle =>
    obtain ⟨hd, rfl⟩ := Option.ite_some_none_eq_some.mp hstep
    obtain rfl : deviceHandle = none := hcareful
    exact h.construct hd
  | constructClaim d deviceHandle p releaseRet claimRet destroyRet =>
    obtain ⟨⟨hd, helse⟩, rfl⟩ := Option.ite_some_none_eq_some.mp hstep
    obtain rfl : deviceHandle = none := hcareful
    exact h.constructClaim hd helse releaseRet claimRet destroyRet
  | claim d p detachDriver releaseRet claimRet =>
    obtain ⟨⟨hd, helse⟩, rfl⟩ := Option.ite_some_none_eq_some.mp hstep
    exact h.claim hd helse detachDriver releaseRet claimRet
  | unclaim d reattach retCode =>
    obtain ⟨hd, rfl⟩ := Option.ite_some_none_eq_some.mp hstep
    exact h.unclaim hd reattach retCode
  | detach d =>
    obtain ⟨hd, rfl⟩ := Option.ite_some_none_eq_some.mp hstep
    exact h.detach hd
  | moveAssign d src retCode =>
    obtain ⟨⟨hd, hsrc⟩, rfl⟩ := Option.ite_some_none_eq_some.mp hstep
    exact h.moveAssign hd hsrc hcareful
  | destroy d retCode =>
    obtain ⟨hd, rfl⟩ := Option.ite_some_none_eq_some.mp hstep
    exact h.destroy hd retCode

/-- An object that records what the library has not claimed releases it. -/
lemma not_legal_unclaim {w : World ι} {d : ι} {p : Claim} (hp : (w.iface d).record = some p)
    (hnot : p ∉ claims w.log) (reattach : Bool) (retCode : ℤ) :
    ¬ Legal ((w.unclaim d reattach retCode).1.log.filterMap Call.event) := by
  by_cases hret : retCode < 0
  · rw [World.unclaim_of_failed hp hret]
    simpa [World.call, Call.event, hret] using not_legal_use hnot
  · rw [World.unclaim_of_released hp (not_lt.mp hret)]
    cases reattach <;>
      simpa [World.call, World.clear, World.setIface, List.filterMap_cons, Call.event, hret] using
        not_legal_release hnot

/-- An object that was never claimed with is destroyed, while its `device_handle_` holds the
bits of some handle: whatever libusb answers, a claim that nobody has made is released. -/
lemma not_conserved_construct {w : World ι} {d : ι} (hd : d ∉ w.live) (device : DeviceHandle)
    (hnot : ⟨device, 0⟩ ∉ claims w.log) (retCode : ℤ) :
    ∃ w', exec step w [.construct d (some device), .destroy d retCode] = some w' ∧
      ¬ Conserved w' := by
  have hconstruct : step w (.construct d (some device)) = some (w.construct d (some device)) :=
    if_pos hd
  have hdestroy : step (w.construct d (some device)) (.destroy d retCode) =
      some ((w.construct d (some device)).destroy d retCode) :=
    if_pos (Finset.mem_insert_self d w.live)
  rw [exec_cons_some hconstruct, exec_cons_some hdestroy]
  refine ⟨_, rfl, ?_⟩
  intro hconserved
  have hp : ((w.construct d (some device)).iface d).record = some ⟨device, 0⟩ := by
    simp [World.construct, World.setIface, UsbInterface.record]
  exact not_legal_unclaim hp hnot true retCode hconserved.legal

/-- A move assignment over a claim that libusb refuses to take back: nobody records the claim
any more. -/
lemma Inv.not_conserved_moveAssign {w : World ι} (h : Inv w) {d src : ι} (hd : d ∈ w.live)
    (hsrc : src ∈ w.live) (hne : d ≠ src) {p : Claim} (hp : (w.iface d).record = some p)
    {retCode : ℤ} (hret : retCode < 0) : ¬ Conserved (w.moveAssign d src retCode) := by
  intro hconserved
  have howed := Finset.mem_sdiff.mp (h.owns.mem d hd p hp)
  have hmove : w.moveAssign d src retCode =
      ((w.call (.release p retCode)).clear src).setIface d (w.iface src) := by
    rw [World.moveAssign, World.unclaim_of_failed hp hret]
    rfl
  have hclaims : claims (w.moveAssign d src retCode).log = claims w.log := by
    rw [hmove]
    simp [World.call, World.clear, World.setIface, claims, Call.event, hret]
  have hgiven : (w.moveAssign d src retCode).givenUp = w.givenUp := by
    rw [hmove]
    rfl
  -- the claim is owed still, but the object that recorded it records that of `src` now
  obtain ⟨d', ⟨hlive, hrecord⟩, -⟩ :=
    hconserved.recorded p (hclaims ▸ howed.1) (hgiven ▸ howed.2)
  have hlive' : d' ∈ w.live := by
    rw [hmove] at hlive
    exact hlive
  rw [hmove] at hrecord
  by_cases hd' : d' = d
  · have hold : (w.iface src).record = some p := by
      simpa [World.setIface, hd'] using hrecord
    exact hne (h.owns.unique d hd src hsrc p hp hold)
  · by_cases hs : d' = src
    · simp [World.setIface, World.clear, hs, hne.symm, UsbInterface.record] at hrecord
    · have hold : (w.iface d').record = some p := by
        simpa [World.setIface, World.clear, World.call, hd', hs] using hrecord
      exact hd' (h.owns.unique d' hlive' d hd p hold hp)

/-- On every run that meets the condition, the claims are conserved. Each half of the condition
is needed: after such a run, an object constructed with a `device_handle_` that is not null
releases a claim that nobody made when it is destroyed, and a claim overwritten by a move
assignment is recorded nowhere. -/
theorem conserved_of_careful (iface : ι → UsbInterface) (as : List (Action ι))
    (hcareful : Along step Careful (init iface) as) :
    Always step Conserved (init iface) as ∧
      ∀ w, exec step (init iface) as = some w →
        (∀ d device retCode, d ∉ w.live → ⟨device, 0⟩ ∉ claims w.log →
          ∃ w', exec step w [.construct d (some device), .destroy d retCode] = some w' ∧
            ¬ Conserved w') ∧
        ∀ d src p retCode w', d ≠ src → (w.iface d).record = some p → retCode < 0 →
          step w (.moveAssign d src retCode) = some w' → ¬ Conserved w' := by
  have hstep : ∀ (w : World ι) a w', Inv w → Careful w a → step w a = some w' → Inv w' :=
    fun _ _ _ => inv_step
  refine ⟨always_of_invariant hstep (fun _ h => h.conserved) (inv_init iface) hcareful, ?_⟩
  intro w hw
  have hinv : Inv w := (always_of_invariant hstep (fun _ h => h) (inv_init iface) hcareful).last hw
  refine ⟨fun d device retCode hd hnot => not_conserved_construct hd device hnot retCode, ?_⟩
  intro d src p retCode w' hne hp hret hw'
  obtain ⟨⟨hd, hsrc⟩, rfl⟩ := Option.ite_some_none_eq_some.mp hw'
  exact hinv.not_conserved_moveAssign hd hsrc hne hp hret

/-- Two objects; the second takes over the claim of the first and is destroyed. -/
theorem conserved_handed_over :
    let p : Claim := ⟨⟨4096, by decide, by decide⟩, 1⟩
    let as : List (Action ℕ) :=
      [.constructClaim 0 none p 0 0 0, .construct 1 none, .moveAssign 1 0 0, .destroy 1 0]
    (exec step (init fun _ : ℕ => ⟨none, 0⟩) as).isSome ∧
      Always step Conserved (init fun _ : ℕ => ⟨none, 0⟩) as := by
  intro p as
  exact ⟨by decide, (conserved_of_careful _ _ (by decide)).1⟩

/-- An object is constructed from an executor and destroyed; its `device_handle_` happened to
hold the bits of a handle. -/
theorem not_conserved_uninitialised :
    ¬ ∀ (iface : ℕ → UsbInterface) (as : List (Action ℕ)),
      Always step Conserved (init iface) as := by
  intro h
  let device : DeviceHandle := ⟨4096, by decide, by decide⟩
  have hlog : (exec step (init fun _ : ℕ => ⟨none, 0⟩)
      [.construct 0 (some device), .destroy 0 0]).map (·.log) =
        some [.attachKernelDriver ⟨device, 0⟩, .release ⟨device, 0⟩ 0] := by decide
  obtain ⟨w, hw, hw'⟩ := Option.map_eq_some_iff.mp hlog
  have hlegal := ((h _ _).last hw).legal
  rw [hw'] at hlegal
  exact not_legal_release (Finset.notMem_empty _) hlegal

end UsbAsio.Interface
