import UsbAsio.BlockingOp.Basic
import UsbAsio.Interface.Conservation

/-!
# The lifetime of handles

Device handles are copied into queued functions and into interfaces, and nothing keeps the device
from being closed under them. The calls of the library are on open handles as long as a handle is
closed when nothing has a copy of it any more, and an interface outlives the functions that have
captured it.
-/

namespace UsbAsio.BlockingOp

open Transition Ledger Interface

variable {ι δ σ : Type*}

/-! ### The property and the condition -/

/-- Every call has been on an open handle, and so are the copies of handles that calls will be
on. -/
structure Valid (w : World ι δ σ) : Prop where
  legal : Legal w.log
  captured : ∀ task ∈ w.tasks, ∀ handle, task.captured = some handle →
    handle ∈ w.devices.openHandles.map .some
  recorded : ∀ d ∈ w.ifaces.live, ∀ h, (w.ifaces.iface d).deviceHandle = some h →
    h ∈ w.devices.openHandles

/-- There is no copy of a handle outside of the devices. -/
def World.Uncopied (w : World ι δ σ) (h : DeviceHandle) : Prop :=
  (∀ task ∈ w.tasks, task.captured ≠ some (some h)) ∧
    ∀ d ∈ w.ifaces.live, (w.ifaces.iface d).deviceHandle ≠ some h

/-- A task does not read a null handle. -/
def Task.FindsClaimed (iface : ι → UsbInterface) : Task ι → Prop
  | .readHandle _ d _ => (iface d).deviceHandle ≠ none
  | .device .. | .unclaim .. | .readNumber .. | .issue .. | .detach .. | .clearNumber .. => True

/-- The object whose handle a task is going to read next. -/
def Task.reads : Task ι → Option ι
  | .unclaim d _ _ | .readHandle _ d _ => some d
  | .device .. | .readNumber .. | .issue .. | .detach .. | .clearNumber .. => none

/-- Only handles without copies are closed, only interfaces that no task is meant for are
destroyed, the uninitialised `device_handle_` of a new interface happens to be null, and the
blocking thread finds an interface claimed whenever it reads the handle for a call. -/
def Careful [DecidableEq δ] (w : World ι δ σ) : Action ι δ σ → Prop
  | .device a => ∀ h ∈ Device.closes w.devices a, w.Uncopied h
  | .construct _ deviceHandle | .constructClaim _ deviceHandle _ _ _ _ _ => deviceHandle = none
  | .destroy d _ => ∀ task ∈ w.tasks, ∀ x ∈ task.target, x.1 ≠ d
  | .run _ => ∀ task ∈ w.tasks.head?, task.FindsClaimed w.ifaces.iface
  | .claim _ _ _ _ _ _ | .unclaim _ _ _ | .detach _ | .moveAssign _ _ _ | .reuse _ _
  | .asyncDevice _ _ | .asyncUnclaim _ _ | .asyncSetAltSetting _ _ => True

instance (iface : ι → UsbInterface) : DecidablePred (Task.FindsClaimed iface)
  | .readHandle _ _ _ => inferInstanceAs (Decidable (_ ≠ _))
  | .device .. | .unclaim .. | .readNumber .. | .issue .. | .detach .. | .clearNumber .. =>
    inferInstanceAs (Decidable True)

instance (w : World ι δ σ) (h : DeviceHandle) : Decidable (w.Uncopied h) :=
  inferInstanceAs (Decidable (_ ∧ _))

instance [DecidableEq ι] [DecidableEq δ] (w : World ι δ σ) (a : Action ι δ σ) :
    Decidable (Careful w a) :=
  match a with
  | .device a => inferInstanceAs (Decidable (∀ h ∈ Device.closes w.devices a, _))
  | .construct _ _ | .constructClaim _ _ _ _ _ _ _ => inferInstanceAs (Decidable (_ = _))
  | .destroy _ _ => inferInstanceAs (Decidable (∀ task ∈ w.tasks, ∀ x ∈ task.target, _))
  | .run _ => inferInstanceAs (Decidable (∀ task ∈ w.tasks.head?, _))
  | .claim _ _ _ _ _ _ | .unclaim _ _ _ | .detach _ | .moveAssign _ _ _ | .reuse _ _
  | .asyncDevice _ _ | .asyncUnclaim _ _ | .asyncSetAltSetting _ _ =>
    inferInstanceAs (Decidable True)

/-! ### Interfaces over a set of handles -/

/-- The live interfaces record, and the calls name, handles in `S` only. -/
structure Within (S : Finset DeviceHandle) (w : Interface.World ι) : Prop where
  recorded : ∀ d ∈ w.live, ∀ h, (w.iface d).deviceHandle = some h → h ∈ S
  called : ∀ c ∈ w.log, (calledOn c).device ∈ S

section Interfaces

variable [DecidableEq ι] {S : Finset DeviceHandle} {w : Interface.World ι} {d src : ι} {p : Claim}

lemma Within.setIface (h : Within S w) {x : UsbInterface}
    (hx : ∀ g, x.deviceHandle = some g → g ∈ S) : Within S (w.setIface d x) := by
  refine ⟨fun d' hd' g hg => ?_, h.called⟩
  by_cases hne : d' = d
  · subst hne
    exact hx g (by simpa [World.setIface] using hg)
  · exact h.recorded d' hd' g (by simpa [World.setIface, hne] using hg)

omit [DecidableEq ι] in
lemma Within.call (h : Within S w) (hp : p.device ∈ S) {c : Interface.Call}
    (hc : calledOn c = p) : Within S (w.call c) := by
  refine ⟨h.recorded, fun c' hc' => ?_⟩
  rcases List.mem_cons.mp hc' with rfl | hc'
  · rwa [hc]
  · exact h.called c' hc'

lemma Within.clear (h : Within S w) : Within S (w.clear d) := h.setIface nofun

omit [DecidableEq ι] in
lemma Within.device_mem (h : Within S w) (hd : d ∈ w.live) (hp : (w.iface d).record = some p) :
    p.device ∈ S := by
  obtain ⟨g, hg, rfl⟩ := Option.map_eq_some_iff.mp hp
  exact h.recorded d hd g hg

lemma Within.unclaim (h : Within S w) (hd : d ∈ w.live) (reattach : Bool) (retCode : ℤ) :
    Within S (w.unclaim d reattach retCode).1 := by
  refine World.unclaim_rec (fun _ => h) ?_ ?_
  · intro p hp _
    exact h.call (h.device_mem hd hp) rfl
  · intro p hp _
    have hmem := h.device_mem hd hp
    cases reattach with
    | false => exact (h.call hmem rfl).clear
    | true => exact ((h.call hmem rfl).call hmem rfl).clear

lemma Within.claim (h : Within S w) (hd : d ∈ w.live) (hp : p.device ∈ S) (detachDriver : Bool)
    (releaseRet claimRet : ℤ) : Within S (w.claim d p detachDriver releaseRet claimRet).1 := by
  have hunclaim := h.unclaim hd true releaseRet
  have hrecord : ∀ g, some p.device = some g → g ∈ S := by
    rintro g ⟨⟩
    exact hp
  rw [World.claim_fst]
  dsimp only
  split_ifs
  · exact hunclaim
  · exact (hunclaim.call hp rfl).call hp rfl
  · exact hunclaim.call hp rfl
  · exact ((hunclaim.call hp rfl).call hp rfl).setIface hrecord
  · exact (hunclaim.call hp rfl).setIface hrecord

lemma Within.construct (h : Within S w) : Within S (w.construct d none) := by
  refine ⟨fun d' hd' g hg => ?_, h.called⟩
  by_cases hne : d' = d
  · simp [World.construct, World.setIface, hne] at hg
  · exact h.recorded d' (Finset.mem_of_mem_insert_of_ne hd' hne) g
      (by simpa [World.construct, World.setIface, hne] using hg)

lemma Within.destroy (h : Within S w) (hd : d ∈ w.live) (retCode : ℤ) :
    Within S (w.destroy d retCode) := by
  have hunclaim := h.unclaim hd true retCode
  refine ⟨fun d' hd' => ?_, hunclaim.called⟩
  have hlive : d' ∈ (w.unclaim d true retCode).1.live := Finset.mem_of_mem_erase hd'
  exact hunclaim.recorded d' hlive

lemma Within.constructClaim (h : Within S w) (hp : p.device ∈ S)
    (releaseRet claimRet destroyRet : ℤ) :
    Within S (w.constructClaim d none p releaseRet claimRet destroyRet) := by
  have hd : d ∈ (w.construct d none).live := Finset.mem_insert_self d w.live
  have hclaim := (h.construct (d := d)).claim hd hp true releaseRet claimRet
  have hlive : d ∈ ((w.construct d none).claim d p true releaseRet claimRet).1.live := by
    rwa [live_claim]
  rw [World.constructClaim]
  dsimp only
  split_ifs
  · exact hclaim.destroy hlive destroyRet
  · exact hclaim

/-- The memory of dead objects does not matter. -/
lemma Within.reuse (h : Within S w) (hd : d ∉ w.live) (x : UsbInterface) :
    Within S (w.setIface d x) := by
  refine ⟨fun d' hd' g hg => ?_, h.called⟩
  have hne : d' ≠ d := ne_of_mem_of_not_mem hd' hd
  exact h.recorded d' hd' g (by simpa [World.setIface, hne] using hg)

lemma Within.moveAssign (h : Within S w) (hd : d ∈ w.live) (hsrc : src ∈ w.live) (retCode : ℤ) :
    Within S (w.moveAssign d src retCode) := by
  have hunclaim := h.unclaim hd true retCode
  refine hunclaim.clear.setIface fun g hg => ?_
  exact hunclaim.recorded src (by rwa [live_unclaim]) g hg

end Interfaces

/-! ### The invariant -/

structure Inv (w : World ι δ σ) : Prop extends Valid w where
  owned : Device.Owned w.devices
  held : held w.log = w.devices.openHandles.map .some
  alive : ∀ task ∈ w.tasks, ∀ d p, task.target = some (d, p) → d ∈ w.ifaces.live

lemma inv_init (dev : δ → Device.UsbDevice σ) (iface : ι → UsbInterface) :
    Inv (init dev iface) where
  legal := trivial
  captured := nofun
  recorded := nofun
  owned := Device.owned_init dev
  held := rfl
  alive := nofun

variable {w w' : World ι δ σ}

lemma Inv.mem_held (h : Inv w) {handle : DeviceHandle} :
    some handle ∈ Ledger.held w.log ↔ handle ∈ w.devices.openHandles := by
  simp [h.held]

lemma Inv.within (h : Inv w) : Within w.devices.openHandles { w.ifaces with log := [] } :=
  ⟨h.recorded, nofun⟩

/-- What a step closes and opens is held no more and held. -/
lemma held_events {log : List (Event (Option DeviceHandle))} {S : Finset DeviceHandle}
    (h : Ledger.held log = S.map .some) (opened closed : Option DeviceHandle) :
    Ledger.held ((opened.map fun g => .acquire (some g)).toList ++
      ((closed.map fun g => .release (some g)).toList ++ log)) =
        (S \ closed.toFinset ∪ opened.toFinset).map .some := by
  ext p
  cases opened <;> cases closed <;> cases p <;> simp [h, and_comm, eq_comm]

@[simp] lemma held_operate (op : Interface.World ι → Interface.World ι) :
    Ledger.held (w.operate op).log = Ledger.held w.log :=
  held_uses _ _

@[simp] lemma held_run [DecidableEq ι] (task : Task ι) (tasks : List (Task ι)) (retCode : ℤ) :
    Ledger.held (w.run task tasks retCode).log = Ledger.held w.log :=
  held_uses _ _

section Steps

/-- A function that captures an open handle, or a live interface, is posted. -/
lemma Inv.post (h : Inv w) {task : Task ι}
    (hcaptured : ∀ handle, task.captured = some handle →
      handle ∈ w.devices.openHandles.map .some)
    (halive : ∀ d p, task.target = some (d, p) → d ∈ w.ifaces.live) : Inv (w.post task) where
  legal := h.legal
  recorded := h.recorded
  owned := h.owned
  held := h.held
  captured := by
    intro t ht
    rcases List.mem_append.mp ht with ht | ht
    · exact h.captured t ht
    · rw [List.mem_singleton.mp ht]
      exact hcaptured
  alive := by
    intro t ht
    rcases List.mem_append.mp ht with ht | ht
    · exact h.alive t ht
    · rw [List.mem_singleton.mp ht]
      exact halive

variable [DecidableEq δ] [DecidableEq σ]

/-- Handles without copies are closed, and new handles are opened. -/
lemma Inv.setDevices (h : Inv w) {a : Device.Action δ σ} {devices : Device.World δ σ}
    (hstep : Device.step w.devices a = some devices)
    (huncopied : ∀ g, Device.closes w.devices a = some g → w.Uncopied g) :
    Inv (w.setDevices a devices) := by
  have hopen := Device.openHandles_step hstep
  -- a handle that is copied somewhere is not the one that is closed
  have hkept : ∀ g ∈ w.devices.openHandles, Device.closes w.devices a ≠ some g →
      g ∈ devices.openHandles := by
    intro g hg hne
    rw [hopen]
    simp [hg, hne]
  constructor
  · constructor
    · cases hclose : Device.closes w.devices a with
      | none =>
        cases hnew : Device.opens a <;> simpa [World.setDevices, hclose, hnew, Legal] using h.legal
      | some g =>
        have hmem := h.mem_held.mpr (h.owned.mem_of_closes hstep hclose)
        cases hnew : Device.opens a <;>
          simpa [World.setDevices, hclose, hnew, Legal] using ⟨hmem, h.legal⟩
    · intro task htask handle hhandle
      obtain ⟨g, hg, rfl⟩ := Finset.mem_map.mp (h.captured task htask handle hhandle)
      have hmem := hkept g hg fun hclose => (huncopied g hclose).1 task htask hhandle
      exact Finset.mem_map_of_mem _ hmem
    · intro d hd g hg
      exact hkept g (h.recorded d hd g hg) fun hclose => (huncopied g hclose).2 d hd hg
  · exact Device.owned_step h.owned hstep
  · change _ = devices.openHandles.map .some
    rw [hopen]
    exact held_events h.held _ _
  · exact h.alive

end Steps

variable [DecidableEq ι]

omit [DecidableEq ι] in
/-- The blocking thread calls with handles that it has a copy of. -/
lemma Inv.mem_held_of_call (h : Inv w) {task : Task ι} (htask : task ∈ w.tasks) {c : Call}
    (hc : task.call = some c) : c.handle ∈ Ledger.held w.log := by
  rw [h.held]
  cases task with
  | device fn handle =>
    cases hc
    exact h.captured _ htask _ rfl
  | issue fn d p handle number =>
    cases hc
    rw [InterfaceFn.handle_call]
    exact h.captured _ htask handle rfl
  | unclaim | readHandle | readNumber | detach | clearNumber => cases hc

omit [DecidableEq ι] in
/-- What a task copies is open: it is the handle of an object that lives and is claimed. -/
lemma Inv.captured_rest (h : Inv w) {task task' : Task ι} (htask : task ∈ w.tasks)
    (hfinds : task.FindsClaimed w.ifaces.iface) {retCode : ℤ}
    (hrest : task.rest w.ifaces.iface retCode = some task') {handle : Option DeviceHandle}
    (hcaptured : task'.captured = some handle) : handle ∈ w.devices.openHandles.map .some := by
  rcases Task.captured_rest hrest hcaptured with hsame | ⟨fn, d, p, rfl, rfl⟩
  · exact h.captured task htask handle hsame
  · obtain ⟨g, hg⟩ := Option.ne_none_iff_exists'.mp hfinds
    rw [hg]
    exact Finset.mem_map_of_mem _ (h.recorded d (h.alive _ htask d p rfl) g hg)

lemma Inv.run (h : Inv w) {task : Task ι} {tasks : List (Task ι)} (htasks : w.tasks = task :: tasks)
    (hfinds : task.FindsClaimed w.ifaces.iface) (retCode : ℤ) :
    Inv (w.run task tasks retCode) := by
  have htask : task ∈ w.tasks := htasks ▸ List.mem_cons_self
  have hmem : ∀ t ∈ tasks, t ∈ w.tasks := fun t ht => htasks ▸ List.mem_cons_of_mem task ht
  have hcalls : ∀ handle ∈ (task.call.map Call.handle).toList, handle ∈ Ledger.held w.log := by
    intro handle hhandle
    obtain ⟨c, hc, rfl⟩ := Option.map_eq_some_iff.mp (Option.mem_toList.mp hhandle)
    exact h.mem_held_of_call htask hc
  -- the tasks afterwards: those that were behind, and what remains of the first one
  have hrest : ∀ t ∈ (w.run task tasks retCode).tasks, t ∈ tasks ∨
      task.rest w.ifaces.iface retCode = some t := by
    intro t ht
    rcases List.mem_append.mp ht with ht | ht
    · exact .inr (Option.mem_toList.mp ht)
    · exact .inl ht
  have hwithin : Within w.devices.openHandles
      { (w.run task tasks retCode).ifaces with log := [] } := by
    cases task with
    | device | unclaim | readHandle | readNumber | issue => exact h.within
    | detach d p => exact h.within.setIface nofun
    | clearNumber d p =>
      have hd : d ∈ w.ifaces.live := h.alive _ htask d p rfl
      exact h.within.setIface fun g hg => h.recorded d hd g hg
  have hlive : (w.run task tasks retCode).ifaces.live = w.ifaces.live := by
    cases task <;> rfl
  constructor
  · constructor
    · exact (legal_uses_iff _ _).mpr ⟨hcalls, h.legal⟩
    · intro t ht handle hhandle
      rcases hrest t ht with ht | ht
      · exact h.captured t (hmem t ht) handle hhandle
      · exact h.captured_rest htask hfinds ht hhandle
    · exact hwithin.recorded
  · exact h.owned
  · exact (held_run task tasks retCode).trans h.held
  · rw [hlive]
    intro t ht d p htarget
    rcases hrest t ht with ht | ht
    · exact h.alive t (hmem t ht) d p htarget
    · exact h.alive task htask d p ((Task.rest_eq_some ht).1 ▸ htarget)

section Operations

variable [DecidableEq δ] {a : Action ι δ σ} {op : Interface.World ι → Interface.World ι}

omit [DecidableEq ι] in
lemma Inv.mem_of_openHandle (h : Inv w) {device : δ} {g : DeviceHandle}
    (hopen : openHandle w device = some g) : g ∈ w.devices.openHandles := by
  obtain ⟨hlive, hhandle⟩ := Option.ite_none_right_eq_some.mp hopen
  exact h.owned.mem device hlive g hhandle

lemma Inv.within_of_operation (h : Inv w) (hop : Operation w a op) (hcareful : Careful w a) :
    Within w.devices.openHandles (op { w.ifaces with log := [] }) := by
  cases hop with
  | construct d deviceHandle =>
    obtain rfl : deviceHandle = none := hcareful
    exact h.within.construct
  | constructClaim d deviceHandle device number releaseRet claimRet destroyRet g hd hopen =>
    obtain rfl : deviceHandle = none := hcareful
    exact h.within.constructClaim (h.mem_of_openHandle hopen) releaseRet claimRet destroyRet
  | claim d device number detachDriver releaseRet claimRet g hd hopen =>
    exact h.within.claim hd (h.mem_of_openHandle hopen) detachDriver releaseRet claimRet
  | unclaim d reattach retCode hd => exact h.within.unclaim hd reattach retCode
  | detach d => exact ⟨h.within.clear.recorded, nofun⟩
  | moveAssign d src retCode hd hsrc => exact h.within.moveAssign hd hsrc retCode
  | destroy d retCode hd => exact h.within.destroy hd retCode
  | reuse d x hd => exact h.within.reuse hd x

/-- An operation ends the life of no object but the one that it destroys. -/
lemma Operation.mem_live (hop : Operation w a op) {d' : ι} (hd' : d' ∈ w.ifaces.live)
    (hdestroy : ∀ d retCode, a = .destroy d retCode → d' ≠ d) :
    d' ∈ (op { w.ifaces with log := [] }).live := by
  cases hop with
  | construct d deviceHandle => exact Finset.mem_insert_of_mem hd'
  | constructClaim d deviceHandle device number releaseRet claimRet destroyRet g hd hopen =>
    have hne : d' ≠ d := ne_of_mem_of_not_mem hd' hd
    have hmem : d' ∈ insert d w.ifaces.live := Finset.mem_insert_of_mem hd'
    simp only [World.constructClaim]
    split_ifs
    · exact Finset.mem_erase.mpr ⟨hne, by rwa [live_unclaim, live_claim]⟩
    · rwa [live_claim]
  | claim => rwa [live_claim]
  | unclaim => rwa [live_unclaim]
  | detach | reuse => exact hd'
  | moveAssign d src retCode =>
    change d' ∈ (World.unclaim _ d true retCode).1.live
    rwa [live_unclaim]
  | destroy d retCode =>
    exact Finset.mem_erase.mpr ⟨hdestroy d retCode rfl, by rwa [live_unclaim]⟩

lemma Inv.operate (h : Inv w) (hop : Operation w a op) (hcareful : Careful w a) :
    Inv (w.operate op) := by
  have hwithin := h.within_of_operation hop hcareful
  constructor
  · constructor
    · refine (legal_uses_iff _ _).mpr ⟨fun p hp => ?_, h.legal⟩
      obtain ⟨c, hc, rfl⟩ := List.mem_map.mp hp
      exact h.mem_held.mpr (hwithin.called c hc)
    · exact h.captured
    · exact hwithin.recorded
  · exact h.owned
  · exact (held_operate op).trans h.held
  · intro task htask d p htarget
    apply hop.mem_live (h.alive task htask d p htarget)
    rintro d' retCode rfl rfl
    exact hcareful task htask _ htarget rfl

end Operations

variable [DecidableEq δ] [DecidableEq σ]

theorem inv_step {a : Action ι δ σ} (h : Inv w) (hcareful : Careful w a)
    (hstep : step w a = some w') : Inv w' := by
  cases Rule.of_step hstep with
  | device a devices hdevices => exact h.setDevices hdevices hcareful
  | operate a op hop => exact h.operate hop hcareful
  | asyncDevice device fn g hopen =>
    apply h.post
    · rintro _ ⟨⟩
      exact Finset.mem_map_of_mem _ (h.mem_of_openHandle hopen)
    · exact nofun
  | asyncUnclaim d _ p hclaimed | asyncSetAltSetting d _ p hclaimed =>
    obtain ⟨hd, -⟩ := Option.ite_none_right_eq_some.mp hclaimed
    apply h.post
    · exact nofun
    · rintro d' p' ⟨⟩
      exact hd
  | run task tasks retCode htasks =>
    exact h.run htasks (hcareful task (by rw [htasks]; rfl)) retCode

/-! ### What goes wrong otherwise -/

/-- The run of `as` is possible and ends with a call on a handle that is not open. -/
def Violates (w : World ι δ σ) (as : List (Action ι δ σ)) : Prop :=
  ∃ w', exec step w as = some w' ∧ ¬ Legal w'.log

lemma Violates.cons {a : Action ι δ σ} {as : List (Action ι δ σ)} (hstep : step w a = some w')
    (h : Violates w' as) : Violates w (a :: as) := by
  obtain ⟨w'', hexec, hnot⟩ := h
  exact ⟨w'', (exec_cons_some hstep as).trans hexec, hnot⟩

/-- An interface that records a handle which is not open is destroyed. -/
lemma violates_destroy {d : ι} (hd : d ∈ w.ifaces.live) {g : DeviceHandle}
    (hg : (w.ifaces.iface d).deviceHandle = some g) (hnot : some g ∉ Ledger.held w.log)
    (retCode : ℤ) : Violates w [.destroy d retCode] := by
  refine ⟨w.operate (·.destroy d retCode), by simp [exec, step, hd], fun hlegal => ?_⟩
  refine hnot (((legal_uses_iff _ _).mp hlegal).1 _ (List.mem_map.mpr ?_))
  have hp : (World.iface { w.ifaces with log := [] } d).record =
      some ⟨g, (w.ifaces.iface d).number⟩ := by
    simp [UsbInterface.record, hg]
  refine ⟨.release ⟨g, (w.ifaces.iface d).number⟩ retCode, ?_, rfl⟩
  change _ ∈ (World.unclaim _ d true retCode).1.log
  by_cases hret : retCode < 0
  · rw [World.unclaim_of_failed hp hret]
    exact List.mem_cons_self
  · rw [World.unclaim_of_released hp (not_lt.mp hret)]
    exact List.mem_cons_of_mem _ List.mem_cons_self

/-- The blocking thread comes to a call on a handle that is not open. -/
lemma violates_run {task : Task ι} {tasks : List (Task ι)} (htasks : w.tasks = task :: tasks)
    {c : Call} (hc : task.call = some c) (hnot : c.handle ∉ Ledger.held w.log) (retCode : ℤ) :
    Violates w [.run retCode] := by
  refine ⟨w.run task tasks retCode, exec_run htasks retCode [], fun hlegal => ?_⟩
  refine hnot (((legal_uses_iff _ _).mp hlegal).1 _ ?_)
  simp [hc]

/-- The blocking thread has copied a handle that is not open. -/
lemma violates_captured {task : Task ι} {tasks : List (Task ι)} (htasks : w.tasks = task :: tasks)
    {handle : Option DeviceHandle} (hcaptured : task.captured = some handle)
    (hnot : handle ∉ Ledger.held w.log) : ∃ as, Violates w as := by
  cases task with
  | device fn handle' =>
    cases hcaptured
    exact ⟨_, violates_run htasks rfl hnot 0⟩
  | issue fn d p handle' number =>
    cases hcaptured
    exact ⟨_, violates_run htasks rfl (by rwa [InterfaceFn.handle_call]) 0⟩
  | readNumber fn d p handle' =>
    cases hcaptured
    have hcall : Violates (w.run (.readNumber fn d p handle) tasks 0) [.run 0] :=
      violates_run rfl rfl (by rwa [InterfaceFn.handle_call, held_run]) 0
    obtain ⟨w', hexec, hlegal⟩ := hcall
    exact ⟨[.run 0, .run 0], w', (exec_run htasks 0 [.run 0]).trans hexec, hlegal⟩
  | unclaim | readHandle | detach | clearNumber => cases hcaptured

/-- It is going to copy one. -/
lemma violates_reads {task : Task ι} {tasks : List (Task ι)} (htasks : w.tasks = task :: tasks)
    {d : ι} (hreads : task.reads = some d) {g : DeviceHandle}
    (hg : (w.ifaces.iface d).deviceHandle = some g) (hnot : some g ∉ Ledger.held w.log) :
    ∃ as, Violates w as := by
  have hread : ∀ (w' : World ι δ σ) fn p, w'.tasks = .readHandle fn d p :: tasks →
      (w'.ifaces.iface d).deviceHandle = some g → some g ∉ Ledger.held w'.log →
      ∃ as, Violates w' as := by
    intro w' fn p htasks' hg' hnot'
    obtain ⟨as, w'', hexec, hlegal⟩ := violates_captured
      (w := w'.run (.readHandle fn d p) tasks 0) rfl (congrArg some hg') (by rwa [held_run])
    exact ⟨.run 0 :: as, w'', (exec_run htasks' 0 as).trans hexec, hlegal⟩
  cases task with
  | readHandle fn d' p =>
    cases hreads
    exact hread w fn p htasks hg hnot
  | unclaim d' reattach p =>
    cases hreads
    have htasks' : (w.run (.unclaim d reattach p) tasks 0).tasks =
        .readHandle (.release reattach) d p :: tasks := by
      simp [World.run, Task.rest, hg]
    obtain ⟨as, w', hexec, hlegal⟩ := hread _ _ p htasks' hg (by rwa [held_run])
    exact ⟨.run 0 :: as, w', (exec_run htasks 0 as).trans hexec, hlegal⟩
  | device | readNumber | issue | detach | clearNumber => cases hreads

/-- The blocking thread comes to the end of a function. -/
lemma exists_finished {task : Task ι} {tasks : List (Task ι)} (htasks : w.tasks = task :: tasks) :
    ∃ as w', exec step w as = some w' ∧ w'.tasks = tasks ∧
      Ledger.held w'.log = Ledger.held w.log := by
  induction hn : task.rank using Nat.strong_induction_on generalizing w task with
  | h n ih =>
    cases hrest : task.rest w.ifaces.iface 0 with
    | none =>
      exact ⟨[.run 0], w.run task tasks 0, exec_run htasks 0 [], by simp [World.run, hrest],
        held_run ..⟩
    | some task' =>
      have htasks' : (w.run task tasks 0).tasks = task' :: tasks := by simp [World.run, hrest]
      have hlt : task'.rank < n := hn ▸ Task.rank_rest hrest
      obtain ⟨as, w', hexec, hw', hheld⟩ := ih _ hlt htasks' rfl
      exact ⟨.run 0 :: as, w', (exec_run htasks 0 as).trans hexec, hw',
        hheld.trans (held_run ..)⟩

/-- The blocking thread comes to every function in the end. -/
lemma violates_copied {task : Task ι} {handle : Option DeviceHandle}
    (hcaptured : task.captured = some handle) {earlier later : List (Task ι)}
    (htasks : w.tasks = earlier ++ task :: later) (hnot : handle ∉ Ledger.held w.log) :
    ∃ as, Violates w as := by
  induction earlier generalizing w with
  | nil => exact violates_captured htasks hcaptured hnot
  | cons t earlier ih =>
    obtain ⟨as, w', hexec, htasks', hheld⟩ := exists_finished htasks
    obtain ⟨bs, w'', hexec', hlegal⟩ := ih htasks' (hheld ▸ hnot)
    exact ⟨as ++ bs, w'', (exec_append hexec bs).trans hexec', hlegal⟩

/-- A handle is closed while there is a copy of it. -/
lemma Inv.violates_close (h : Inv w) {a : Device.Action δ σ} {devices : Device.World δ σ}
    (hstep : Device.step w.devices a = some devices) {g : DeviceHandle}
    (hclose : Device.closes w.devices a = some g) (hopen : Device.opens a ≠ some g)
    (hcopy : ¬ w.Uncopied g) : ∃ as, Violates w (.device a :: as) := by
  have hstep' : step w (.device a) = some (w.setDevices a devices) := by simp [step, hstep]
  have hnot : some g ∉ Ledger.held (w.setDevices a devices).log := by
    simp only [World.setDevices, held_events h.held]
    simp [hclose, hopen]
  by_cases htask : ∃ task ∈ w.tasks, task.captured = some (some g)
  · obtain ⟨task, htask, hcaptured⟩ := htask
    obtain ⟨earlier, later, htasks⟩ := List.append_of_mem htask
    obtain ⟨as, has⟩ := violates_copied (w := w.setDevices a devices) hcaptured htasks hnot
    exact ⟨as, has.cons hstep'⟩
  · have hrecorded : ∃ d ∈ w.ifaces.live, (w.ifaces.iface d).deviceHandle = some g := by
      by_contra hnone
      refine hcopy ⟨fun task ht hg => htask ⟨task, ht, hg⟩, fun d hd hg => hnone ⟨d, hd, hg⟩⟩
    obtain ⟨d, hd, hg⟩ := hrecorded
    exact ⟨_, (violates_destroy (w := w.setDevices a devices) hd hg hnot 0).cons hstep'⟩

/-- An interface is constructed and destroyed; its `device_handle_` happened to hold the bits of
something that is not open. -/
lemma Inv.violates_construct (h : Inv w) {d : ι} (hd : d ∉ w.ifaces.live) {g : DeviceHandle}
    (hg : g ∉ w.devices.openHandles) (retCode : ℤ) :
    Violates w [.construct d (some g), .destroy d retCode] := by
  have hstep : step w (.construct d (some g)) = some (w.operate (·.construct d (some g))) := by
    simp [step, hd]
  refine (violates_destroy (g := g) ?_ ?_ ?_ retCode).cons hstep
  · exact Finset.mem_insert_self d w.ifaces.live
  · simp [World.operate, World.construct, World.setIface]
  · rw [held_operate]
    exact fun hheld => hg (h.mem_held.mp hheld)

/-- An interface is destroyed before the blocking thread reads its handle, and its memory is used
again. -/
lemma Inv.violates_dangling (h : Inv w) {d : ι} (hd : d ∈ w.ifaces.live) {task : Task ι}
    {tasks : List (Task ι)} (htasks : w.tasks = task :: tasks) (hreads : task.reads = some d)
    {g : DeviceHandle} (hg : g ∉ w.devices.openHandles) (retCode : ℤ) :
    ∃ as, Violates w (.destroy d retCode :: .reuse d ⟨some g, 0⟩ :: as) := by
  let w₁ := w.operate (·.destroy d retCode)
  let w₂ := w₁.operate (·.setIface d ⟨some g, 0⟩)
  have hdestroy : step w (.destroy d retCode) = some w₁ := by simp [step, hd, w₁]
  have hdead : d ∉ w₁.ifaces.live := Finset.notMem_erase d _
  have hreuse : step w₁ (.reuse d ⟨some g, 0⟩) = some w₂ := by simp [step, hdead, w₂]
  have hnot : some g ∉ Ledger.held w₂.log := by
    rw [held_operate, held_operate]
    exact fun hheld => hg (h.mem_held.mp hheld)
  have hhandle : (w₂.ifaces.iface d).deviceHandle = some g := by
    simp [w₂, World.operate, World.setIface]
  obtain ⟨as, has⟩ := violates_reads (w := w₂) htasks hreads hhandle hnot
  exact ⟨as, (has.cons hreuse).cons hdestroy⟩

/-- The blocking thread reads the handle of an unclaimed interface for a call. -/
lemma Inv.violates_unclaimed (h : Inv w) {task : Task ι} {tasks : List (Task ι)}
    (htasks : w.tasks = task :: tasks) (hfinds : ¬ task.FindsClaimed w.ifaces.iface)
    (retCode : ℤ) : ∃ as, Violates w (.run retCode :: as) := by
  have hnull : none ∉ Ledger.held w.log := by simp [h.held]
  cases task with
  | device | unclaim | readNumber | issue | detach | clearNumber => exact absurd trivial hfinds
  | readHandle fn d p =>
    obtain ⟨as, w', hexec, hlegal⟩ := violates_captured
      (w := w.run (.readHandle fn d p) tasks retCode) rfl (congrArg some (not_not.mp hfinds))
      (by rwa [held_run])
    exact ⟨as, w', (exec_run htasks retCode as).trans hexec, hlegal⟩

/-! ### Every run -/

/-- In every run whose steps all meet the condition, every libusb call that takes a device handle
is made between the `libusb_open` and the `libusb_close` of that handle. Where a step misses the
condition, a call on a handle that is not open can follow. -/
theorem valid_of_careful (dev : δ → Device.UsbDevice σ) (iface : ι → UsbInterface)
    (as : List (Action ι δ σ)) (hcareful : Along step Careful (init dev iface) as) :
    Always step Valid (init dev iface) as ∧
      ∀ w, exec step (init dev iface) as = some w →
        (∀ a devices g, Device.step w.devices a = some devices →
          Device.closes w.devices a = some g → Device.opens a ≠ some g → ¬ w.Uncopied g →
            ∃ as, Violates w (.device a :: as)) ∧
        (∀ d g retCode, d ∉ w.ifaces.live → g ∉ w.devices.openHandles →
          Violates w [.construct d (some g), .destroy d retCode]) ∧
        (∀ d task tasks g retCode, d ∈ w.ifaces.live → w.tasks = task :: tasks →
          task.reads = some d → g ∉ w.devices.openHandles →
            ∃ as, Violates w (.destroy d retCode :: .reuse d ⟨some g, 0⟩ :: as)) ∧
        (∀ task tasks retCode, w.tasks = task :: tasks →
          ¬ task.FindsClaimed w.ifaces.iface → ∃ as, Violates w (.run retCode :: as)) := by
  have hstep : ∀ (w : World ι δ σ) a w', Inv w → Careful w a → step w a = some w' → Inv w' :=
    fun _ _ _ => inv_step
  have hinit : Inv (init dev iface : World ι δ σ) := inv_init dev iface
  refine ⟨always_of_invariant hstep (fun _ h => h.toValid) hinit hcareful, fun w hw => ?_⟩
  have hinv : Inv w := (always_of_invariant hstep (fun _ h => h) hinit hcareful).last hw
  refine ⟨?_, ?_, ?_, ?_⟩
  · intro a devices g hdevices hclose hopen hcopy
    exact hinv.violates_close hdevices hclose hopen hcopy
  · intro d g retCode hd hg
    exact hinv.violates_construct hd hg retCode
  · intro d task tasks g retCode hd htasks hreads hg
    exact hinv.violates_dangling hd htasks hreads hg retCode
  · intro task tasks retCode htasks hfinds
    exact hinv.violates_unclaimed htasks hfinds retCode

/-- A device is opened, an interface of it is claimed, reconfigured and unclaimed by the blocking
thread, and both are destroyed. -/
theorem valid_one_interface :
    let w : World ℕ ℕ Unit := init (fun _ => ⟨none, ()⟩) (fun _ => ⟨none, 0⟩)
    let as : List (Action ℕ ℕ Unit) :=
      [.device (.constructOpen 0 () 0 ⟨4096, by decide, by decide⟩),
        .construct 0 none, .claim 0 0 1 true 0 0, .asyncSetAltSetting 0 3, .asyncUnclaim 0 true] ++
      List.replicate 12 (.run 0) ++ [.destroy 0 0, .device (.close 0)]
    (exec step w as).isSome ∧ Always step Valid w as :=
  ⟨by decide, (valid_of_careful _ _ _ (by decide)).1⟩

/-- A device is closed before the blocking thread comes to its reset. -/
theorem not_legal_closed_early :
    ¬ ∀ (dev : ℕ → Device.UsbDevice Unit) (iface : ℕ → UsbInterface) (as : List (Action ℕ ℕ Unit)),
      Always step (fun w => Legal w.log) (init dev iface) as := by
  intro h
  let g : DeviceHandle := ⟨4096, by decide, by decide⟩
  have hlog : (exec step (init (fun _ => ⟨none, ()⟩) (fun _ => ⟨none, 0⟩) : World ℕ ℕ Unit)
      [.device (.constructOpen 0 () 0 g), .asyncDevice 0 .resetDevice, .device (.close 0),
        .run 0]).map (·.log) = some [.use (some g), .release (some g), .acquire (some g)] := by
    decide
  obtain ⟨w, hw, hw'⟩ := Option.map_eq_some_iff.mp hlog
  have hlegal : Legal w.log := (h _ _ _).last hw
  rw [hw'] at hlegal
  exact not_legal_use (by simp) hlegal

end UsbAsio.BlockingOp
