import UsbAsio.Device.Ownership

/-!
# Counting open devices

The counter of a service follows `open` and `close`, while a handle also leaves its object
through the implicit destructor and the implicit move assignment. The counters are right all
along a run exactly when these two only meet objects that hold no handle.
-/

namespace UsbAsio.Device

open Transition Ownership

variable {ι σ : Type*} [DecidableEq ι] [DecidableEq σ]

/-! ### The property and the condition -/

/-- The live objects with a non-null `handle_` whose `service_` is `service`. -/
def World.count (w : World ι σ) (service : σ) : ℕ :=
  {d ∈ w.live | (w.dev d).isOpen ∧ (w.dev d).service = service}.card

/-- Every counter is right, and back at zero when all handles have been closed. -/
structure Accounted (w : World ι σ) : Prop where
  counted : ∀ service, w.openDevices service = w.count service
  closed : w.openHandles = ∅ → ∀ service, w.openDevices service = 0

/-- Only a closed object is destroyed or assigned to; self-assignment is harmless. -/
def ClosesFirst (w : World ι σ) : Action ι σ → Prop
  | .destroy d        => (w.dev d).handle = none
  | .moveAssign d src => d = src ∨ (w.dev d).handle = none
  | _                 => True

/-! ### The invariant -/

structure Inv (w : World ι σ) : Prop where
  owns : Owns w.live (UsbDevice.handle ∘ w.dev) w.openHandles
  counted : ∀ service, w.openDevices service = tally w.live (UsbDevice.openOn ∘ w.dev) service

omit [DecidableEq ι] in
lemma World.count_eq_tally (w : World ι σ) (service : σ) :
    w.count service = tally w.live (UsbDevice.openOn ∘ w.dev) service := by
  rw [World.count, tally]
  congr 1
  refine Finset.filter_congr fun d _ => ?_
  cases h : (w.dev d).handle <;> simp [UsbDevice.isOpen, UsbDevice.openOn, h]

omit [DecidableEq σ] in
/-- Only an open device is counted. -/
lemma isSome_of_openOn {x : UsbDevice σ} {service : σ} (h : x.openOn = some service) :
    x.handle.isSome := by
  cases hx : x.handle <;> simp [UsbDevice.openOn, hx] at h ⊢

omit [DecidableEq ι] in
lemma inv_init (dev : ι → UsbDevice σ) : Inv (init dev) :=
  ⟨owns_empty _, fun _ => rfl⟩

omit [DecidableEq ι] in
lemma Inv.owned {w : World ι σ} (h : Inv w) : Owned w := h.owns

omit [DecidableEq ι] in
lemma Inv.accounted {w : World ι σ} (h : Inv w) : Accounted w := by
  refine ⟨fun service => (h.counted service).trans (w.count_eq_tally service).symm, ?_⟩
  intro hempty service
  have howns := h.owns
  rw [hempty] at howns
  rw [h.counted service]
  exact howns.tally_eq_zero (fun d _ _ hd => isSome_of_openOn hd) service

/-- There are fewer than `2 ^ 64` handles. -/
lemma card_lt (res : Finset DeviceHandle) : res.card < 2 ^ 64 := by
  have hle : res.card ≤ (Finset.Ioo 0 (2 ^ 64)).card := by
    refine Finset.card_le_card_of_injOn DeviceHandle.address (fun h _ => ?_) fun h _ h' _ heq => ?_
    · exact Finset.mem_coe.mpr (Finset.mem_Ioo.mpr ⟨h.pos, h.lt⟩)
    · cases h; cases h'; cases heq; rfl
  rw [Nat.card_Ioo] at hle
  omega

omit [DecidableEq ι] in
lemma Inv.openDevices_lt {w : World ι σ} (h : Inv w) (service : σ) :
    w.openDevices service < 2 ^ 64 := by
  have hle := h.owns.tally_le (fun d _ _ hd => isSome_of_openOn hd) service
  rw [h.counted service]
  exact hle.trans_lt (card_lt _)

/-! ### Operations -/

lemma Inv.construct {w : World ι σ} (h : Inv w) {d : ι} (hd : d ∉ w.live) (service : σ) :
    Inv (w.construct d service) := by
  refine ⟨h.owned.construct hd service, ?_⟩
  intro service'
  simp only [World.construct, World.setDev, Function.comp_update, UsbDevice.openOn,
    Option.map_none]
  rw [h.counted service', tally_insert _ hd, Function.update_self]
  exact (tally_congr (fun d' hd' => Function.update_of_ne (ne_of_mem_of_not_mem hd' hd) _ _)
    service').symm

/-- `close` counts down and gives the handle back. -/
lemma Inv.close {w : World ι σ} (h : Inv w) {d : ι} (hd : d ∈ w.live) : Inv (w.close d) := by
  refine ⟨h.owned.close hd, ?_⟩
  cases hhandle : (w.dev d).handle with
  | none =>
    rw [World.close_of_closed hhandle]
    exact h.counted
  | some handle =>
    rw [World.close_of_open hhandle]
    intro service
    have htally := tally_update (UsbDevice.openOn ∘ w.dev) hd none service
    have hlt := h.openDevices_lt service
    rw [Function.comp_apply, UsbDevice.openOn_of_open hhandle, ← h.counted] at htally
    simp only [World.notifyDevClosed, Function.comp_update, UsbDevice.openOn, Option.map_none]
    by_cases hs : service = (w.dev d).service
    · subst hs
      rw [Function.update_self]
      simp only [if_true, reduceCtorEq, if_false, Nat.add_zero] at htally
      rw [← htally] at hlt ⊢
      exact decrementDevices_succ hlt
    · rw [Function.update_of_ne hs]
      simpa [Ne.symm hs] using htally.symm

/-- `openEc` counts up when libusb opens a handle that is not open yet. -/
lemma Inv.openEc {w : World ι σ} (h : Inv w) {d : ι} (hd : d ∈ w.live) (retCode : ℤ)
    {handle : DeviceHandle} (hfresh : handle ∉ (w.close d).openHandles) :
    Inv (w.openEc d retCode handle).1 := by
  have hclose := h.close hd
  have howned := h.owned.openEc hd retCode hfresh
  refine ⟨howned, ?_⟩
  cases herr : (libusbTry retCode).1.isError with
  | true =>
    rw [World.openEc_of_error herr]
    exact hclose.counted
  | false =>
    rw [World.openEc_of_ok herr] at howned ⊢
    have hnone : ((w.close d).dev d).handle = none := World.close_handle
    have hlive : d ∈ (w.close d).live := by rwa [World.close_live]
    generalize w.close d = w' at hclose hnone hlive howned
    set x : UsbDevice σ := ⟨some handle, (w'.dev d).service⟩ with hx
    intro service
    -- the new count is that of distinct handles, so the counter has not wrapped
    have hlt : tally w'.live (UsbDevice.openOn ∘ Function.update w'.dev d x) service < 2 ^ 64 :=
      (Owns.tally_le howned (fun _ _ _ hd => isSome_of_openOn hd) service).trans_lt (card_lt _)
    rw [Function.comp_update] at hlt
    have htally := tally_update (UsbDevice.openOn ∘ w'.dev) hlive x.openOn service
    rw [Function.comp_apply, UsbDevice.openOn_of_closed hnone, ← hclose.counted] at htally
    simp only [World.notifyDevOpened, Function.comp_update]
    rw [UsbDevice.openOn_of_open (by rw [hx])] at hlt htally ⊢
    by_cases hs : service = (w'.dev d).service
    · subst hs
      rw [Function.update_self]
      simp only [hx, if_true, reduceCtorEq, if_false, Nat.add_zero] at htally hlt ⊢
      rw [htally] at hlt ⊢
      exact incrementDevices_of_lt hlt
    · rw [Function.update_of_ne hs]
      simpa [Ne.symm hs, hx] using htally.symm

lemma Inv.handOver {w : World ι σ} (h : Inv w) {d src : ι} (hd : d ∈ w.live)
    (hsrc : src ∈ w.live) (hne : d ≠ src) (hclosed : (w.dev d).handle = none) :
    Inv (w.handOver d src) := by
  refine ⟨h.owned.handOver hd hsrc hne hclosed, ?_⟩
  intro service
  simp only [World.handOver, World.setDev, Function.comp_update]
  rw [h.counted]
  exact (tally_handOver hd hsrc hne (UsbDevice.openOn_of_closed hclosed) service).symm

/-- Move construction takes the handle over into an object that holds none yet. -/
lemma Inv.moveConstruct {w : World ι σ} (h : Inv w) {d src : ι} (hd : d ∉ w.live)
    (hsrc : src ∈ w.live) : Inv (w.moveConstruct d src) := by
  have hne : d ≠ src := (ne_of_mem_of_not_mem hsrc hd).symm
  rw [World.moveConstruct_eq hne]
  refine (h.construct hd (w.dev src).service).handOver ?_ ?_ hne ?_
  · exact Finset.mem_insert_self d w.live
  · exact Finset.mem_insert_of_mem hsrc
  · simp [World.construct, World.setDev]

lemma Inv.moveAssign {w : World ι σ} (h : Inv w) {d src : ι} (hd : d ∈ w.live)
    (hsrc : src ∈ w.live) (hclosed : d = src ∨ (w.dev d).handle = none) :
    Inv (w.moveAssign d src) := by
  by_cases hne : d = src
  · rw [hne, World.moveAssign_self]
    exact h
  · have hnone := hclosed.resolve_left hne
    rw [World.moveAssign_of_ne hne, hnone]
    exact h.handOver hd hsrc hne hnone

lemma Inv.destroy {w : World ι σ} (h : Inv w) {d : ι} (hd : d ∈ w.live)
    (hclosed : (w.dev d).handle = none) : Inv (w.destroy d) := by
  rw [World.destroy_of_closed hclosed]
  refine ⟨h.owns.destroy hclosed, ?_⟩
  intro service
  have htally := tally_eq_erase (UsbDevice.openOn ∘ w.dev) hd service
  rw [h.counted service, htally]
  simp [UsbDevice.openOn_of_closed hclosed]

/-! ### Runs -/

theorem inv_step {w w' : World ι σ} {a : Action ι σ} (h : Inv w) (hfirst : ClosesFirst w a)
    (hstep : step w a = some w') : Inv w' := by
  cases Rule.of_step hstep with
  | construct d service hd => exact h.construct hd service
  | constructOpen d service retCode handle hd hfresh =>
    exact (h.construct hd service).openEc (Finset.mem_insert_self d w.live) retCode hfresh
  | openEc _ d retCode handle hd _ hfresh => exact h.openEc hd retCode hfresh
  | close d hd => exact h.close hd
  | moveConstruct d src hd hsrc => exact h.moveConstruct hd hsrc
  | moveAssign d src hd hsrc => exact h.moveAssign hd hsrc hfirst
  | destroy d hd => exact h.destroy hd hfirst

/-- Destroying an open device leaves its counter too high. -/
lemma Inv.destroy_open {w : World ι σ} (h : Inv w) {d : ι} (hd : d ∈ w.live)
    {handle : DeviceHandle} (hopen : (w.dev d).handle = some handle) :
    ¬ Accounted (w.destroy d) := by
  intro hacc
  have hrest : tally (w.live.erase d) (UsbDevice.openOn ∘ (w.destroy d).dev) (w.dev d).service =
      tally (w.live.erase d) (UsbDevice.openOn ∘ w.dev) (w.dev d).service := by
    refine tally_congr (fun d' hd' => ?_) _
    simp [World.destroy, World.resetHandle, World.setDev, Finset.ne_of_mem_erase hd']
  have htally := tally_eq_erase (UsbDevice.openOn ∘ w.dev) hd (w.dev d).service
  have hcount := hacc.counted (w.dev d).service
  rw [World.count_eq_tally] at hcount
  have hlive : (w.destroy d).live = w.live.erase d := by
    simp [World.destroy, World.resetHandle, World.setDev]
  have hcounter : (w.destroy d).openDevices = w.openDevices := by
    simp [World.destroy, World.resetHandle, World.setDev]
  rw [hlive, hcounter, hrest, h.counted, htally, Function.comp_apply,
    UsbDevice.openOn_of_open hopen] at hcount
  simp at hcount

/-- So does assigning to an open device. -/
lemma Inv.moveAssign_open {w : World ι σ} (h : Inv w) {d src : ι} (hd : d ∈ w.live)
    (hsrc : src ∈ w.live) (hne : d ≠ src) {handle : DeviceHandle}
    (hopen : (w.dev d).handle = some handle) : ¬ Accounted (w.moveAssign d src) := by
  intro hacc
  have hcount := hacc.counted (w.dev d).service
  rw [World.count_eq_tally, World.moveAssign_of_ne hne] at hcount
  simp only [World.handOver, World.setDev, World.libusbClose_live, World.libusbClose_dev,
    World.libusbClose_openDevices, Function.comp_update, h.counted] at hcount
  have hrelease := tally_update (UsbDevice.openOn ∘ w.dev) hsrc none (w.dev d).service
  have htake := tally_update (Function.update (UsbDevice.openOn ∘ w.dev) src none) hd
    (w.dev src).openOn (w.dev d).service
  rw [Function.update_of_ne hne, Function.comp_apply, UsbDevice.openOn_of_open hopen] at htake
  have hnone : (⟨none, (w.dev src).service⟩ : UsbDevice σ).openOn = none := rfl
  rw [hnone] at hcount
  simp only [Function.comp_apply, reduceCtorEq, if_false, if_true, Nat.add_zero] at hrelease htake
  omega

/-- A step that closes a handle behind the back of the service breaks a counter at once. -/
lemma not_accounted_step {w w' : World ι σ} {a : Action ι σ} (h : Inv w)
    (hfirst : ¬ ClosesFirst w a) (hstep : step w a = some w') : ¬ Accounted w' := by
  cases Rule.of_step hstep with
  | construct | constructOpen | close | moveConstruct => exact absurd trivial hfirst
  | openEc _ d retCode handle _ ha =>
    rcases ha with rfl | rfl <;> exact absurd trivial hfirst
  | moveAssign d src hd hsrc =>
    obtain ⟨hne, hopen⟩ := not_or.mp hfirst
    obtain ⟨handle, hhandle⟩ := Option.ne_none_iff_exists'.mp hopen
    exact h.moveAssign_open hd hsrc hne hhandle
  | destroy d hd =>
    obtain ⟨handle, hhandle⟩ := Option.ne_none_iff_exists'.mp hfirst
    exact h.destroy_open hd hhandle

/-- Every counter is the number of open devices of its service, all along a run, exactly when
the run destroys and assigns to closed devices only. -/
theorem accounted_iff_closesFirst (dev : ι → UsbDevice σ) (as : List (Action ι σ)) :
    Always step Accounted (init dev) as ↔ Along step ClosesFirst (init dev) as :=
  always_iff_along (fun _ _ _ h hfirst hstep => inv_step h hfirst hstep)
    (fun _ _ _ h hfirst hstep => not_accounted_step h hfirst hstep)
    (fun _ h => h.accounted) (inv_init dev)

/-- A device is opened and goes out of scope: its service counts it for ever. -/
theorem not_accounted_destructor :
    ¬ ∀ (dev : ℕ → UsbDevice Unit) (as : List (Action ℕ Unit)),
      Always step Accounted (init dev) as := by
  intro h
  let handle : DeviceHandle := ⟨4096, by decide, by decide⟩
  let as : List (Action ℕ Unit) := [.constructOpen 0 () 0 handle, .destroy 0]
  have hcounter : (exec step (init fun _ => ⟨none, ()⟩) as).map
      (fun w => (w.openDevices (), w.count ())) = some (1, 0) := by decide
  obtain ⟨w, hw, hw'⟩ := Option.map_eq_some_iff.mp hcounter
  obtain ⟨hone, hzero⟩ := Prod.mk.inj hw'
  have hcount := ((h _ as).last hw).counted ()
  rw [hone, hzero] at hcount
  exact absurd hcount one_ne_zero

end UsbAsio.Device
