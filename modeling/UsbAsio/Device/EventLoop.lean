import UsbAsio.Device.Basic
import UsbAsio.Ownership.Basic
import UsbAsio.Service.Wakeup

/-!
# Open devices and the event threads

The devices of a program together with the event threads of their services. An operation on a
device is now several steps: `close` counts down before it gives the handle back, and `open` stores
the handle before it enters `notify_dev_opened`. An object is used by one thread at a time, so the
thread inside an operation is named by the object.

Whatever the program does with its devices, a device that is open and at rest has an event thread
that is awake or about to be woken. Destroying an open device only leaves a counter too high.
-/

namespace UsbAsio.Device.EventLoop

open Transition Ownership EventThread

/-- Where the operation on an object is. -/
inductive DevicePc where
  | idle
  | resetHandle (opening : Bool)  -- in `close`, which `open` begins with; counted down already
  | libusbOpen
  | notifyDevOpened               -- with the handle stored
  deriving DecidableEq

structure World (ι σ : Type*) where
  live : Finset ι
  dev : ι → UsbDevice σ
  pc : ι → DevicePc
  /-- The service with its event thread, and the callers of `notify_dev_opened`. -/
  events : σ → EventThread.State ι

def init {ι σ : Type*} (dev : ι → UsbDevice σ) : World ι σ :=
  ⟨∅, dev, fun _ => .idle, fun _ => EventThread.init ι⟩

inductive Action (ι σ : Type*) where
  | event (service : σ)
  | shutdown (service : σ)
  | construct (d : ι) (service : σ)
  | close (d : ι)
  | open (d : ι)
  | resetHandle (d : ι)
  | libusbOpen (d : ι) (retCode : ℤ) (handle : DeviceHandle)
  | notifyDevOpened (d : ι)
  | moveConstruct (d src : ι)
  | moveAssign (d src : ι)
  | destroy (d : ι)

variable {ι σ : Type*} [DecidableEq ι] [DecidableEq σ]

namespace World

variable (w : World ι σ)

def setDev (d : ι) (x : UsbDevice σ) : World ι σ := { w with dev := Function.update w.dev d x }

def setPc (d : ι) (pc : DevicePc) : World ι σ := { w with pc := Function.update w.pc d pc }

def setEvents (service : σ) (e : EventThread.State ι) : World ι σ :=
  { w with events := Function.update w.events service e }

omit [DecidableEq ι] in
@[simp] lemma setEvents_self (service : σ) (e : EventThread.State ι) :
    (w.setEvents service e).events service = e := Function.update_self ..

omit [DecidableEq ι] in
lemma setEvents_of_ne {service service' : σ} (hne : service' ≠ service)
    (e : EventThread.State ι) : (w.setEvents service e).events service' = w.events service' :=
  Function.update_of_ne hne ..

/-- `notify_dev_closed`, a decrement that checks nothing. -/
def notifyDevClosed (service : σ) : World ι σ :=
  let e := w.events service
  w.setEvents service
    { e with openDevices := decrementDevices e.openDevices, counted := e.counted - 1 }

/-- `close` has returned to its caller, which is `open` or the program. -/
def closeReturned (d : ι) (opening : Bool) : World ι σ :=
  w.setPc d (if opening then .libusbOpen else .idle)

/-- `close`, up to the end of `notify_dev_closed`. -/
def close (d : ι) (opening : Bool) : World ι σ :=
  if (w.dev d).isOpen then
    (w.notifyDevClosed (w.dev d).service).setPc d (.resetHandle opening)
  else w.closeReturned d opening

/-- `handle_.reset()`. -/
def resetHandle (d : ι) (opening : Bool) : World ι σ :=
  (w.setDev d ⟨none, (w.dev d).service⟩).closeReturned d opening

/-- `libusb_open`, and `handle_ = unique_handle_type{handle}` when it succeeds. -/
def libusbOpen (d : ι) (retCode : ℤ) (handle : DeviceHandle) : World ι σ :=
  if (libusbTry retCode).1.isError then w.setPc d .idle
  else (w.setDev d ⟨some handle, (w.dev d).service⟩).setPc d .notifyDevOpened

/-- The caller of `notify_dev_opened` has come to `e`; `open` returns when the caller does. -/
def notified (d : ι) (e : EventThread.State ι) : World ι σ :=
  (w.setEvents (w.dev d).service e).setPc d (if e.opener d = .idle then .idle else .notifyDevOpened)

/-- `handle_` and `service_` of `src` go to `d`. -/
def handOver (d src : ι) : World ι σ :=
  (w.setDev src ⟨none, (w.dev src).service⟩).setDev d (w.dev src)

end World

/-- One step. An operation begins on an object that lives and that no thread is using. -/
def step (w : World ι σ) : Action ι σ → Option (World ι σ)
  | .event service =>
    (EventThread.step (w.events service) .event).map (w.setEvents service)
  | .shutdown service =>
    (EventThread.step (w.events service) .shutdown).map (w.setEvents service)
  | .construct d service =>
    if d ∈ w.live then none
    else some ({ w with live := insert d w.live }.setDev d ⟨none, service⟩)
  | .close d => if d ∈ w.live ∧ w.pc d = .idle then some (w.close d false) else none
  | .open d => if d ∈ w.live ∧ w.pc d = .idle then some (w.close d true) else none
  | .resetHandle d =>
    match w.pc d with
    | .resetHandle opening => some (w.resetHandle d opening)
    | _                    => none
  | .libusbOpen d retCode handle =>
    if w.pc d = .libusbOpen then some (w.libusbOpen d retCode handle) else none
  | .notifyDevOpened d =>
    if w.pc d = .notifyDevOpened then
      (EventThread.step (w.events (w.dev d).service) (.notifyDevOpened d)).map (w.notified d)
    else none
  | .moveConstruct d src =>
    if d ∉ w.live ∧ src ∈ w.live ∧ w.pc src = .idle then
      some ({ w with live := insert d w.live }.handOver d src)
    else none
  | .moveAssign d src =>
    if d ∈ w.live ∧ src ∈ w.live ∧ w.pc d = .idle ∧ w.pc src = .idle then
      some (if d = src then w else w.handOver d src)
    else none
  | .destroy d =>
    if d ∈ w.live ∧ w.pc d = .idle then some { w with live := w.live.erase d } else none

/-! ### What the steps do -/

inductive Rule (w : World ι σ) : Action ι σ → World ι σ → Prop where
  | service (a : Action ι σ) (service : σ) (e : EventThread.State ι)
      (ha : a = .event service ∧ EventThread.step (w.events service) .event = some e ∨
        a = .shutdown service ∧ EventThread.step (w.events service) .shutdown = some e) :
      Rule w a (w.setEvents service e)
  | construct (d : ι) (service : σ) (hd : d ∉ w.live) : Rule w (.construct d service)
      ({ w with live := insert d w.live }.setDev d ⟨none, service⟩)
  | close (a : Action ι σ) (d : ι) (opening : Bool) (hd : d ∈ w.live) (hpc : w.pc d = .idle)
      (ha : a = .close d ∨ a = .open d) : Rule w a (w.close d opening)
  | resetHandle (d : ι) (opening : Bool) (hpc : w.pc d = .resetHandle opening) :
      Rule w (.resetHandle d) (w.resetHandle d opening)
  | libusbOpen (d : ι) (retCode : ℤ) (handle : DeviceHandle) (hpc : w.pc d = .libusbOpen) :
      Rule w (.libusbOpen d retCode handle) (w.libusbOpen d retCode handle)
  | notifyDevOpened (d : ι) (e : EventThread.State ι) (hpc : w.pc d = .notifyDevOpened)
      (hstep : EventThread.step (w.events (w.dev d).service) (.notifyDevOpened d) = some e) :
      Rule w (.notifyDevOpened d) (w.notified d e)
  | moveConstruct (d src : ι) (hd : d ∉ w.live) (hsrc : src ∈ w.live) (hpc : w.pc src = .idle) :
      Rule w (.moveConstruct d src) ({ w with live := insert d w.live }.handOver d src)
  | moveSelf (d : ι) : Rule w (.moveAssign d d) w
  | moveAssign (d src : ι) (hd : d ∈ w.live) (hsrc : src ∈ w.live) (hpc : w.pc d = .idle)
      (hpc' : w.pc src = .idle) (hne : d ≠ src) : Rule w (.moveAssign d src) (w.handOver d src)
  | destroy (d : ι) (hd : d ∈ w.live) (hpc : w.pc d = .idle) :
      Rule w (.destroy d) { w with live := w.live.erase d }

lemma Rule.of_step {w w' : World ι σ} {a : Action ι σ} (h : step w a = some w') :
    Rule w a w' := by
  cases a with
  | event service =>
    obtain ⟨e, he, rfl⟩ := Option.map_eq_some_iff.mp h
    exact .service _ service e (.inl ⟨rfl, he⟩)
  | shutdown service =>
    obtain ⟨e, he, rfl⟩ := Option.map_eq_some_iff.mp h
    exact .service _ service e (.inr ⟨rfl, he⟩)
  | construct d service =>
    simp only [step] at h
    split_ifs at h with hd
    cases h
    exact .construct d service hd
  | close d =>
    simp only [step] at h
    split_ifs at h with hd
    cases h
    exact .close _ d false hd.1 hd.2 (.inl rfl)
  | «open» d =>
    simp only [step] at h
    split_ifs at h with hd
    cases h
    exact .close _ d true hd.1 hd.2 (.inr rfl)
  | resetHandle d =>
    cases hpc : w.pc d with
    | resetHandle opening =>
      simp only [step, hpc] at h
      cases h
      exact .resetHandle d opening hpc
    | idle | libusbOpen | notifyDevOpened => simp [step, hpc] at h
  | libusbOpen d retCode handle =>
    simp only [step] at h
    split_ifs at h with hpc
    cases h
    exact .libusbOpen d retCode handle hpc
  | notifyDevOpened d =>
    simp only [step] at h
    split_ifs at h with hpc
    obtain ⟨e, he, rfl⟩ := Option.map_eq_some_iff.mp h
    exact .notifyDevOpened d e hpc he
  | moveConstruct d src =>
    simp only [step] at h
    split_ifs at h with hd
    cases h
    exact .moveConstruct d src hd.1 hd.2.1 hd.2.2
  | moveAssign d src =>
    simp only [step] at h
    split_ifs at h with hd hne
    · cases h
      subst hne
      exact .moveSelf d
    · cases h
      exact .moveAssign d src hd.1 hd.2.1 hd.2.2.1 hd.2.2.2 hne
  | destroy d =>
    simp only [step] at h
    split_ifs at h with hd
    cases h
    exact .destroy d hd.1 hd.2

/-! ### What the services see of a step -/

/-- The caller has increased the counter. -/
def hasCounted : OpenerPc → Bool
  | .unlockFirst | .notify | .unlock => true
  | .idle | .lock | .fetchAdd        => false

/-- Neither the event thread nor `shutdown` touches the counter or the openers. -/
lemma frame_service {s e : EventThread.State ι} {a : EventThread.Action ι}
    (ha : a = .event ∨ a = .shutdown) (h : EventThread.step s a = some e) :
    e.counted = s.counted ∧ e.opener = s.opener := by
  cases EventThread.Rule.of_step h with
  | shutdownNotify =>
    obtain ⟨-, -, hcounted, hopener, -⟩ := s.notifyOne_frame
    exact ⟨hcounted, hopener⟩
  | lock | somethingOpen | nothingOpen | sawStop | sawNoStop | block | wakeUp | unlock | checkStop
  | handleEvents | requestStop => exact ⟨rfl, rfl⟩
  | openerCall | openerLock | fetchAdd | unlockFirst | notify | openerUnlock | notifyDevClosed =>
    rcases ha with ha | ha <;> cases ha

/-- A caller of `notify_dev_opened` is counted once. -/
lemma opener_step {s e : EventThread.State ι} {d : ι}
    (h : EventThread.step s (.notifyDevOpened d) = some e) :
    ∃ pc, e.opener = Function.update s.opener d pc ∧
      (e.counted = s.counted ∧
          (pc ≠ .idle ∧ hasCounted pc = hasCounted (s.opener d) ∨
            pc = .idle ∧ hasCounted (s.opener d)) ∨
        e.counted = s.counted + 1 ∧ hasCounted pc ∧ ¬ hasCounted (s.opener d)) := by
  cases EventThread.Rule.of_step h with
  | openerCall _ hpc | openerLock _ hpc | unlockFirst _ hpc =>
    exact ⟨_, rfl, .inl ⟨rfl, .inl ⟨by simp, by rw [hpc]; rfl⟩⟩⟩
  | fetchAdd _ pc hpc _ hpc' =>
    refine ⟨pc, rfl, .inr ⟨rfl, ?_, by simp [hpc, hasCounted]⟩⟩
    rcases hpc' with ⟨-, rfl⟩ | ⟨-, rfl⟩ <;> rfl
  | notify _ hpc =>
    obtain ⟨-, -, hcounted, hopener, -⟩ := s.notifyOne_frame
    refine ⟨.idle, ?_, .inl ⟨hcounted, .inr ⟨rfl, by rw [hpc]; rfl⟩⟩⟩
    show Function.update s.notifyOne.opener d _ = _
    rw [hopener]
  | openerUnlock _ hpc => exact ⟨_, rfl, .inl ⟨rfl, .inr ⟨rfl, by rw [hpc]; rfl⟩⟩⟩

/-! ### The properties and the invariant -/

/-- The service of an open object that no thread is using. -/
def World.atRestOn (w : World ι σ) (d : ι) : Option σ :=
  if w.pc d = .idle then (w.dev d).openOn else none

/-- The service that counts the object. -/
def World.countedOn (w : World ι σ) (d : ι) : Option σ :=
  match w.pc d with
  | .idle                         => (w.dev d).openOn
  | .resetHandle _ | .libusbOpen  => none
  | .notifyDevOpened              =>
    if hasCounted ((w.events (w.dev d).service).opener d) then (w.dev d).openOn else none

/-- No counter is below the number of open devices at rest. While there is one, the event thread
sleeps only if a notification is still to come, and not at all once no thread is inside
`notify_dev_opened` of the service. -/
structure Watched (w : World ι σ) : Prop where
  counted : ∀ service, tally w.live w.atRestOn service ≤ (w.events service).openDevices
  notifying : ∀ d ∈ w.live, ∀ service, w.atRestOn d = some service →
    (w.events service).Asleep → ∃ d', (w.events service).Notifying d'
  awake : ∀ d ∈ w.live, ∀ service, w.atRestOn d = some service →
    (∀ d', w.pc d' = .notifyDevOpened → (w.dev d').service ≠ service) →
      ¬ (w.events service).Asleep

/-- A counter that is 0 is not decremented. -/
def NoUnderflow (w : World ι σ) : Action ι σ → Prop
  | .close d | .open d => (w.dev d).isOpen → 0 < (w.events (w.dev d).service).openDevices
  | _                  => True

/-- Only a closed object is destroyed or assigned to. -/
def ClosesFirst (w : World ι σ) : Action ι σ → Prop
  | .destroy d        => (w.dev d).handle = none
  | .moveAssign d src => d = src ∨ (w.dev d).handle = none
  | _                 => True

instance (w : World ι σ) : ∀ a, Decidable (ClosesFirst w a)
  | .destroy d        => inferInstanceAs (Decidable ((w.dev d).handle = none))
  | .moveAssign d src => inferInstanceAs (Decidable (d = src ∨ (w.dev d).handle = none))
  | .event _ | .shutdown _ | .construct _ _ | .close _ | .open _ | .resetHandle _
  | .libusbOpen _ _ _ | .notifyDevOpened _ | .moveConstruct _ _ => isTrue trivial

/-- While no thread is inside an operation, every counter is the number of open devices. -/
def Exact (w : World ι σ) : Prop :=
  (∀ d, w.pc d = .idle) →
    ∀ service, (w.events service).openDevices = tally w.live w.atRestOn service

/-- What `handle_` is where the operation is. -/
def DevicePc.Suits (handle : Option DeviceHandle) : DevicePc → Prop
  | .idle | .resetHandle _ => True
  | .libusbOpen            => handle = none
  | .notifyDevOpened       => handle ≠ none

structure Inv (w : World ι σ) : Prop where
  events : ∀ service, EventThread.Inv (w.events service)
  /-- Only an object that lives is used. -/
  used : ∀ d, w.pc d ≠ .idle → d ∈ w.live
  /-- Who is inside `notify_dev_opened`. -/
  inside : ∀ d service, (w.events service).opener d ≠ .idle →
    w.pc d = .notifyDevOpened ∧ (w.dev d).service = service
  suits : ∀ d, (w.pc d).Suits (w.dev d).handle
  counted : ∀ service, tally w.live w.countedOn service ≤ (w.events service).counted

omit [DecidableEq ι] in
lemma inv_init (dev : ι → UsbDevice σ) : Inv (init dev) where
  events := fun _ => EventThread.inv_init
  used := fun _ h => absurd rfl h
  inside := fun _ _ h => absurd rfl h
  suits := fun _ => trivial
  counted := fun _ => Nat.zero_le _

variable {w w' : World ι σ}

omit [DecidableEq ι] [DecidableEq σ] in
/-- An object at rest is counted. -/
lemma countedOn_of_atRestOn {d : ι} {service : σ} (h : w.atRestOn d = some service) :
    w.countedOn d = some service := by
  unfold World.atRestOn at h
  split_ifs at h with hpc
  simpa only [World.countedOn, hpc] using h

omit [DecidableEq ι] in
lemma Inv.atRest_le (h : Inv w) (service : σ) :
    tally w.live w.atRestOn service ≤ (w.events service).openDevices := by
  rw [(h.events service).counted]
  refine le_trans ?_ (h.counted service)
  refine Finset.card_le_card (Finset.monotone_filter_right _ fun d _ hd => ?_)
  exact countedOn_of_atRestOn hd

omit [DecidableEq ι] in
lemma Inv.watched (h : Inv w) : Watched w := by
  have hpos : ∀ d ∈ w.live, ∀ service, w.atRestOn d = some service →
      0 < (w.events service).openDevices := by
    intro d hd service hrest
    refine lt_of_lt_of_le ?_ (h.atRest_le service)
    exact Finset.card_pos.mpr ⟨d, Finset.mem_filter.mpr ⟨hd, hrest⟩⟩
  refine ⟨h.atRest_le, ?_, ?_⟩
  · intro d hd service hrest hasleep
    exact (h.events service).notifying (hpos d hd service hrest) hasleep
  · intro d hd service hrest hnone
    refine (h.events service).woken.awake ?_ (hpos d hd service hrest)
    intro d'
    by_contra hne
    obtain ⟨hpc, hservice⟩ := h.inside d' service hne
    exact hnone d' hpc hservice

/-! ### Counting, step by step -/

omit [DecidableEq σ] in
/-- A step that changes one object only. -/
lemma countedOn_eq_update {d : ι} {o : Option σ} (hd : w'.countedOn d = o)
    (hpc : ∀ d' ≠ d, w'.pc d' = w.pc d') (hdev : ∀ d' ≠ d, w'.dev d' = w.dev d')
    (hopener : ∀ d' ≠ d, ∀ service,
      (w'.events service).opener d' = (w.events service).opener d') :
    w'.countedOn = Function.update w.countedOn d o := by
  funext d'
  by_cases hne : d' = d
  · rw [hne, hd, Function.update_self]
  · rw [Function.update_of_ne hne]
    simp only [World.countedOn, hpc d' hne, hdev d' hne, hopener d' hne]

omit [DecidableEq ι] in
lemma opener_setEvents {service : σ} {e : EventThread.State ι} {d : ι}
    (h : e.opener d = (w.events service).opener d) (service' : σ) :
    ((w.setEvents service e).events service').opener d = (w.events service').opener d := by
  by_cases hs : service' = service
  · rw [hs, World.setEvents_self, h]
  · rw [World.setEvents_of_ne _ hs]

omit [DecidableEq ι] in
lemma countedOn_setEvents {service : σ} {e : EventThread.State ι}
    (h : e.opener = (w.events service).opener) :
    (w.setEvents service e).countedOn = w.countedOn := by
  funext d
  have hopener := opener_setEvents (w := w) (congrFun h d)
  simp only [World.countedOn, hopener]
  rfl

omit [DecidableEq ι] in
lemma counted_setEvents {service : σ} {e : EventThread.State ι}
    (h : e.counted = (w.events service).counted) (service' : σ) :
    ((w.setEvents service e).events service').counted = (w.events service').counted := by
  by_cases hs : service' = service
  · rw [hs, World.setEvents_self, h]
  · rw [World.setEvents_of_ne _ hs]

omit [DecidableEq σ] in
/-- A closed object is not counted. -/
lemma countedOn_closeReturned {d : ι} (opening : Bool) (hclosed : (w.dev d).handle = none) :
    (w.closeReturned d opening).countedOn = Function.update w.countedOn d none := by
  refine countedOn_eq_update ?_ (fun d' hne => Function.update_of_ne hne _ _) (fun _ _ => rfl)
    fun _ _ _ => rfl
  cases opening <;> simp [World.countedOn, World.closeReturned, World.setPc,
    UsbDevice.openOn_of_closed hclosed]

omit [DecidableEq σ] in
lemma countedOn_resetHandle {d : ι} (opening : Bool) :
    (w.resetHandle d opening).countedOn = Function.update w.countedOn d none := by
  rw [World.resetHandle, countedOn_closeReturned opening (by simp [World.setDev])]
  funext d'
  by_cases hne : d' = d
  · rw [hne, Function.update_self, Function.update_self]
  · rw [Function.update_of_ne hne, Function.update_of_ne hne]
    simp [World.countedOn, World.setDev, hne]

omit [DecidableEq ι] in
lemma Inv.pc_of_not_live (h : Inv w) {d : ι} (hd : d ∉ w.live) : w.pc d = .idle := by
  by_contra hne
  exact hd (h.used d hne)

omit [DecidableEq ι] in
lemma Inv.closed (h : Inv w) {d : ι} (hpc : w.pc d = .libusbOpen) : (w.dev d).handle = none := by
  have hsuits := h.suits d
  rwa [hpc] at hsuits

omit [DecidableEq ι] in
lemma Inv.stored (h : Inv w) {d : ι} (hpc : w.pc d = .notifyDevOpened) :
    (w.dev d).handle ≠ none := by
  have hsuits := h.suits d
  rwa [hpc] at hsuits

/-- A caller of `libusb_open` is not counted, and does not count its device yet. -/
lemma Inv.countedOn_libusbOpen (h : Inv w) {d : ι} (hpc : w.pc d = .libusbOpen) (retCode : ℤ)
    (handle : DeviceHandle) :
    (w.libusbOpen d retCode handle).countedOn = Function.update w.countedOn d none := by
  have hidle : ∀ service, (w.events service).opener d = .idle := by
    intro service
    by_contra hne
    have hpc' := (h.inside d service hne).1
    rw [hpc] at hpc'
    cases hpc'
  refine countedOn_eq_update ?_ ?_ ?_ ?_
  · cases herr : (libusbTry retCode).1.isError with
    | true =>
      simp [World.countedOn, World.libusbOpen, herr, World.setPc,
        UsbDevice.openOn_of_closed (h.closed hpc)]
    | false => simp [World.countedOn, World.libusbOpen, herr, World.setPc, World.setDev, hidle,
        hasCounted]
  · intro d' hne
    unfold World.libusbOpen
    split_ifs <;> simp [World.setPc, World.setDev, hne]
  · intro d' hne
    unfold World.libusbOpen
    split_ifs <;> simp [World.setPc, World.setDev, hne]
  · intro d' hne service
    unfold World.libusbOpen
    split_ifs <;> rfl

omit [DecidableEq σ] in
lemma countedOn_handOver {d src : ι} (hne : d ≠ src) (hpc : w.pc d = .idle)
    (hpc' : w.pc src = .idle) : (w.handOver d src).countedOn =
      Function.update (Function.update w.countedOn src none) d (w.countedOn src) := by
  funext d'
  by_cases hd : d' = d
  · subst hd
    simp [World.countedOn, World.handOver, World.setDev, hpc, hpc']
  · by_cases hsrc : d' = src
    · subst hsrc
      simp [World.countedOn, World.handOver, World.setDev, hne.symm, hpc', UsbDevice.openOn]
    · simp [World.countedOn, World.handOver, World.setDev, hd, hsrc]

omit [DecidableEq ι] in
lemma opener_notifyDevClosed (service service' : σ) :
    ((w.notifyDevClosed service).events service').opener = (w.events service').opener := by
  by_cases hs : service' = service
  · rw [hs, World.notifyDevClosed, World.setEvents_self]
  · rw [World.notifyDevClosed, World.setEvents_of_ne _ hs]

lemma countedOn_close_open {d : ι} (opening : Bool) (hopen : (w.dev d).isOpen = true) :
    (w.close d opening).countedOn = Function.update w.countedOn d none := by
  rw [World.close, if_pos hopen]
  refine countedOn_eq_update ?_ (fun d' hne => Function.update_of_ne hne _ _) (fun _ _ => rfl) ?_
  · simp [World.countedOn, World.setPc]
  · intro d' _ service
    exact congrFun (opener_notifyDevClosed _ service) d'

/-- A caller of `notify_dev_opened` has its device counted once the caller is. -/
lemma countedOn_notified {d : ι} {e : EventThread.State ι}
    (hstep : EventThread.step (w.events (w.dev d).service) (.notifyDevOpened d) = some e) :
    (w.notified d e).countedOn = Function.update w.countedOn d
      (if hasCounted ((w.events (w.dev d).service).opener d) ∨
        e.counted ≠ (w.events (w.dev d).service).counted then (w.dev d).openOn else none) := by
  obtain ⟨pc, hopener, hcase⟩ := opener_step hstep
  have hself : e.opener d = pc := by rw [hopener, Function.update_self]
  refine countedOn_eq_update ?_ (fun d' hne => Function.update_of_ne hne _ _) (fun _ _ => rfl) ?_
  · rcases hcase with ⟨hsame, ⟨hne, hcounted⟩ | ⟨rfl, hcounted⟩⟩ | ⟨hmore, hcounted, hnot⟩
    · simp [World.countedOn, World.notified, World.setPc, World.setEvents, hself, hne, hcounted,
        hsame]
    · simp [World.countedOn, World.notified, World.setPc, World.setEvents, hself, hcounted]
    · have hne : pc ≠ .idle := by
        rintro rfl
        cases hcounted
      simp [World.countedOn, World.notified, World.setPc, World.setEvents, hself, hne, hcounted,
        hmore]
  · intro d' hne service
    refine opener_setEvents (w := w) ?_ service
    rw [hopener, Function.update_of_ne hne]

omit [DecidableEq ι] in
lemma counted_notifyDevClosed (service service' : σ) :
    ((w.notifyDevClosed service).events service').counted =
      (w.events service').counted - if service = service' then 1 else 0 := by
  by_cases hs : service' = service
  · rw [hs, World.notifyDevClosed, World.setEvents_self, if_pos rfl]
  · rw [World.notifyDevClosed, World.setEvents_of_ne _ hs, if_neg (Ne.symm hs), Nat.sub_zero]

omit [DecidableEq ι] in
/-- A counter that counts an object is not 0. -/
lemma Inv.counted_pos (h : Inv w) {d : ι} {service : σ} (hd : d ∈ w.live)
    (hcounted : w.countedOn d = some service) : 0 < (w.events service).counted := by
  refine lt_of_lt_of_le ?_ (h.counted service)
  exact Finset.card_pos.mpr ⟨d, Finset.mem_filter.mpr ⟨hd, hcounted⟩⟩

/-- What happens to the counter of a service happens to the number of devices that it counts, except
that nobody counts down for `lost` of them. -/
def Balanced (w w' : World ι σ) (service : σ) (lost : ℕ) : Prop :=
  (w'.events service).counted + tally w.live w.countedOn service =
    (w.events service).counted + tally w'.live w'.countedOn service + lost

omit [DecidableEq ι] in
lemma balanced_of_same (hlabel : w'.countedOn = w.countedOn) (hlive : w'.live = w.live)
    {service : σ} (hcounted : (w'.events service).counted = (w.events service).counted) :
    Balanced w w' service 0 := by
  rw [Balanced, hlabel, hlive, hcounted, Nat.add_zero]

omit [DecidableEq ι] in
lemma Balanced.trans {w'' : World ι σ} {service : σ} {m n : ℕ} (h : Balanced w w' service m)
    (h' : Balanced w' w'' service n) : Balanced w w'' service (m + n) := by
  unfold Balanced at *
  omega

lemma Inv.balanced_construct (h : Inv w) {d : ι} (hd : d ∉ w.live) (service service' : σ) :
    Balanced w ({ w with live := insert d w.live }.setDev d ⟨none, service'⟩) service 0 := by
  have hpc := h.pc_of_not_live hd
  have hlabel : ({ w with live := insert d w.live }.setDev d ⟨none, service'⟩ :
      World ι σ).countedOn = Function.update w.countedOn d none := by
    refine countedOn_eq_update ?_ (fun _ _ => rfl) (fun d' hne => Function.update_of_ne hne _ _)
      fun _ _ _ => rfl
    simp [World.countedOn, World.setDev, hpc, UsbDevice.openOn]
  have htally := tally_insert (Function.update w.countedOn d none) hd service
  rw [tally_congr (fun d' hd' => Function.update_of_ne (ne_of_mem_of_not_mem hd' hd) _ _),
    Function.update_self] at htally
  rw [Balanced, hlabel]
  simpa [World.setDev] using htally.symm

/-- `close` counts down for a device that is counted. -/
lemma Inv.balanced_close (h : Inv w) {d : ι} (hd : d ∈ w.live) (hpc : w.pc d = .idle)
    (opening : Bool) (service : σ) : Balanced w (w.close d opening) service 0 := by
  have hcountedOn : w.countedOn d = (w.dev d).openOn := by simp only [World.countedOn, hpc]
  cases hhandle : (w.dev d).handle with
  | none =>
    rw [UsbDevice.openOn_of_closed hhandle] at hcountedOn
    have hclose : w.close d opening = w.closeReturned d opening :=
      if_neg (by simp [UsbDevice.isOpen, hhandle])
    rw [hclose]
    apply balanced_of_same
    · rw [countedOn_closeReturned opening hhandle, ← hcountedOn, Function.update_eq_self]
    · rfl
    · rfl
  | some handle =>
    have hopen : (w.dev d).isOpen = true := by simp [UsbDevice.isOpen, hhandle]
    rw [UsbDevice.openOn_of_open hhandle] at hcountedOn
    have hpos := h.counted_pos hd hcountedOn
    have htally := tally_update w.countedOn hd none service
    rw [hcountedOn] at htally
    rw [Balanced, countedOn_close_open opening hopen, World.close, if_pos hopen]
    show ((w.notifyDevClosed (w.dev d).service).events service).counted +
        tally w.live w.countedOn service = (w.events service).counted +
          tally w.live (Function.update w.countedOn d none) service + 0
    rw [counted_notifyDevClosed]
    by_cases hs : (w.dev d).service = service
    · subst hs
      simp only [if_true, reduceCtorEq, if_false, Nat.add_zero] at htally ⊢
      omega
    · simp only [Option.some.injEq, hs, if_false, reduceCtorEq, Nat.add_zero] at htally ⊢
      omega

/-- `notify_dev_opened` counts up when its device becomes counted. -/
lemma Inv.balanced_notified (h : Inv w) {d : ι} {e : EventThread.State ι}
    (hpc : w.pc d = .notifyDevOpened)
    (hstep : EventThread.step (w.events (w.dev d).service) (.notifyDevOpened d) = some e)
    (service : σ) : Balanced w (w.notified d e) service 0 := by
  have hd : d ∈ w.live := h.used d (by simp [hpc])
  obtain ⟨handle, hhandle⟩ := Option.ne_none_iff_exists'.mp (h.stored hpc)
  have hbefore : w.countedOn d = if hasCounted ((w.events (w.dev d).service).opener d) then
      (w.dev d).openOn else none := by
    simp only [World.countedOn, hpc]
  have hafter := countedOn_notified hstep
  rw [UsbDevice.openOn_of_open hhandle] at hbefore hafter
  -- a step of the caller that counts is the one after which its device is counted
  obtain ⟨pc, -, ⟨hsame, -⟩ | ⟨hmore, -, hnot⟩⟩ := opener_step hstep
  · simp only [hsame, ne_eq, not_true_eq_false, or_false, ← hbefore] at hafter
    apply balanced_of_same
    · rw [hafter, Function.update_eq_self]
    · rfl
    · exact counted_setEvents hsame service
  · simp only [hmore, ne_eq, Nat.add_eq_left, one_ne_zero, not_false_eq_true, or_true,
      if_true] at hafter
    rw [if_neg hnot] at hbefore
    have htally := tally_update w.countedOn hd (some (w.dev d).service) service
    rw [hbefore] at htally
    rw [Balanced, hafter]
    show ((w.setEvents (w.dev d).service e).events service).counted +
        tally w.live w.countedOn service = (w.events service).counted +
          tally w.live (Function.update w.countedOn d (some (w.dev d).service)) service + 0
    by_cases hs : service = (w.dev d).service
    · subst hs
      rw [World.setEvents_self, hmore]
      simp only [reduceCtorEq, if_false, if_true, Nat.add_zero] at htally
      omega
    · rw [World.setEvents_of_ne _ hs]
      simp only [Option.some.injEq, Ne.symm hs, reduceCtorEq, if_false, Nat.add_zero] at htally
      rw [htally, Nat.add_zero]

/-- A move forgets the device that its target held. -/
lemma balanced_handOver {d src : ι} (hd : d ∈ w.live) (hsrc : src ∈ w.live) (hne : d ≠ src)
    (hpc : w.pc d = .idle) (hpc' : w.pc src = .idle) (service : σ) :
    Balanced w (w.handOver d src) service (if w.countedOn d = some service then 1 else 0) := by
  have hdrop := tally_update w.countedOn hsrc none service
  have htake := tally_update (Function.update w.countedOn src none) hd (w.countedOn src) service
  rw [Function.update_of_ne hne] at htake
  simp only [reduceCtorEq, if_false, Nat.add_zero] at hdrop
  rw [Balanced, countedOn_handOver hne hpc hpc']
  show (w.events service).counted + _ = (w.events service).counted + tally w.live _ service + _
  omega

lemma Inv.balanced_moveConstruct (h : Inv w) {d src : ι} (hd : d ∉ w.live) (hsrc : src ∈ w.live)
    (hpc : w.pc src = .idle) (service : σ) :
    Balanced w ({ w with live := insert d w.live }.handOver d src) service 0 := by
  have hne : d ≠ src := (ne_of_mem_of_not_mem hsrc hd).symm
  have hconstruct := h.balanced_construct hd service (w.dev src).service
  have hpcd := h.pc_of_not_live hd
  set w₁ : World ι σ := { w with live := insert d w.live }.setDev d ⟨none, (w.dev src).service⟩
    with hw₁
  have hmove := balanced_handOver (w := w₁) (Finset.mem_insert_self d w.live)
    (Finset.mem_insert_of_mem hsrc) hne hpcd hpc service
  have hnone : w₁.countedOn d = none := by
    simp [hw₁, World.countedOn, World.setDev, hpcd, UsbDevice.openOn]
  have hsame : w₁.handOver d src = { w with live := insert d w.live }.handOver d src := by
    simp only [World.handOver, hw₁, World.setDev, Function.update_of_ne hne.symm]
    rw [Function.update_comm hne, Function.update_idem]
  rw [hnone, hsame] at hmove
  exact hconstruct.trans hmove

lemma balanced_destroy {d : ι} (hd : d ∈ w.live) (service : σ) :
    Balanced w { w with live := w.live.erase d } service
      (if w.countedOn d = some service then 1 else 0) := by
  have htally := tally_eq_erase w.countedOn hd service
  rw [Balanced, htally, Nat.add_assoc]
  rfl

/-- What a counter goes up or down by is what the devices it counts do, except that nobody counts
down for an open device that is destroyed or assigned to. -/
lemma Inv.balanced_step (h : Inv w) {a : Action ι σ} (ht : step w a = some w') (service : σ) :
    ∃ lost, Balanced w w' service lost ∧ (ClosesFirst w a → lost = 0) := by
  have hidle : ∀ d, w.pc d = .idle → (w.dev d).handle = none →
      (if w.countedOn d = some service then 1 else 0) = 0 := by
    intro d hpc hclosed
    simp [World.countedOn, hpc, UsbDevice.openOn_of_closed hclosed]
  -- only a destructor and a move assignment lose a device that is counted
  cases Rule.of_step ht with
  | service a service' e ha =>
    obtain ⟨hcounted, hopener⟩ : e.counted = (w.events service').counted ∧
        e.opener = (w.events service').opener := by
      rcases ha with ⟨-, he⟩ | ⟨-, he⟩
      · exact frame_service (.inl rfl) he
      · exact frame_service (.inr rfl) he
    exact ⟨0, balanced_of_same (countedOn_setEvents hopener) rfl
      (counted_setEvents hcounted service), fun _ => rfl⟩
  | construct d service' hd => exact ⟨0, h.balanced_construct hd service service', fun _ => rfl⟩
  | close a d opening hd hpc ha =>
    exact ⟨0, h.balanced_close hd hpc opening service, fun _ => rfl⟩
  | resetHandle d opening hpc =>
    have hnone : w.countedOn d = none := by simp only [World.countedOn, hpc]
    have hlabel : (w.resetHandle d opening).countedOn = w.countedOn := by
      rw [countedOn_resetHandle, ← hnone, Function.update_eq_self]
    exact ⟨0, balanced_of_same hlabel rfl rfl, fun _ => rfl⟩
  | libusbOpen d retCode handle hpc =>
    have hnone : w.countedOn d = none := by simp only [World.countedOn, hpc]
    have hlabel : (w.libusbOpen d retCode handle).countedOn = w.countedOn := by
      rw [h.countedOn_libusbOpen hpc, ← hnone, Function.update_eq_self]
    have hrest : (w.libusbOpen d retCode handle).live = w.live ∧
        (w.libusbOpen d retCode handle).events = w.events := by
      unfold World.libusbOpen
      split_ifs <;> exact ⟨rfl, rfl⟩
    exact ⟨0, balanced_of_same hlabel hrest.1 (by rw [hrest.2]), fun _ => rfl⟩
  | notifyDevOpened d e hpc hstep => exact ⟨0, h.balanced_notified hpc hstep service, fun _ => rfl⟩
  | moveConstruct d src hd hsrc hpc =>
    exact ⟨0, h.balanced_moveConstruct hd hsrc hpc service, fun _ => rfl⟩
  | moveSelf d => exact ⟨0, balanced_of_same rfl rfl rfl, fun _ => rfl⟩
  | moveAssign d src hd hsrc hpc hpc' hne =>
    refine ⟨_, balanced_handOver hd hsrc hne hpc hpc' service, ?_⟩
    intro hfirst
    exact hidle d hpc (hfirst.resolve_left hne)
  | destroy d hd hpc => exact ⟨_, balanced_destroy hd service, hidle d hpc⟩

/-! ### One step -/

/-- The event threads and the callers of `notify_dev_opened` only take steps of their own. -/
lemma Inv.events_step (h : Inv w) {a : Action ι σ} (ht : step w a = some w') (service : σ) :
    EventThread.Inv (w'.events service) := by
  have hset : ∀ (service' : σ) (e : EventThread.State ι), EventThread.Inv e →
      EventThread.Inv ((w.setEvents service' e).events service) := by
    intro service' e he
    by_cases hs : service = service'
    · rwa [hs, World.setEvents_self]
    · rw [World.setEvents_of_ne _ hs]
      exact h.events service
  cases Rule.of_step ht with
  | service a service' e ha =>
    refine hset service' e ?_
    rcases ha with ⟨-, he⟩ | ⟨-, he⟩ <;> exact EventThread.inv_step (h.events service') he
  | close a d opening hd hpc ha =>
    unfold World.close
    split_ifs with hopen
    · obtain ⟨handle, hhandle⟩ := Option.isSome_iff_exists.mp hopen
      have hpos : 0 < (w.events (w.dev d).service).counted :=
        h.counted_pos hd (by simp [World.countedOn, hpc, UsbDevice.openOn_of_open hhandle])
      refine hset _ _ (EventThread.inv_step (a := .notifyDevClosed) (h.events (w.dev d).service) ?_)
      simp only [EventThread.step, if_pos hpos]
    · exact h.events service
  | notifyDevOpened d e hpc hstep =>
    exact hset _ e (EventThread.inv_step (h.events _) hstep)
  | libusbOpen d retCode handle hpc =>
    unfold World.libusbOpen
    split_ifs <;> exact h.events service
  | construct | resetHandle | moveConstruct | moveSelf | moveAssign | destroy =>
    exact h.events service

/-- The objects that are used live. -/
lemma Inv.used_step (h : Inv w) {a : Action ι σ} (ht : step w a = some w') {d : ι}
    (hd : w'.pc d ≠ .idle) : d ∈ w'.live := by
  have hset : ∀ (d' : ι) (pc : DevicePc), d' ∈ w.live →
      Function.update w.pc d' pc d ≠ .idle → d ∈ w.live := by
    intro d' pc hd' hne
    by_cases hdd : d = d'
    · rwa [hdd]
    · rw [Function.update_of_ne hdd] at hne
      exact h.used d hne
  cases Rule.of_step ht with
  | service | moveSelf | moveAssign => exact h.used d hd
  | construct | moveConstruct => exact Finset.mem_insert_of_mem (h.used d hd)
  | close a d' opening hd' =>
    revert hd
    unfold World.close
    split_ifs <;> exact hset d' _ hd'
  | resetHandle d' opening hpc => exact hset d' _ (h.used d' (by simp [hpc])) hd
  | libusbOpen d' retCode handle hpc =>
    revert hd
    unfold World.libusbOpen
    split_ifs <;> exact hset d' _ (h.used d' (by simp [hpc]))
  | notifyDevOpened d' e hpc => exact hset d' _ (h.used d' (by simp [hpc])) hd
  | destroy d' hd' hpc =>
    refine Finset.mem_erase.mpr ⟨?_, h.used d hd⟩
    rintro rfl
    exact hd hpc

omit [DecidableEq σ] in
/-- At rest, an object may hold anything. -/
lemma suits_of_idle (h : ∀ d, (w.pc d).Suits (w.dev d).handle) {d d' : ι} (x : UsbDevice σ)
    (hpc : w.pc d' = .idle) : (w.pc d).Suits (Function.update w.dev d' x d).handle := by
  by_cases hd : d = d'
  · rw [hd, hpc]
    trivial
  · rw [Function.update_of_ne hd]
    exact h d

lemma Inv.suits_step (h : Inv w) {a : Action ι σ} (ht : step w a = some w') (d : ι) :
    (w'.pc d).Suits (w'.dev d).handle := by
  have hset : ∀ (d' : ι) (x : UsbDevice σ) (pc : DevicePc), pc.Suits x.handle →
      (Function.update w.pc d' pc d).Suits (Function.update w.dev d' x d).handle := by
    intro d' x pc hsuits
    by_cases hdd : d = d'
    · rwa [hdd, Function.update_self, Function.update_self]
    · rw [Function.update_of_ne hdd, Function.update_of_ne hdd]
      exact h.suits d
  have hpc : ∀ (d' : ι) (pc : DevicePc), pc.Suits (w.dev d').handle →
      (Function.update w.pc d' pc d).Suits (w.dev d).handle := by
    intro d' pc hsuits
    have hsuits' := hset d' (w.dev d') pc hsuits
    rwa [Function.update_eq_self] at hsuits'
  have hmove : ∀ d' src, w.pc d' = .idle → w.pc src = .idle →
      (w.pc d).Suits ((w.handOver d' src).dev d).handle := by
    intro d' src hd' hsrc
    exact suits_of_idle (w := w.setDev src _) (fun _ => suits_of_idle h.suits _ hsrc) _ hd'
  -- the handle is null on the way to `libusb_open` and stored on the way from it
  cases Rule.of_step ht with
  | service | moveSelf | destroy => exact h.suits d
  | construct d' service hd' => exact suits_of_idle h.suits _ (h.pc_of_not_live hd')
  | close a d' opening hd' =>
    unfold World.close
    split_ifs with hopen
    · exact hpc d' _ trivial
    · have hclosed : (w.dev d').handle = none := by simpa [UsbDevice.isOpen] using hopen
      cases opening
      · exact hpc d' .idle trivial
      · exact hpc d' .libusbOpen hclosed
  | resetHandle d' opening =>
    cases opening
    · exact hset d' _ .idle trivial
    · exact hset d' _ .libusbOpen rfl
  | libusbOpen d' retCode handle =>
    unfold World.libusbOpen
    split_ifs
    · exact hpc d' .idle trivial
    · exact hset d' ⟨some handle, _⟩ .notifyDevOpened (by simp [DevicePc.Suits])
  | notifyDevOpened d' e hpc' =>
    refine hpc d' _ ?_
    split_ifs
    · trivial
    · exact h.stored hpc'
  | moveConstruct d' src hd' hsrc hpc' => exact hmove d' src (h.pc_of_not_live hd') hpc'
  | moveAssign d' src hd' hsrc hpc' hpc'' => exact hmove d' src hpc' hpc''

/-- The callers of `notify_dev_opened` are where their objects are. -/
lemma Inv.inside_step (h : Inv w) {a : Action ι σ} (ht : step w a = some w') {d : ι} {service : σ}
    (hne : (w'.events service).opener d ≠ .idle) :
    w'.pc d = .notifyDevOpened ∧ (w'.dev d).service = service := by
  -- an object that is not inside stays where it was
  have hother : ∀ d', w.pc d' ≠ .notifyDevOpened → (w.events service).opener d ≠ .idle →
      d ≠ d' ∧ w.pc d = .notifyDevOpened ∧ (w.dev d).service = service := by
    intro d' hd' hop
    obtain ⟨hpc, hservice⟩ := h.inside d service hop
    refine ⟨?_, hpc, hservice⟩
    rintro rfl
    exact hd' hpc
  cases Rule.of_step ht with
  | service a service' e ha =>
    have hopener : e.opener = (w.events service').opener := by
      rcases ha with ⟨-, he⟩ | ⟨-, he⟩
      · exact (frame_service (.inl rfl) he).2
      · exact (frame_service (.inr rfl) he).2
    rw [opener_setEvents (congrFun hopener d)] at hne
    exact h.inside d service hne
  | moveSelf | destroy => exact h.inside d service hne
  | construct d' service' hd' =>
    obtain ⟨hdd, hpc, hservice⟩ := hother d' (by simp [h.pc_of_not_live hd']) hne
    simp [World.setDev, hdd, hpc, hservice]
  | close a d' opening hd' hpc' =>
    have hsame : ((w.close d' opening).events service).opener = (w.events service).opener := by
      unfold World.close
      split_ifs
      · exact opener_notifyDevClosed _ service
      · rfl
    rw [hsame] at hne
    obtain ⟨hdd, hpc, hservice⟩ := hother d' (by simp [hpc']) hne
    unfold World.close
    split_ifs <;> simp [World.setPc, World.closeReturned, World.notifyDevClosed, World.setEvents,
      hdd, hpc, hservice]
  | resetHandle d' opening hpc' =>
    obtain ⟨hdd, hpc, hservice⟩ := hother d' (by simp [hpc']) hne
    simp [World.resetHandle, World.closeReturned, World.setDev, World.setPc, hdd, hpc, hservice]
  | libusbOpen d' retCode handle hpc' =>
    have hsame : (w.libusbOpen d' retCode handle).events = w.events := by
      unfold World.libusbOpen
      split_ifs <;> rfl
    rw [hsame] at hne
    obtain ⟨hdd, hpc, hservice⟩ := hother d' (by simp [hpc']) hne
    unfold World.libusbOpen
    split_ifs <;> simp [World.setDev, World.setPc, hdd, hpc, hservice]
  | notifyDevOpened d' e hpc' hstep =>
    -- the object is inside as long as its caller is, and with its own service only
    obtain ⟨pc, hopener, -⟩ := opener_step hstep
    by_cases hdd : d = d'
    · subst hdd
      by_cases hs : service = (w.dev d).service
      · subst hs
        have hself : ((w.notified d e).events (w.dev d).service).opener d = e.opener d :=
          congrFun (congrArg _ (w.setEvents_self _ e)) d
        rw [hself] at hne
        simp [World.notified, World.setPc, World.setEvents, hne]
      · have hold : (w.notified d e).events service = w.events service := w.setEvents_of_ne hs e
        rw [hold] at hne
        exact absurd (h.inside d service hne).2.symm hs
    · have hold : ((w.notified d' e).events service).opener d = (w.events service).opener d :=
        opener_setEvents (by rw [hopener, Function.update_of_ne hdd]) service
      rw [hold] at hne
      obtain ⟨hpc, hservice⟩ := h.inside d service hne
      simp [World.notified, World.setPc, World.setEvents, hdd, hpc, hservice]
  | moveConstruct d' src hd' hsrc hpc' =>
    obtain ⟨hdd, hpc, hservice⟩ := hother d' (by simp [h.pc_of_not_live hd']) hne
    obtain ⟨hds, -⟩ := hother src (by simp [hpc']) hne
    simp [World.handOver, World.setDev, hdd, hds, hpc, hservice]
  | moveAssign d' src hd' hsrc hpc' hpc'' =>
    obtain ⟨hdd, hpc, hservice⟩ := hother d' (by simp [hpc']) hne
    obtain ⟨hds, -⟩ := hother src (by simp [hpc'']) hne
    simp [World.handOver, World.setDev, hdd, hds, hpc, hservice]

lemma inv_step {a : Action ι σ} (h : Inv w) (ht : step w a = some w') : Inv w' where
  events := h.events_step ht
  used := fun _ hd => h.used_step ht hd
  inside := fun _ _ hne => h.inside_step ht hne
  suits := h.suits_step ht
  counted := by
    intro service
    obtain ⟨lost, hbalanced, -⟩ := h.balanced_step ht service
    have hcounted := h.counted service
    unfold Balanced at hbalanced
    omega

omit [DecidableEq ι] in
/-- A device that is being closed is counted. -/
lemma Inv.noUnderflow (h : Inv w) {d : ι} (hd : d ∈ w.live) (hpc : w.pc d = .idle)
    (hopen : (w.dev d).isOpen = true) : 0 < (w.events (w.dev d).service).openDevices := by
  obtain ⟨handle, hhandle⟩ := Option.isSome_iff_exists.mp hopen
  rw [(h.events _).counted]
  refine h.counted_pos hd ?_
  simp [World.countedOn, hpc, UsbDevice.openOn_of_open hhandle]

/-- The counters count nothing but devices that are open. -/
def Tight (w : World ι σ) : Prop :=
  ∀ service, tally w.live w.countedOn service = (w.events service).counted

omit [DecidableEq ι] in
lemma Inv.exact (h : Inv w) (htight : Tight w) : Exact w := by
  intro hidle service
  have hsame : w.atRestOn = w.countedOn := by
    funext d
    simp [World.atRestOn, World.countedOn, hidle d]
  rw [(h.events service).counted, hsame, htight service]

/-! ### All runs -/

/-- Whatever the program does with its devices and in whatever order the threads move, the event
thread of an open device does not sleep, and no counter is decremented at 0. Where only closed
objects are destroyed and assigned to, the counters are right. -/
theorem watched_always (dev : ι → UsbDevice σ) (as : List (Action ι σ)) :
    Always step Watched (init dev) as ∧ Along step NoUnderflow (init dev) as ∧
      (Along step ClosesFirst (init dev) as → Always step Exact (init dev) as) := by
  refine ⟨?_, ?_, ?_⟩
  · exact always_of_preserved (fun _ _ _ h ht => inv_step h ht) (fun _ h => h.watched)
      (inv_init dev) as
  · refine along_of_preserved (fun _ _ _ h ht => inv_step h ht) ?_ (inv_init dev) as
    intro w a w' h ht
    cases Rule.of_step ht with
    | close _ d _ hd hpc ha =>
      rcases ha with rfl | rfl <;> exact h.noUnderflow hd hpc
    | service _ _ _ ha =>
      rcases ha with ⟨rfl, -⟩ | ⟨rfl, -⟩ <;> trivial
    | construct | resetHandle | libusbOpen | notifyDevOpened | moveConstruct | moveSelf
    | moveAssign | destroy => trivial
  · intro hfirst
    refine always_of_invariant (I := fun w => Inv w ∧ Tight w) ?_ (fun _ h => h.1.exact h.2)
      ⟨inv_init dev, fun _ => rfl⟩ hfirst
    intro w a w' h hc ht
    refine ⟨inv_step h.1 ht, ?_⟩
    intro service
    obtain ⟨lost, hbalanced, hlost⟩ := h.1.balanced_step ht service
    have htight := h.2 service
    rw [Balanced, hlost hc] at hbalanced
    omega

/-- Two threads open a device each while the event thread sleeps, and one of them closes it. -/
theorem watched_always_two_devices :
    let handle : DeviceHandle := ⟨4096, by decide, by decide⟩
    let handle' : DeviceHandle := ⟨8192, by decide, by decide⟩
    let as : List (Action ℕ Unit) := [.construct 0 (), .construct 1 (), .event (), .event (),
      .event (), .event (), .open 0, .open 1, .libusbOpen 0 0 handle, .libusbOpen 1 0 handle',
      .notifyDevOpened 0, .notifyDevOpened 1, .notifyDevOpened 0, .notifyDevOpened 0,
      .notifyDevOpened 0, .notifyDevOpened 1, .notifyDevOpened 1, .notifyDevOpened 1,
      .notifyDevOpened 0, .close 1, .resetHandle 1]
    ∃ w, exec step (init fun _ => ⟨none, ()⟩) as = some w ∧ Exact w := by
  intro handle handle' as
  obtain ⟨w, hw⟩ := Option.isSome_iff_exists.mp
    (show (exec step (init fun _ => ⟨none, ()⟩) as).isSome = true by decide)
  exact ⟨w, hw, ((watched_always _ as).2.2 (by decide)).last hw⟩

end UsbAsio.Device.EventLoop
