import UsbAsio.FromReadme.Basic

/-!
# What the program owns

Device handles, claims, transfers and their contexts are used and released only while they are
held, and so are the references on devices. What is held is at every moment what the variables of
the coroutine own, so that in the end nothing is left but a claim that libusb has refused to
release.
-/

namespace UsbAsio.FromReadme

open Effects Interface Ledger Overloads

/-! ### The books -/

/-- A null pointer is `none`, and nothing that can be held. -/
inductive Resource where
  | handle (handle : Option DeviceHandle)
  | claim (handle : Option DeviceHandle) (number : UInt8)
  | transfer (transfer : Option TransferPtr)
  | context
  deriving DecidableEq

/-- What a call does, latest first. -/
def libusbEvents : LibusbCall × Overloads.Answer → List (Event Resource)
  | (.open _, answer) =>
    if answer.retCode < 0 then [] else [.acquire (.handle (some answer.handle))]
  | (.close handle, _) => [.release (.handle (some handle))]
  | (.claimInterface handle number, answer) =>
    if answer.retCode < 0 then [.use (.handle handle)]
    else [.acquire (.claim handle number), .use (.handle handle)]
  | (.releaseInterface handle number, answer) =>
    if answer.retCode < 0 then [.use (.claim handle number), .use (.handle handle)]
    else [.release (.claim handle number), .use (.handle handle)]
  | (.setInterfaceAltSetting handle number _, _) =>
    [.use (.claim handle number), .use (.handle handle)]
  | (.setConfiguration handle _, _) | (.clearHalt handle _, _) | (.resetDevice handle, _)
  | (.allocStreams handle _ _ _, _) | (.freeStreams handle _ _, _)
  | (.detachKernelDriver handle _, _) | (.attachKernelDriver handle _, _) =>
    [.use (.handle handle)]
  | (.cancelTransfer transfer, _) => [.use (.transfer transfer)]
  | (.getMaxIsoPacketSize _ _, _) | (.getDeviceDescriptor _, _) | (.getActiveConfigDescriptor _, _)
  | (.getConfigDescriptor _ _, _) | (.getConfigDescriptorByValue _ _, _) => []

/-- The handler is stored in the context, called and reset there. -/
def events : Call × Answer → List (Event Resource)
  | (.libusb c, answer) => libusbEvents (c, answer.libusb)
  | (.allocate .completionContext, answer) => if answer.memory then [.acquire .context] else []
  | (.allocate .handlerImpl, answer) => if answer.memory then [.use .context] else []
  | (.allocTransfer _, answer) =>
    answer.transfer.toList.map fun transfer => .acquire (.transfer (some transfer))
  | (.submitTransfer transfer fields _, _) =>
    [.use (.transfer transfer), .use (.handle fields.devHandle)]
  | (.completion, _) | (.resetHandler, _) => [.use .context]
  | (.freeContext, _) => [.release .context]
  | (.freeTransfer transfer, _) => [.release (.transfer (some transfer))]
  | (.list _, _) | (.allocate .usbService, _) | (.allocate .operation, _) | (.init, _)
  | (.eventThread, _) => []

/-- The devices that a call looks at. -/
def libusbRefs : LibusbCall × Overloads.Answer → List (Event DevicePtr)
  | (.open device, _) | (.getMaxIsoPacketSize device _, _) | (.getDeviceDescriptor device, _)
  | (.getActiveConfigDescriptor device, _) | (.getConfigDescriptor device _, _)
  | (.getConfigDescriptorByValue device _, _) => device.toList.map .use
  | _ => []

def refs : Call × Answer → List (Event DevicePtr)
  | (.list c, answer)   => DeviceList.callEvents (c, answer.list)
  | (.libusb c, answer) => libusbRefs (c, answer.libusb)
  | _                   => []

/-- The return codes of `libusb_open`. -/
def libusbOpens : LibusbCall × Overloads.Answer → List ℤ
  | (.open _, answer) => [answer.retCode]
  | _                 => []

def opens : Call × Answer → List ℤ
  | (.libusb c, answer) => libusbOpens (c, answer.libusb)
  | _                   => []

/-- The claims that libusb has refused to release. -/
def libusbRefusals : LibusbCall × Overloads.Answer → List Resource
  | (.releaseInterface handle number, answer) =>
    if answer.retCode < 0 then [.claim handle number] else []
  | _ => []

def refusals : Call × Answer → List Resource
  | (.libusb c, answer) => libusbRefusals (c, answer.libusb)
  | _                   => []

/-- The claims that libusb is asked to grant or to release. -/
def libusbAttempts : LibusbCall × Overloads.Answer → List Resource
  | (.claimInterface handle number, _) | (.releaseInterface handle number, _) =>
    [.claim handle number]
  | _ => []

def attempts : Call × Answer → List Resource
  | (.libusb c, answer) => libusbAttempts (c, answer.libusb)
  | _                   => []

/-- What there was no memory for. -/
def starved : Call × Answer → List Storage
  | (.allocate what, answer) => if answer.memory then [] else [what]
  | _                        => []

/-- That a transfer is destroyed before the event thread has left `completion_callback`. -/
def overtakes : Call × Answer → List Unit
  | (.eventThread, answer) => if answer.left then [] else [()]
  | _                      => []

/-! ### The property -/

/-- Everything that was held has been released, but for claims that libusb refuses to release, and
no device has failed to open. -/
structure Settled (m : Machine) : Prop where
  legal : Legal (m.log.flatMap events)
  refused : ∀ r ∈ held (m.log.flatMap events), r ∈ m.log.flatMap refusals
  lent : Lent (m.log.flatMap refs) []
  opened : ∀ retCode ∈ m.log.flatMap opens, 0 ≤ retCode

/-- Everything is in order, but the destructors do not run any more. -/
structure Interrupted (m : Machine) : Prop where
  legal : Legal (m.log.flatMap events)
  lent : ∃ infos, Lent (m.log.flatMap refs) infos

/-- A device has failed to open, and there was no interface yet. -/
structure OpenFailed (m : Machine) : Prop extends Interrupted m where
  failed : ∃ retCode ∈ m.log.flatMap opens, retCode < 0
  untouched : m.log.flatMap attempts = []

/-- There was no memory for an awaited operation. -/
structure Starved (m : Machine) : Prop extends Interrupted m where
  refused : .handlerImpl ∈ m.log.flatMap starved ∨ .operation ∈ m.log.flatMap starved

def Terminated (m : Machine) : Prop := OpenFailed m ∨ Starved m

/-- Everything that was held has been released, and the status tells if a device was opened. -/
structure Returned (status : ExitStatus) (m : Machine) : Prop extends Settled m where
  nothing : held (m.log.flatMap events) = ∅
  success_iff : status = .success ↔ m.log.flatMap opens ≠ []

/-- The ways in which the coroutine may end. -/
def Ends : EStateM.Result (Stop Exception) Machine ExitStatus → Prop
  | .ok status m          => Returned status m
  | .error (.thrown _) m => Settled m
  | .error .terminated m => Terminated m

/-! ### What the variables own -/

def Locals.Owns (x : Locals) : Resource → Prop
  | .handle handle       => handle.isSome ∧ x.dev.handle = handle
  | .claim handle number =>
    handle.isSome ∧ x.interface.deviceHandle = handle ∧ x.interface.number = number
  | .transfer transfer   => transfer.isSome ∧ x.transfer.handle = transfer
  | .context             => x.transfer.context

/-- No transfer has been destroyed before the event thread had left it. -/
def Timely (m : Machine) : Prop := m.log.flatMap overtakes = []

/-- What is held is what the variables own; the references are those of `infos`. -/
structure Books (infos : List DevicePtr) (m : Machine) : Prop where
  legal : Legal (m.log.flatMap events)
  held_iff : ∀ r, r ∈ held (m.log.flatMap events) ↔ m.object.Owns r
  lent : Lent (m.log.flatMap refs) infos
  opened : ∀ retCode ∈ m.log.flatMap opens, 0 ≤ retCode
  timely : Timely m

variable {infos : List DevicePtr} {m : Machine} {σ α : Type} {part : Part Locals σ}
  {m' : Overloads.Machine σ}

lemma events_widen : (inLibusb.widen part m m').log.flatMap events =
    m'.log.flatMap libusbEvents ++ m.log.flatMap events :=
  Embedding.flatMap_widen (fun _ _ => rfl) m'

lemma refs_widen : (inLibusb.widen part m m').log.flatMap refs =
    m'.log.flatMap libusbRefs ++ m.log.flatMap refs :=
  Embedding.flatMap_widen (fun _ _ => rfl) m'

lemma opens_widen : (inLibusb.widen part m m').log.flatMap opens =
    m'.log.flatMap libusbOpens ++ m.log.flatMap opens :=
  Embedding.flatMap_widen (fun _ _ => rfl) m'

lemma refusals_widen : (inLibusb.widen part m m').log.flatMap refusals =
    m'.log.flatMap libusbRefusals ++ m.log.flatMap refusals :=
  Embedding.flatMap_widen (fun _ _ => rfl) m'

lemma attempts_widen : (inLibusb.widen part m m').log.flatMap attempts =
    m'.log.flatMap libusbAttempts ++ m.log.flatMap attempts :=
  Embedding.flatMap_widen (fun _ _ => rfl) m'

lemma Timely.widen (h : Timely m) : Timely (inLibusb.widen part m m') := by
  rw [Timely, Embedding.flatMap_widen (g := fun _ => []) fun _ _ => rfl, h]
  simp

/-- After calls of libusb that do `es`, look at `rs` and open with the return codes `os`. -/
lemma Books.widen {infos' : List DevicePtr} {es : List (Event Resource)}
    {rs : List (Event DevicePtr)} {os : List ℤ} (h : Books infos' m)
    (hes : m'.log.flatMap libusbEvents = es) (hrs : m'.log.flatMap libusbRefs = rs)
    (hos : m'.log.flatMap libusbOpens = os) (hlegal : Legal (es ++ m.log.flatMap events))
    (hheld : ∀ r, r ∈ held (es ++ m.log.flatMap events) ↔ (part.set m.object m'.object).Owns r)
    (hlent : Lent (rs ++ m.log.flatMap refs) infos) (hopened : ∀ retCode ∈ os, 0 ≤ retCode) :
    Books infos (inLibusb.widen part m m') := by
  refine ⟨?_, ?_, ?_, ?_, h.timely.widen⟩
  · rwa [events_widen, hes]
  · rwa [events_widen, hes]
  · rwa [refs_widen, hrs]
  · rw [opens_widen, hos]
    intro retCode hmem
    exact (List.mem_append.mp hmem).elim (hopened retCode) (h.opened retCode)

/-! ### What lasts -/

/-- What is known of the calls so far, and will be known whatever is called next. -/
def Lasting (P : Machine → Prop) : Prop := ∀ m m', m.log <:+ m'.log → P m → P m'

/-- Something has been used or released that was not held, and `f` tells of what led there. -/
structure Broken {β : Type} (f : Call × Answer → List β) (m : Machine) : Prop where
  illegal : ¬ Legal (m.log.flatMap events)
  shown : m.log.flatMap f ≠ []

lemma lasting_broken {β : Type} (f : Call × Answer → List β) : Lasting (Broken f) := by
  rintro m m' ⟨later, hlater⟩ h
  refine ⟨fun hlegal => h.illegal ?_, ?_⟩
  · rw [← hlater, List.flatMap_append] at hlegal
    exact hlegal.of_append
  · rw [← hlater, List.flatMap_append]
    exact List.append_ne_nil_of_right_ne_nil _ h.shown

section Lasting

variable {P : Machine → Prop}

lemma Lasting.within (hP : Lasting P) (p : Overloads.Program σ α) :
    Ensures P (inLibusb.within part p) (fun _ => P) (fun _ => P) := by
  refine .within fun m hm => ?_
  cases p.run (inLibusb.narrow part m) with
  | ok a n => exact hP m _ (List.suffix_append _ _) hm
  | error s n => exact hP m _ (List.suffix_append _ _) hm

lemma Lasting.call (hP : Lasting P) (c : Call) :
    Ensures P (call c : Program Answer) (fun _ => P) (fun _ => P) :=
  .call _ fun m hm => hP m _ (List.suffix_cons _ _) hm

lemma Lasting.modifyObject (hP : Lasting P) (f : Locals → Locals) :
    Ensures P (modifyObject f : Program Unit) (fun _ => P) (fun _ => P) :=
  .modifyObject _ fun m hm => hP m _ List.suffix_rfl hm

end Lasting

/-! ### The devices -/

/-- An exception leaves what `D` says, and the end of the process what `T` says. -/
def Stopped (T D : Machine → Prop) : Stop Exception → Machine → Prop
  | .thrown _   => D
  | .terminated => fun m => T m ∧ Timely m

lemma Stopped.mono {T D D' : Machine → Prop} (h : ∀ m, D m → D' m) :
    ∀ s m, Stopped T D s m → Stopped T D' s m
  | .thrown _, m, hm   => h m hm
  | .terminated, _, hm => hm

/-- Without `interface`, whose storage may hold anything. -/
def unbuilt (m : Machine) : Machine :=
  { m with object := { m.object with interface := ⟨none, 0⟩ } }

/-- There is nothing but `dev` and the devices that are looked through. -/
structure Looking (infos : List DevicePtr) (m : Machine) : Prop where
  books : Books infos (unbuilt m)
  unallocated : m.object.transfer = .none
  found : m.log.flatMap opens ≠ [] ↔ m.object.dev.handle.isSome

/-- Nothing has been done with an interface, and its storage holds `deviceHandle`. -/
structure Before (deviceHandle : Option DeviceHandle) (infos : List DevicePtr) (m : Machine) :
    Prop extends Looking infos m where
  untouched : m.log.flatMap attempts = []
  stored : m.object.interface.deviceHandle = deviceHandle

/-- Without a claim and a transfer, there is only the handle. -/
lemma Locals.owns_iff {x : Locals} {r : Resource} (hunclaimed : x.interface.deviceHandle = none)
    (hunallocated : x.transfer = .none) :
    x.Owns r ↔ ∃ handle, x.dev.handle = some handle ∧ r = .handle (some handle) := by
  cases r with
  | handle handle => cases handle <;> simp [Locals.Owns]
  | claim handle number => cases handle <;> simp [Locals.Owns, hunclaimed]
  | transfer transfer => cases transfer <;> simp [Locals.Owns, hunallocated, InBulkTransfer.none]
  | context => simp [Locals.Owns, hunallocated, InBulkTransfer.none]

lemma Looking.mem_held_iff (h : Looking infos m) {r : Resource} :
    r ∈ held (m.log.flatMap events) ↔
      ∃ handle, m.object.dev.handle = some handle ∧ r = .handle (some handle) :=
  (h.books.held_iff r).trans (Locals.owns_iff rfl h.unallocated)

/-- What `handle_.reset()` does. -/
def closing (handle : Option DeviceHandle) : List (Event Resource) :=
  handle.toList.map fun handle => .release (.handle (some handle))

lemma run_close (m : Machine) : ∃ m₁,
    DeviceObject.close.run (inLibusb.narrow devPart m) = .ok () m₁ ∧ m₁.object.handle = none ∧
    m₁.log.flatMap libusbEvents = closing m.object.dev.handle ∧
    m₁.log.flatMap libusbRefs = [] ∧ m₁.log.flatMap libusbOpens = [] ∧
    m₁.log.flatMap libusbAttempts = [] := by
  cases h : m.object.dev.handle with
  | none => exact ⟨_, DeviceObject.run_close_of_closed h, h, rfl, rfl, rfl, rfl⟩
  | some handle => exact ⟨_, DeviceObject.run_close_of_open h, rfl, rfl, rfl, rfl, rfl⟩

lemma Books.legal_closing (h : Books infos m) :
    Legal (closing m.object.dev.handle ++ m.log.flatMap events) := by
  cases hdev : m.object.dev.handle with
  | none => exact h.legal
  | some handle => exact ⟨(h.held_iff _).mpr ⟨rfl, hdev⟩, h.legal⟩

lemma Books.mem_held_closing (h : Books infos m) {r : Resource}
    (hr : r ∈ held (closing m.object.dev.handle ++ m.log.flatMap events)) :
    r ∈ held (m.log.flatMap events) ∧ r ≠ .handle m.object.dev.handle := by
  cases hdev : m.object.dev.handle with
  | none =>
    rw [hdev] at hr
    refine ⟨hr, fun hnull => ?_⟩
    obtain ⟨hsome, -⟩ := (h.held_iff _).mp (hnull ▸ hr)
    cases hsome
  | some handle =>
    rw [hdev] at hr
    exact (Finset.mem_erase.mp hr).symm

/-- With the handle, everything has gone. -/
lemma Looking.held_closing (h : Looking infos m) :
    held (closing m.object.dev.handle ++ m.log.flatMap events) = ∅ := by
  refine Finset.eq_empty_of_forall_notMem fun r hr => ?_
  obtain ⟨hr, hne⟩ := h.books.mem_held_closing hr
  obtain ⟨handle, hdev, rfl⟩ := h.mem_held_iff.mp hr
  exact hne (congrArg Resource.handle hdev.symm)

lemma OpenFailed.widen {es : List (Event Resource)} {rs : List (Event DevicePtr)} {os : List ℤ}
    (hes : m'.log.flatMap libusbEvents = es) (hrs : m'.log.flatMap libusbRefs = rs)
    (hos : m'.log.flatMap libusbOpens = os) (hlegal : Legal (es ++ m.log.flatMap events))
    (hlent : Lent (rs ++ m.log.flatMap refs) infos) (hfailed : ∃ retCode ∈ os, retCode < 0)
    (hattempts : m'.log.flatMap libusbAttempts = []) (huntouched : m.log.flatMap attempts = []) :
    OpenFailed (inLibusb.widen part m m') := by
  refine ⟨⟨?_, ⟨infos, ?_⟩⟩, ?_, ?_⟩
  · rwa [events_widen, hes]
  · rwa [refs_widen, hrs]
  · obtain ⟨retCode, hmem, hret⟩ := hfailed
    rw [opens_widen, hos]
    exact ⟨retCode, List.mem_append_left _ hmem, hret⟩
  · rw [attempts_widen, hattempts, huntouched]
    rfl

variable {deviceHandle : Option DeviceHandle}

/-- A device that cannot be opened ends the process; otherwise `dev` has been opened anew. -/
lemma ensures_open {info : DevicePtr} (hmem : info ∈ infos) :
    Ensures (Before deviceHandle infos) (inLibusb.within devPart (DeviceObject.open (some info)))
      (fun _ => Before deviceHandle infos) (Stopped OpenFailed (Before deviceHandle infos)) := by
  refine .within fun m hm => ?_
  obtain ⟨m₁, hclose, hclosed, hevents, hrefs, hopens, hattempts⟩ := run_close m
  have hopen := DeviceObject.run_open (some info) .clear hclose hclosed
  have hissued : (issue m₁ (.open (some info))).log.flatMap libusbEvents =
      (if nextRet m₁ < 0 then []
        else [.acquire (.handle (some (m₁.answers m₁.log.length).handle))]) ++
        closing m.object.dev.handle := congrArg (_ ++ ·) hevents
  have hlent : Lent (.use info :: m.log.flatMap refs) infos := hm.books.lent.use hmem
  have hlegal : Legal (closing m.object.dev.handle ++ m.log.flatMap events) :=
    hm.books.legal_closing
  have htimely : Timely m := hm.books.timely
  -- `close` has closed what was open; now the handle is null, or that of `info`
  rcases lt_or_ge (nextRet m₁) 0 with hret | hret
  · rw [if_pos hret] at hissued
    have hthrow := run_noexcept_of_error (run_tryWithEc_of_error hopen (by simpa using hret))
    rw [DeviceObject.open, hthrow]
    exact ⟨.widen hissued (congrArg (_ ++ ·) hrefs) (congrArg (_ ++ ·) hopens) hlegal hlent
      ⟨_, List.mem_cons_self, hret⟩ hattempts hm.untouched, htimely.widen⟩
  · rw [if_neg hret.not_gt] at hissued
    have hreturn := run_noexcept_of_ok (run_tryWithEc_of_clear hopen (by simpa using hret))
    rw [DeviceObject.open, hreturn, if_neg hret.not_gt]
    have hbooks : Books infos (inLibusb.widen devPart (unbuilt m)
        { issue m₁ (.open (some info)) with object :=
            ⟨some (m₁.answers m₁.log.length).handle, .devOpened :: m₁.object.notices⟩ }) := by
      refine hm.books.widen hissued (congrArg (_ ++ ·) hrefs) (congrArg (_ ++ ·) hopens) hlegal
        (fun r => ?_) hlent (List.forall_mem_singleton.mpr hret)
      show r ∈ insert _ (held (closing m.object.dev.handle ++ m.log.flatMap events)) ↔ _
      rw [hm.held_closing, insert_empty_eq, Finset.mem_singleton]
      refine Iff.trans ?_ (Iff.symm (Locals.owns_iff rfl ?_))
      · exact ⟨fun h => ⟨_, rfl, h⟩, fun ⟨_, hsome, h⟩ => by cases hsome; exact h⟩
      · exact hm.unallocated
    refine ⟨⟨hbooks, hm.unallocated, ?_⟩, ?_, hm.stored⟩
    · rw [opens_widen]
      exact iff_of_true (List.cons_ne_nil _ _) rfl
    · rw [attempts_widen, hm.untouched, List.append_nil]
      exact hattempts

/-- A member that makes one call and leaves the object alone. -/
lemma ensures_callEc {c : σ → LibusbCall} {result : Overloads.Answer → ℕ → α} {P Q : Machine → Prop}
    (h : ∀ m answer, P m → Q (inLibusb.widen part m
      { inLibusb.narrow part m with log := [(c (part.get m.object), answer)] })) :
    Ensures P (inLibusb.within part (tryWithEc (callEc c result))) (fun _ => Q)
      (Stopped OpenFailed Q) := by
  refine .within fun m hm => ?_
  have hrun := run_callEc c result .clear (inLibusb.narrow part m)
  cases hec : (libusbTry (nextRet (inLibusb.narrow part m))).1.isError with
  | false =>
    rw [run_tryWithEc_of_clear hrun hec]
    exact h m _ hm
  | true =>
    rw [run_tryWithEc_of_error hrun hec]
    exact h m _ hm

lemma ensures_deviceDescriptor {info : DevicePtr} (hmem : info ∈ infos) :
    Ensures (fun m => Before deviceHandle infos m ∧ m.object.devInfo.handle = some info)
      (inLibusb.within devInfoPart DeviceInfo.deviceDescriptor)
      (fun _ => Before deviceHandle infos) (Stopped OpenFailed (Before deviceHandle infos)) := by
  refine ensures_callEc fun m answer ⟨hm, hinfo⟩ => ?_
  have hlooked : libusbRefs (.getDeviceDescriptor m.object.devInfo.handle, answer) =
      [.use info] := by rw [hinfo]; rfl
  have hbooks : Books infos (inLibusb.widen devInfoPart (unbuilt m)
      { inLibusb.narrow devInfoPart m with
        log := [(.getDeviceDescriptor m.object.devInfo.handle, answer)] }) :=
    hm.books.widen rfl ((List.append_nil _).trans hlooked) rfl hm.books.legal hm.books.held_iff
      (hm.books.lent.use hmem) nofun
  refine ⟨⟨hbooks, hm.unallocated, ?_⟩, ?_, hm.stored⟩
  · rw [opens_widen]
    exact hm.found
  · rw [attempts_widen]
    exact hm.untouched

/-- A device that has been looked at, and opened if it is the one. -/
lemma ensures_openMatching {info : DevicePtr} (hmem : info ∈ infos) :
    Ensures (Before deviceHandle infos) (openMatching info) (fun _ => Before deviceHandle infos)
      (Stopped OpenFailed (Before deviceHandle infos)) := by
  have hinfo : Ensures (Before deviceHandle infos)
      (modifyObject fun x => { x with devInfo := ⟨some info⟩ } : Program Unit)
      (fun _ m => Before deviceHandle infos m ∧ m.object.devInfo.handle = some info)
      (Stopped OpenFailed (Before deviceHandle infos)) :=
    .modifyObject _ fun m hm => ⟨⟨⟨⟨hm.books.legal, hm.books.held_iff, hm.books.lent,
      hm.books.opened, hm.books.timely⟩, hm.unallocated, hm.found⟩, hm.untouched, hm.stored⟩, rfl⟩
  refine hinfo.bind fun _ => (ensures_deviceDescriptor hmem).bind fun desc => .ite ?_ ?_
  · exact fun _ => ensures_open hmem
  · exact fun _ => .pure _ fun _ => id

/-! ### The list -/

/-- What `list_usb_devices` and the destructors of its result change. -/
lemma Before.list {infos' : List DevicePtr} {n : DeviceList.Machine DevicePtr BadAlloc}
    (h : Before deviceHandle infos' m)
    (hlent : Lent (n.log.flatMap DeviceList.callEvents ++ m.log.flatMap refs) infos) :
    Before deviceHandle infos (inList.widen devicesPart m n) := by
  have hsame : ∀ {β : Type} (f : Call × Answer → List β), (∀ c answer, f (.list c, answer) = []) →
      (inList.widen devicesPart m n).log.flatMap f = m.log.flatMap f := by
    intro β f hf
    rw [Embedding.flatMap_widen (g := fun _ => []) hf]
    simp
  have hevents := hsame events fun _ _ => rfl
  have hopens := hsame opens fun _ _ => rfl
  refine ⟨⟨⟨?_, ?_, ?_, ?_, ?_⟩, h.unallocated, ?_⟩, ?_, h.stored⟩
  · exact (congrArg Legal hevents).mpr h.books.legal
  · exact fun r => (iff_of_eq (congrArg (r ∈ held ·) hevents)).trans (h.books.held_iff r)
  · show Lent ((inList.widen devicesPart m n).log.flatMap refs) infos
    rw [Embedding.flatMap_widen (g := DeviceList.callEvents) fun _ _ => rfl]
    exact hlent
  · exact hopens ▸ h.books.opened
  · exact (hsame overtakes fun _ _ => rfl).trans h.books.timely
  · rw [hopens]
    exact h.found
  · rw [hsame attempts fun _ _ => rfl]
    exact h.untouched

lemma run_destroyInfos {rest : List (Event DevicePtr)} (n : DeviceList.Machine DevicePtr BadAlloc)
    (h : Lent (n.log.flatMap DeviceList.callEvents ++ rest) infos) :
    ∃ n', (DeviceList.destroyInfos infos).run n = .ok () n' ∧
      Lent (n'.log.flatMap DeviceList.callEvents ++ rest) [] := by
  induction infos generalizing n with
  | nil => exact ⟨n, rfl, h⟩
  | cons info infos ih => exact ih _ h.release

lemma ensures_destroyInfos {E : Stop Exception → Machine → Prop} :
    Ensures (Before deviceHandle infos) (inList.within devicesPart (DeviceList.destroyInfos infos))
      (fun _ => Before deviceHandle []) E := by
  refine .within fun m hm => ?_
  obtain ⟨n, hrun, hlent⟩ := run_destroyInfos (inList.narrow devicesPart m) hm.books.lent
  rw [hrun]
  exact hm.list hlent

lemma lent_of_balanced
    {log : List (DeviceList.Call DevicePtr × DeviceList.Answer DevicePtr BadAlloc)}
    (h : DeviceList.Balanced log infos) : Lent (log.flatMap DeviceList.callEvents) infos := by
  refine ⟨h.solvent, covered_of_forall fun p hp => ?_, h.counted⟩
  obtain ⟨⟨c, answer⟩, -, hp⟩ := List.mem_flatMap.mp hp
  cases c with
  | getDeviceList => simp [DeviceList.callEvents] at hp
  | allocate n => simp [DeviceList.callEvents] at hp
  | refPtr c => cases c <;> simp [DeviceList.callEvents, RefPtr.Call.event] at hp
  | freeDeviceList list unrefDevices => cases unrefDevices <;> simp [DeviceList.callEvents] at hp

/-- No device has been seen yet. -/
structure Starting (deviceHandle : Option DeviceHandle) (m : Machine) : Prop
    extends Before deviceHandle [] m where
  unseen : m.log.flatMap refs = []
  documented : ∀ i, DeviceList.Documented (m.answers i).list

/-- The result holds the references that are left, and an exception leaves none. -/
lemma meets_listUsbDevices (answers : ℕ → DeviceList.Answer DevicePtr BadAlloc)
    (x : DeviceList.Vector DevicePtr) (h : DeviceList.Documented (answers 0)) :
    Meets (fun infos n => DeviceList.Balanced n.log infos)
      (fun s n => (∃ e, s = .thrown e) ∧ DeviceList.Balanced n.log [])
      (DeviceList.listUsbDevices.run (.start answers x)) := by
  rw [DeviceList.listUsbDevices, DeviceList.tryWithEc]
  rcases lt_or_ge (answers 0).retCode 0 with hret | hret
  · rw [run_bind_of_ok (DeviceList.run_listUsbDevicesEc_of_failed answers x .clear h hret),
      isError_makeErrorCode hret]
    exact ⟨⟨_, rfl⟩, DeviceList.balanced_failed hret⟩
  · have hexit := DeviceList.exit_listUsbDevicesEc answers x .clear h
    generalize hrun : (DeviceList.listUsbDevicesEc .clear).run (.start answers x) = r at hexit
    cases hexit with
    | failed hfailed => exact absurd hret hfailed.not_ge
    | refused e _ he hfreed hbalanced =>
      rw [run_bind_of_error hrun]
      exact ⟨⟨_, rfl⟩, hbalanced⟩
    | listed _ hnone hfreed hbalanced =>
      rw [run_bind_of_ok hrun]
      exact hbalanced

lemma ensures_listUsbDevices :
    Ensures (Starting deviceHandle) (inList.within devicesPart DeviceList.listUsbDevices)
      (Before deviceHandle) (Stopped OpenFailed (Before deviceHandle [])) := by
  refine .within fun m hm => ?_
  refine (meets_listUsbDevices _ _ (hm.documented _)).mono (fun infos n hbalanced => ?_) ?_
  · refine hm.list ?_
    rw [hm.unseen, List.append_nil]
    exact lent_of_balanced hbalanced
  · rintro s n ⟨⟨e, rfl⟩, hbalanced⟩
    refine hm.list ?_
    rw [hm.unseen, List.append_nil]
    exact lent_of_balanced hbalanced

lemma ensures_openDevices :
    Ensures (Starting deviceHandle) openDevices (fun _ => Before deviceHandle [])
      (Stopped OpenFailed (Before deviceHandle [])) := by
  refine ensures_listUsbDevices.bind fun infos =>
    .withCleanup (D := Stopped OpenFailed (Before deviceHandle infos)) ?_
      (fun _ => ensures_destroyInfos) (fun _ => ensures_destroyInfos) (fun _ => id)
  exact .forM fun info hmem => ensures_openMatching hmem

end UsbAsio.FromReadme
