import UsbAsio.FromReadme.Ownership

/-!
# The life of the interface

What holds while the coroutine of the README has an interface, and what the constructor and the
destructor of the interface leave.
-/

namespace UsbAsio.FromReadme

open Effects Interface Ledger Overloads

variable {infos : List DevicePtr} {m : Machine} {σ α : Type} {part : Part Locals σ}
  {m' : Overloads.Machine σ}

/-! ### The interface -/

/-- While an open device is used: whether the interface is claimed, and what there is of the
transfer. -/
structure Using (claimed : Bool) (t : InBulkTransfer) (m : Machine) : Prop extends Books [] m where
  isOpen : m.object.dev.handle.isSome
  found : m.log.flatMap opens ≠ []
  deviceHandle_eq : m.object.interface.deviceHandle =
    if claimed then m.object.dev.handle else none
  transfer_eq : m.object.transfer = t

variable {claimed claimed' : Bool} {t t' : InBulkTransfer}

/-- An interface without a claim owns nothing, whatever its number is. -/
lemma books_unbuilt_iff (hunclaimed : m.object.interface.deviceHandle = none)
    (hunallocated : m.object.transfer = .none) :
    Books [] (unbuilt m) ↔ Books [] m := by
  have howns : ∀ r, (unbuilt m).object.Owns r ↔ m.object.Owns r := fun r =>
    (Locals.owns_iff (x := (unbuilt m).object) rfl hunallocated).trans
      (Locals.owns_iff hunclaimed hunallocated).symm
  exact ⟨fun h => ⟨h.legal, fun r => (h.held_iff r).trans (howns r), h.lent, h.opened, h.timely⟩,
    fun h => ⟨h.legal, fun r => (h.held_iff r).trans (howns r).symm, h.lent, h.opened, h.timely⟩⟩

lemma Using.looking (h : Using false .none m) : Looking [] m :=
  ⟨(books_unbuilt_iff h.deviceHandle_eq h.transfer_eq).mpr h.toBooks, h.transfer_eq,
    iff_of_true h.found h.isOpen⟩

/-- The device is open. -/
lemma Using.handle_mem (h : Using claimed t m) :
    .handle m.object.dev.handle ∈ held (m.log.flatMap events) :=
  (h.held_iff _).mpr ⟨h.isOpen, rfl⟩

lemma Using.claim_mem (h : Using true t m) :
    .claim m.object.interface.deviceHandle m.object.interface.number ∈
      held (m.log.flatMap events) := by
  refine (h.held_iff _).mpr ⟨?_, rfl, rfl⟩
  rw [h.deviceHandle_eq]
  exact h.isOpen

lemma Using.claim_handle_mem (h : Using true t m) :
    .handle m.object.interface.deviceHandle ∈ held (m.log.flatMap events) := by
  rw [h.deviceHandle_eq]
  exact h.handle_mem

/-- After calls of the interface. -/
lemma Using.interface {es : List (Event Resource)} {m' : Overloads.Machine UsbInterface}
    (h : Using claimed t m) (hes : m'.log.flatMap libusbEvents = es)
    (hrs : m'.log.flatMap libusbRefs = []) (hos : m'.log.flatMap libusbOpens = [])
    (hlegal : Legal (es ++ m.log.flatMap events))
    (hheld : ∀ r, r ∈ held (es ++ m.log.flatMap events) ↔
      Locals.Owns { m.object with interface := m'.object } r)
    (hclaimed : m'.object.deviceHandle = if claimed' then m.object.dev.handle else none) :
    Using claimed' t (inLibusb.widen interfacePart m m') := by
  refine ⟨h.toBooks.widen hes hrs hos hlegal hheld h.lent nofun, h.isOpen, ?_, hclaimed,
    h.transfer_eq⟩
  rw [opens_widen, hos]
  exact h.found

lemma Locals.owns_claimed {x : Locals} {device : Option DeviceHandle} {number : UInt8}
    {r : Resource} (hsome : device.isSome) (hunclaimed : x.interface.deviceHandle = none) :
    Locals.Owns { x with interface := ⟨device, number⟩ } r ↔
      r = .claim device number ∨ x.Owns r := by
  cases r with
  | handle handle => simp [Locals.Owns]
  | claim handle number' =>
    cases handle <;> simp [Locals.Owns, hunclaimed, Option.isSome_iff_ne_none.mp hsome, eq_comm]
  | transfer transfer => simp [Locals.Owns]
  | context => simp [Locals.Owns]

lemma Locals.owns_unclaimed {x : Locals} {r : Resource} :
    Locals.Owns { x with interface := ⟨none, 0⟩ } r ↔
      r ≠ .claim x.interface.deviceHandle x.interface.number ∧ x.Owns r := by
  cases r with
  | handle handle => simp [Locals.Owns]
  | claim handle number => cases handle <;> simp [Locals.Owns, eq_comm]
  | transfer transfer => simp [Locals.Owns]
  | context => simp [Locals.Owns]

lemma ensures_setAltSetting (altSetting : UInt8) {E : Stop Exception → Machine → Prop} :
    Ensures (Using true t)
      (inLibusb.within interfacePart (InterfaceObject.setAltSettingEc altSetting .clear))
      (fun done => Using (if done.2.isError then true else true) t) E := by
  refine .within fun m hm => ?_
  rw [InterfaceObject.setAltSettingEc, run_callEc]
  simp only [Meets, ite_self]
  exact hm.interface rfl rfl rfl ⟨hm.claim_mem, hm.claim_handle_mem, hm.legal⟩ hm.held_iff
    hm.deviceHandle_eq

/-- The new interface has the claim, or there is none. -/
lemma ensures_claim (number : UInt8) (device : Option DeviceHandle) :
    Ensures (fun m => Using false .none m ∧ device = m.object.dev.handle)
      (inLibusb.within interfacePart (InterfaceObject.claimDetach device number true))
      (fun _ => Using true .none) (Stopped Terminated (Using false .none)) := by
  refine .within fun m ⟨hm, hdevice⟩ => ?_
  have hunclaim := InterfaceObject.run_unclaim_of_unclaimed (m := inLibusb.narrow interfacePart m)
    true .clear hm.deviceHandle_eq
  have hclaim := InterfaceObject.run_claim_of_unclaimed device number true .clear hunclaim
  have hhandle : Resource.handle device ∈ held (m.log.flatMap events) := hdevice ▸ hm.handle_mem
  let m₂ := issue (inLibusb.narrow interfacePart m) (.detachKernelDriver device number)
  have hissued : (issue m₂ (.claimInterface device number)).log.flatMap libusbEvents =
      (if nextRet m₂ < 0 then [.use (.handle device)]
        else [.acquire (.claim device number), .use (.handle device)]) ++
        [.use (.handle device)] := rfl
  rw [InterfaceObject.claimDetach, InterfaceObject.claimEc_eq]
  rcases lt_or_ge (nextRet m₂) 0 with hret | hret
  · rw [if_pos hret] at hissued
    rw [run_tryWithEc_of_error hclaim (by simpa using hret), if_pos rfl, if_pos hret]
    exact hm.interface hissued rfl rfl ⟨hhandle, hhandle, hm.legal⟩ hm.held_iff hm.deviceHandle_eq
  · rw [if_neg hret.not_gt] at hissued
    rw [run_tryWithEc_of_clear hclaim (by simpa using hret), if_pos rfl, if_neg hret.not_gt]
    refine hm.interface hissued rfl rfl ⟨hhandle, hhandle, hm.legal⟩ (fun r => ?_) hdevice
    refine Iff.trans ?_ (Locals.owns_claimed ?_ hm.deviceHandle_eq).symm
    · exact Finset.mem_insert.trans (or_congr_right (hm.held_iff r))
    · rw [hdevice]
      exact hm.isOpen

/-- A claim is released, or libusb refuses. -/
lemma exists_run_unclaim (hm : Using true t m) (ec : ErrorCode) :
    ∃ ec' n, (InterfaceObject.unclaimReattachEc true ec).run (inLibusb.narrow interfacePart m) =
      .ok ((), ec') n ∧
      (ec'.isError = false ∧ Using false t (inLibusb.widen interfacePart m n) ∨
        ec'.isError = true ∧ Using true t (inLibusb.widen interfacePart m n) ∧
          .claim n.object.deviceHandle n.object.number ∈ n.log.flatMap libusbRefusals) := by
  obtain ⟨handle, hopen⟩ := Option.isSome_iff_exists.mp hm.isOpen
  have hhandle : m.object.interface.deviceHandle = some handle := hm.deviceHandle_eq.trans hopen
  have hclaim := hm.claim_mem
  have hdevice := hm.claim_handle_mem
  rw [hhandle] at hclaim hdevice
  let released : LibusbCall × Overloads.Answer :=
    (.releaseInterface (some handle) m.object.interface.number, (m.answers m.log.length).libusb)
  -- a release that is refused uses the claim and keeps it
  rcases lt_or_ge (m.answers m.log.length).libusb.retCode 0 with hret | hret
  · have hissued : [released].flatMap libusbEvents = [.use _, .use _] :=
      (List.append_nil _).trans (if_pos hret)
    have hrefused : [released].flatMap libusbRefusals = [_] :=
      (List.append_nil _).trans (if_pos hret)
    refine ⟨_, _, InterfaceObject.run_unclaim_of_failed true ec hhandle hret,
      .inr ⟨(libusbTry_isError _).trans (decide_eq_true hret), ?_, ?_⟩⟩
    · exact hm.interface hissued rfl rfl ⟨hclaim, hdevice, hm.legal⟩ hm.held_iff hm.deviceHandle_eq
    · show Resource.claim m.object.interface.deviceHandle m.object.interface.number ∈ _
      rw [hhandle]
      exact hrefused ▸ List.mem_cons_self
  · have hissued : (.use (.handle (some handle))) :: [released].flatMap libusbEvents =
        [.use _, .release _, .use _] := congrArg _ ((List.append_nil _).trans (if_neg hret.not_gt))
    have hkept : Resource.handle (some handle) ∈ (held (m.log.flatMap events)).erase
        (.claim (some handle) m.object.interface.number) := Finset.mem_erase.mpr ⟨nofun, hdevice⟩
    refine ⟨_, _, InterfaceObject.run_unclaim_of_released true ec hhandle hret, .inl ⟨rfl, ?_⟩⟩
    refine hm.interface hissued rfl rfl ⟨hkept, hclaim, hdevice, hm.legal⟩ (fun r => ?_) rfl
    refine Iff.trans ?_ Locals.owns_unclaimed.symm
    rw [hhandle, ← hm.held_iff]
    exact Finset.mem_erase

lemma ensures_unclaim {E : Stop Exception → Machine → Prop} :
    Ensures (Using true t)
      (inLibusb.within interfacePart (InterfaceObject.unclaimReattachEc true .clear))
      (fun done => Using (if done.2.isError then true else false) t) E := by
  refine .within fun m hm => ?_
  obtain ⟨ec, n, hrun, hends⟩ := exists_run_unclaim hm .clear
  rw [hrun]
  show Using (if ec.isError then true else false) t _
  obtain ⟨hec, hn⟩ | ⟨hec, hn, -⟩ := hends
  · rwa [if_neg (Bool.eq_false_iff.mp hec)]
  · rwa [if_pos hec]

lemma Locals.eq_or_eq {x : Locals} {r : Resource} (h : x.Owns r)
    (hunallocated : x.transfer = .none) : r = .handle x.dev.handle ∨
      r = .claim x.interface.deviceHandle x.interface.number := by
  cases r with
  | handle handle => exact .inl (congrArg Resource.handle h.2.symm)
  | claim handle number =>
    obtain ⟨-, rfl, rfl⟩ := h
    exact .inr rfl
  | transfer transfer =>
    obtain ⟨hsome, rfl⟩ := h
    rw [hunallocated] at hsome
    cases hsome
  | context =>
    rw [Locals.Owns, hunallocated] at h
    cases h

/-- Nothing is left but the device, and claims that libusb has refused to release. -/
structure Left (m : Machine) : Prop where
  books : ∃ x, x.dev = m.object.dev ∧ Books [] { m with object := x }
  left : ∀ r ∈ held (m.log.flatMap events),
    r = .handle m.object.dev.handle ∨ r ∈ m.log.flatMap refusals

lemma Looking.left (h : Looking [] m) : Left m := by
  refine ⟨⟨(unbuilt m).object, rfl, h.books⟩, fun r hr => .inl ?_⟩
  obtain ⟨handle, hdev, rfl⟩ := h.mem_held_iff.mp hr
  rw [hdev]

lemma Lasting.destroyInterface {P : Machine → Prop} (hP : Lasting P) :
    Ensures P destroyInterface (fun _ => P) (fun _ => P) :=
  (hP.within _).bind fun _ => .pure _ fun _ => id

/-- The destructor has tried to release the claim. -/
lemma ensures_destroyInterface {E : Stop Exception → Machine → Prop} :
    Ensures (Using true .none) destroyInterface (fun _ => Left) E := by
  refine .bind (Q := fun _ => Left) (.within fun m hm => ?_) fun _ => .pure _ fun _ => id
  obtain ⟨ec, n, hrun, ⟨-, hn⟩ | ⟨-, hn, hrefused⟩⟩ := exists_run_unclaim hm .clear
  · rw [InterfaceObject.unclaimEc_eq, hrun]
    exact hn.looking.left
  · rw [InterfaceObject.unclaimEc_eq, hrun]
    refine ⟨⟨_, rfl, hn.toBooks⟩, fun r hr => ?_⟩
    refine (Locals.eq_or_eq ((hn.held_iff r).mp hr) hn.transfer_eq).imp_right fun hclaim => ?_
    rw [refusals_widen]
    exact List.mem_append_left _ (hclaim ▸ hrefused)

lemma ensures_destroyInterface_of_unclaimed {E : Stop Exception → Machine → Prop} :
    Ensures (Using false .none) destroyInterface (fun _ => Using false .none) E := by
  refine .bind (Q := fun _ => Using false .none) (.within fun m hm => ?_) fun _ =>
    .pure _ fun _ => id
  rw [InterfaceObject.unclaimEc_eq,
    InterfaceObject.run_unclaim_of_unclaimed true .clear hm.deviceHandle_eq]
  exact hm

lemma ensures_constructInterface (number : UInt8) :
    Ensures (fun m => Before none [] m ∧ m.object.dev.handle.isSome) (constructInterface number)
      (fun _ => Using true .none) (Stopped Terminated Left) := by
  refine .bind (Q := fun _ => Using false .none) (.modifyObject _ fun m ⟨hm, hsome⟩ => ?_)
    fun _ => ?_
  · have hbooks := (books_unbuilt_iff
      (m := { m with object.interface.number := 0 }) hm.stored hm.unallocated).mp hm.books
    exact ⟨hbooks, hsome, hm.found.mpr hsome, hm.stored, hm.unallocated⟩
  · refine .bind (Q := fun x m => Using false .none m ∧ x.dev.handle = m.object.dev.handle)
      (.getObject fun m hm => ⟨hm, rfl⟩) fun x => ?_
    refine .onUnwind (D := Stopped Terminated (Using false .none)) (ensures_claim number _)
      (fun _ => ?_) fun _ => id
    exact ensures_destroyInterface_of_unclaimed.mono (fun _ => id) (fun _ _ h => h.looking.left)
      fun _ _ => id

end UsbAsio.FromReadme
