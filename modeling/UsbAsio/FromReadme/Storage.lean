import UsbAsio.FromReadme.Reading

/-!
# The storage of the interface

The constructor of `interface` reads `device_handle_` before anything has been written to it. What
becomes of the coroutine depends on what is found there.
-/

namespace UsbAsio.FromReadme

open Effects Interface Ledger Overloads

variable {m : Machine} {σ α : Type} {part : Part Locals σ}

/-! ### What lasts -/

section Lasting

variable {P : Machine → Prop}

lemma Lasting.allocate (hP : Lasting P) (what : Storage) (refused : Answer → Stop Exception) :
    Ensures P (allocate what refused) (fun _ => P) (fun _ => P) :=
  (hP.call _).bind fun _ => .ite (fun _ => .pure _ fun _ => id) fun _ => .throw _ fun _ => id

lemma Lasting.awaitBlocking (hP : Lasting P)
    (fn : ErrorCode → Overloads.Program UsbInterface (Unit × ErrorCode)) :
    Ensures P (awaitBlocking fn) (fun _ => P) (fun _ => P) :=
  (hP.allocate _ _).bind fun _ => (hP.within _).bind fun _ => (hP.allocate _ _).bind fun _ =>
    .ite (fun _ => .throw _ fun _ => id) fun _ => .pure _ fun _ => id

lemma Lasting.destroyContext (hP : Lasting P) :
    Ensures P destroyContext (fun _ => P) (fun _ => P) :=
  .bind (Q := fun _ => P) (.getObject fun _ => id) fun _ =>
    .ite (fun _ => (hP.call _).bind fun _ => hP.modifyObject _) fun _ => .pure _ fun _ => id

lemma Lasting.destroyHandle (hP : Lasting P) :
    Ensures P destroyHandle (fun _ => P) (fun _ => P) := by
  refine .bind (Q := fun _ => P) (.getObject fun _ => id) fun x => ?_
  cases x.transfer.handle with
  | none => exact .pure _ fun _ => id
  | some transfer => exact (hP.call _).bind fun _ => hP.modifyObject _

lemma Lasting.leaveCallback (hP : Lasting P) :
    Ensures P leaveCallback (fun _ => P) (fun _ => P) :=
  (hP.call _).bind fun _ => hP.modifyObject _

lemma Lasting.destroyTransfer (hP : Lasting P) :
    Ensures P destroyTransfer (fun _ => P) (fun _ => P) := by
  have hdestroy := hP.destroyContext.bind fun _ => hP.destroyHandle
  refine .bind (Q := fun _ => P) (.getObject fun _ => id) fun x => .ite (fun _ => ?_)
    fun _ => hdestroy
  refine (hP.call _).bind fun callback => .ite (fun _ => ?_) fun _ => ?_
  · exact hP.leaveCallback.bind fun _ => hdestroy
  · exact hP.destroyContext.bind fun _ => hP.destroyHandle.bind fun _ => hP.leaveCallback

lemma Lasting.constructTransfer (hP : Lasting P) (endpoint : UInt8) (timeout : ℤ) :
    Ensures P (constructTransfer endpoint timeout) (fun _ => P) (fun _ => P) := by
  refine (hP.call _).bind fun allocated => (hP.modifyObject _).bind fun _ =>
    .onUnwind (D := fun _ => P) ?_ (fun _ => hP.destroyTransfer) fun _ => id
  refine (hP.allocate _ _).bind fun _ => (hP.modifyObject _).bind fun _ =>
    .ite (fun _ => .throw _ fun _ => id) fun _ => hP.modifyObject _

lemma Lasting.asyncReadSome (hP : Lasting P) (buffer : Buffer) :
    Ensures P (asyncReadSome buffer) (fun _ => P) (fun _ => P) := by
  refine (hP.allocate _ _).bind fun _ => .bind (Q := fun _ => P) (.getObject fun _ => id) fun x =>
    (hP.call _).bind fun submitted => .ite (fun _ => ?_) fun _ => ?_
  · exact (hP.allocate _ _).bind fun _ => (hP.call _).bind fun _ => .throw _ fun _ => id
  · refine (hP.call _).bind fun completed => (hP.allocate _ _).bind fun _ =>
      (hP.modifyObject _).bind fun _ => .bind (Q := fun _ => P) ?_ fun _ => .pure _ fun _ => id
    exact .ite (fun _ => .throw _ fun _ => id) fun _ => .pure _ fun _ => id

lemma Lasting.useInterface (hP : Lasting P) (buff : ℕ) :
    Ensures P (useInterface buff) (fun _ => P) (fun _ => P) := by
  refine (hP.awaitBlocking _).bind fun _ => (hP.constructTransfer 3 1000).bind fun _ => ?_
  refine .withCleanup (D := fun _ => P) (R := fun _ => P) ?_ (fun _ => hP.destroyTransfer)
    (fun _ => hP.destroyTransfer) fun _ => id
  exact (hP.asyncReadSome _).bind fun _ => hP.awaitBlocking _

end Lasting

/-! ### The interface -/

variable {handle : DeviceHandle}

/-- A claim is released that nobody holds. -/
lemma Before.broken (h : Before (some handle) [] m) {n : Overloads.Machine UsbInterface}
    {later : List (LibusbCall × Overloads.Answer)} {number : UInt8} {answer : Overloads.Answer}
    (hlog : n.log = later ++ [(.releaseInterface (some handle) number, answer)]) :
    Broken attempts (inLibusb.widen interfacePart m n) := by
  have hclaim : Resource.claim (some handle) number ∉ held (m.log.flatMap events) := by
    intro hmem
    obtain ⟨_, -, heq⟩ := h.mem_held_iff.mp hmem
    cases heq
  constructor
  · rw [events_widen, hlog, List.flatMap_append, List.append_assoc]
    intro hlegal
    have hreleased : Legal (libusbEvents (.releaseInterface (some handle) number, answer) ++ [] ++
        m.log.flatMap events) := hlegal.of_append
    rw [libusbEvents] at hreleased
    split_ifs at hreleased
    · exact hclaim hreleased.1
    · exact hclaim hreleased.1
  · rw [attempts_widen, hlog, List.flatMap_append]
    simp [libusbAttempts]

/-- The claim of the new interface first releases the one that the storage tells of. -/
lemma exists_run_claim (device : Option DeviceHandle) (number : UInt8)
    {n : Overloads.Machine UsbInterface} (hstored : n.object.deviceHandle = some handle) :
    ∃ ec n' later answer,
      (InterfaceObject.claimEc device number .clear).run n = .ok ((), ec) n' ∧
        n'.log = later ++ (.releaseInterface (some handle) n.object.number, answer) :: n.log := by
  rw [InterfaceObject.claimEc_eq]
  rcases lt_or_ge (nextRet n) 0 with hret | hret
  · have hunclaim := InterfaceObject.run_unclaim_of_failed true .clear hstored hret
    exact ⟨_, _, [], _, InterfaceObject.run_claim_of_claimed device number true hunclaim
      ((libusbTry_isError _).trans (decide_eq_true hret)), rfl⟩
  · have hunclaim := InterfaceObject.run_unclaim_of_released true .clear hstored hret
    exact ⟨_, _, [_, _, _], _, InterfaceObject.run_claim_of_unclaimed device number true .clear
      hunclaim, rfl⟩

lemma ensures_constructInterface_of_stored (number : UInt8) :
    Ensures (Before (some handle) []) (constructInterface number) (fun _ => Broken attempts)
      (fun _ => Broken attempts) := by
  refine .bind (Q := fun _ => Before (some handle) []) (.modifyObject _ fun m hm => ?_) fun _ => ?_
  · exact ⟨⟨hm.books, hm.unallocated, hm.found⟩, hm.untouched, hm.stored⟩
  refine .bind (Q := fun _ => Before (some handle) []) (.getObject fun _ => id) fun x => ?_
  refine .onUnwind (D := fun _ => Broken attempts) (.within fun m hm => ?_)
    (fun _ => (lasting_broken attempts).destroyInterface) fun _ => id
  obtain ⟨ec, n, later, answer, hrun, hlog⟩ := exists_run_claim x.dev.handle number
    (n := inLibusb.narrow interfacePart m) hm.stored
  rw [InterfaceObject.claimDetach, run_tryWithEc, hrun]
  cases hec : ec.isError with
  | false =>
    rw [raised_of_clear hec]
    exact hm.broken hlog
  | true =>
    rw [raised_of_error hec]
    exact hm.broken hlog

/-! ### The coroutine -/

lemma ensures_useDev_of_stored (buff : ℕ) :
    Ensures (Starting (some handle)) (useDev buff)
      (fun status m => (Before (some handle) [] m ∧
        (status = .success ↔ m.log.flatMap opens ≠ [])) ∨ Broken attempts m)
      (fun s m => Stopped OpenFailed (Before (some handle) []) s m ∨ Broken attempts m) := by
  refine (ensures_openDevices.mono (fun _ => id) (fun _ _ => id) fun _ _ => .inl).bind fun _ =>
    .bind (Q := fun x m => Before (some handle) [] m ∧ x = m.object)
      (.getObject fun m hm => ⟨hm, rfl⟩) fun x => .ite (fun _ => ?_) fun hnone => ?_
  · have hbroken : Ensures (Before (some handle) []) (do
        constructInterface 1
        withCleanup destroyInterface (useInterface buff)
        return .success : Program ExitStatus) (fun _ => Broken attempts)
        (fun _ => Broken attempts) := by
      have hlasting := lasting_broken attempts
      exact (ensures_constructInterface_of_stored 1).bind fun _ =>
        .bind (Q := fun _ => Broken attempts) (.withCleanup (R := fun _ => Broken attempts)
          (D := fun _ => Broken attempts) (hlasting.useInterface buff)
          (fun _ => hlasting.destroyInterface) (fun _ => hlasting.destroyInterface) fun _ => id)
        fun _ => .pure _ fun _ => id
    exact hbroken.mono (fun _ h => h.1) (fun _ _ => .inr) fun _ _ => .inr
  · refine .pure _ fun m ⟨hm, hx⟩ => .inl ⟨hm, iff_of_false nofun fun hfound => ?_⟩
    exact hnone (hx ▸ hm.found.mp hfound)

lemma untouched_destroyDev {E : Stop Exception → Machine → Prop} :
    Ensures (fun m => m.log.flatMap attempts = []) destroyDev
      (fun _ m => m.log.flatMap attempts = []) E := by
  refine .within fun m hm => ?_
  obtain ⟨n, hrun, -, -, -, hattempts⟩ := run_resetHandle m
  rw [hrun]
  show (inLibusb.widen devPart m n).log.flatMap attempts = []
  rw [attempts_widen, hattempts, hm]
  rfl

variable {G B : Machine → Prop}

/-- The coroutine ends well in `G`, if not in `B`. -/
lemma ends_or_of_ensures {deviceHandle : Option DeviceHandle} {buff : ℕ} {answers : ℕ → Answer}
    (h : Ensures (fun m => m = .start answers (.storage deviceHandle)) (coroutine buff)
      (fun status m => Returned status m ∧ G m ∨ B m)
      (fun s m => Ends (.error s m) ∧ G m ∨ B m)) :
    Ends (outcome deviceHandle buff answers) ∧ G (final (outcome deviceHandle buff answers)) ∨
      B (final (outcome deviceHandle buff answers)) := by
  have hmeets := ensures_iff.mp h _ rfl
  rw [← outcome] at hmeets
  generalize outcome deviceHandle buff answers = r at hmeets ⊢
  cases r with
  | ok status m => exact hmeets
  | error s m => exact hmeets

variable (buff : ℕ) {answers : ℕ → Answer}
  (hdocumented : ∀ i, DeviceList.Documented (answers i).list)

include hdocumented

/-- With a null pointer in the storage of the interface, only the event thread can do harm. -/
lemma ends_or_overtaken :
    Ends (outcome none buff answers) ∧ Timely (final (outcome none buff answers)) ∨
      Broken overtakes (final (outcome none buff answers)) := by
  refine ends_or_of_ensures (.bind ((ensures_constructDev hdocumented).mono (fun _ => id)
    (fun _ _ => id) ?_) fun _ =>
      .withCleanup (ensures_useDev buff) (fun status => ?_) (fun _ => ?_) ?_)
  · rintro s m ⟨⟨e, rfl⟩, hm⟩
    exact .inl ⟨hm.settled, hm.timely⟩
  · exact (ensures_destroyDev_of_looking status).or_invariant (lasting_broken overtakes).destroyDev
      fun _ _ => .inr
  · exact ensures_destroyDev.or_invariant (lasting_broken overtakes).destroyDev fun _ _ => .inr
  · exact fun m => id

/-- Without one, the interface is built on a claim that nobody holds. -/
lemma ends_or_claimed (handle : DeviceHandle) :
    Ends (outcome (some handle) buff answers) ∧
        (Timely (final (outcome (some handle) buff answers)) ∧
          (final (outcome (some handle) buff answers)).log.flatMap attempts = []) ∨
      Broken attempts (final (outcome (some handle) buff answers)) := by
  refine ends_or_of_ensures (G := fun m => Timely m ∧ m.log.flatMap attempts = [])
    (.bind ((ensures_constructDev hdocumented).mono (fun _ => id) (fun _ _ => id) ?_) fun _ =>
      .withCleanup (ensures_useDev_of_stored buff) (fun status => ?_) (fun _ => ?_) ?_)
  · rintro s m ⟨⟨e, rfl⟩, hm⟩
    exact .inl ⟨hm.settled, hm.timely, hm.attempts_eq⟩
  · have hend := (ensures_destroyDev_of_looking status (E := fun _ _ => False)).and
      (untouched_destroyDev (E := fun _ _ => False))
    refine .or_invariant (hend.mono (fun m ⟨hm, hstatus⟩ => ⟨⟨hm.toLooking, hstatus⟩, hm.untouched⟩)
      (fun _ m h => ⟨h.1.1, h.1.2, h.2⟩) fun _ _ h => h.1) (lasting_broken attempts).destroyDev
        fun _ _ => .inr
  · have hend := (ensures_destroyDev (E := fun _ _ => False)).and
      (untouched_destroyDev (E := fun _ _ => False))
    refine .or_invariant (hend.mono (fun m hm => ⟨hm.left, hm.untouched⟩)
      (fun _ m h => ⟨h.1.1, h.1.2, h.2⟩) fun _ _ h => h.1) (lasting_broken attempts).destroyDev
        fun _ _ => .inr
  · exact fun m => .imp_left fun ⟨hfailed, htimely⟩ => ⟨.inl hfailed, htimely, hfailed.untouched⟩

omit hdocumented

lemma Ends.legal {r : EStateM.Result (Stop Exception) Machine ExitStatus} (h : Ends r) :
    Legal ((final r).log.flatMap events) := by
  cases r with
  | ok status m => exact (Returned.toSettled h).legal
  | error s m =>
    cases s with
    | thrown e => exact Settled.legal h
    | terminated => exact h.elim (·.legal) (·.legal)

/-- Whatever is answered: the coroutine ends well if and only if the storage of `interface` holds a
null pointer, or the coroutine does not come to the interface, and the event thread has left every
transfer that is destroyed. -/
theorem ends_coroutine_iff (deviceHandle : Option DeviceHandle) (buff : ℕ) (answers : ℕ → Answer)
    (hdocumented : ∀ i, DeviceList.Documented (answers i).list) :
    Ends (outcome deviceHandle buff answers) ↔
      (deviceHandle = none ∨
        (final (outcome deviceHandle buff answers)).log.flatMap attempts = []) ∧
      (final (outcome deviceHandle buff answers)).log.flatMap overtakes = [] := by
  cases deviceHandle with
  | none =>
    obtain ⟨hends, htimely⟩ | hbroken := ends_or_overtaken buff hdocumented
    · exact iff_of_true hends ⟨.inl rfl, htimely⟩
    · exact iff_of_false (fun hends => hbroken.illegal hends.legal) fun h => hbroken.shown h.2
  | some handle =>
    obtain ⟨hends, htimely, huntouched⟩ | hbroken := ends_or_claimed buff hdocumented handle
    · exact iff_of_true hends ⟨.inr huntouched, htimely⟩
    · refine iff_of_false (fun hends => hbroken.illegal hends.legal) ?_
      rintro ⟨⟨⟨⟩⟩ | huntouched, -⟩
      exact hbroken.shown huntouched

/-- A device is found, and everything succeeds; the event thread is in time or too late. -/
theorem ends_coroutine_iff_one_device :
    let desc : DeviceDescriptor :=
      ⟨#v[18, 1, 0, 2, 0, 0, 0, 64, 0xCD, 0xAB, 0x34, 0x12, 0, 1, 0, 0, 0, 1]⟩
    let answers : Bool → ℕ → Answer := fun left _ => ⟨⟨1, [⟨8192⟩], none, 0⟩,
      ⟨0, ⟨4096, by decide, by decide⟩, desc, ⟨0⟩⟩, some ⟨12288⟩, true, true, 0, 512, left⟩
    Ends (outcome none 16384 (answers true)) ∧ ¬ Ends (outcome none 16384 (answers false)) := by
  intro desc answers
  have hdocumented : ∀ left i, DeviceList.Documented (answers left i).list :=
    fun _ _ => ⟨(by decide : -2 ^ 31 ≤ (1 : ℤ)), fun _ => rfl⟩
  rw [ends_coroutine_iff none 16384 (answers true) (hdocumented true),
    ends_coroutine_iff none 16384 (answers false) (hdocumented false)]
  refine ⟨⟨.inl rfl, by decide +kernel⟩, fun hends => ?_⟩
  have hovertaken : (final (outcome none 16384 (answers false))).log.flatMap overtakes ≠ [] := by
    decide +kernel
  exact hovertaken hends.2

end UsbAsio.FromReadme
