import UsbAsio.FromReadme.Lifetimes

/-!
# The life of the transfer

What the operations that the coroutine of the README waits for leave, from the constructor of the
transfer to its destructor. The destructor may come before the event thread has left
`completion_callback`, which then works on a context that is gone.
-/

namespace UsbAsio.FromReadme

open Effects Interface Ledger Overloads

variable {m : Machine} {claimed claimed' : Bool} {t t' : InBulkTransfer}

/-! ### Memory -/

/-- After a call of another kind. -/
lemma Using.call {c : Call} {answer : Answer} {x : Locals} (h : Using claimed t m)
    (hlegal : Legal (events (c, answer) ++ m.log.flatMap events))
    (hheld : ∀ r, r ∈ held (events (c, answer) ++ m.log.flatMap events) ↔ x.Owns r)
    (hrefs : refs (c, answer) = []) (hopens : opens (c, answer) = [])
    (hovertakes : overtakes (c, answer) = []) (hdev : x.dev = m.object.dev)
    (hinterface : x.interface = m.object.interface) (htransfer : x.transfer = t') :
    Using claimed t' ⟨m.answers, (c, answer) :: m.log, x⟩ := by
  have hopened : ((c, answer) :: m.log).flatMap opens = m.log.flatMap opens := by
    rw [List.flatMap_cons, hopens, List.nil_append]
  refine ⟨⟨hlegal, hheld, ?_, ?_, ?_⟩, ?_, ?_, ?_, htransfer⟩
  · rw [List.flatMap_cons, hrefs]
    exact h.lent
  · rw [hopened]
    exact h.opened
  · rw [Timely, List.flatMap_cons, hovertakes]
    exact h.timely
  · rw [hdev]
    exact h.isOpen
  · rw [hopened]
    exact h.found
  · rw [hdev, hinterface]
    exact h.deviceHandle_eq

lemma ensures_allocate {what : Storage} {refused : Answer → Stop Exception}
    {P Q : Machine → Prop} {E : Stop Exception → Machine → Prop}
    (hgranted : ∀ m answer, P m → answer.memory = true →
      Q ⟨m.answers, (.allocate what, answer) :: m.log, m.object⟩)
    (hrefused : ∀ m answer, P m → answer.memory = false →
      E (refused answer) ⟨m.answers, (.allocate what, answer) :: m.log, m.object⟩) :
    Ensures P (allocate what refused) (fun _ => Q) E := by
  refine .bind (Q := fun answer m => if answer.memory then Q m else E (refused answer) m)
    (.call _ fun m hm => ?_) fun answer => .ite (fun hmemory => ?_) fun hmemory => ?_
  · cases hmemory : (m.answers m.log.length).memory with
    | true => exact hgranted m _ hm hmemory
    | false => exact hrefused m _ hm hmemory
  · exact .pure _ fun m hm => by rwa [if_pos hmemory] at hm
  · exact .throw _ fun m hm => by rwa [if_neg hmemory] at hm

/-- An exception, or the end of the process, for want of memory. -/
lemma Using.stopped (h : Using claimed t m) (s : Stop Exception)
    (hstarved : .handlerImpl ∈ m.log.flatMap starved ∨ .operation ∈ m.log.flatMap starved) :
    Stopped Terminated (Using claimed t) s m := by
  cases s with
  | thrown e => exact h
  | terminated => exact ⟨.inr ⟨⟨h.legal, ⟨[], h.lent⟩⟩, hstarved⟩, h.timely⟩

lemma ensures_allocateOperation {refused : Answer → Stop Exception}
    {E : Stop Exception → Machine → Prop}
    (hrefused : ∀ m answer, Using claimed t m → .operation ∈ m.log.flatMap starved →
      E (refused answer) m) :
    Ensures (Using claimed t) (allocate .operation refused) (fun _ => Using claimed t) E := by
  have hcall : ∀ m answer, Using claimed t m →
      Using claimed t ⟨m.answers, (.allocate .operation, answer) :: m.log, m.object⟩ :=
    fun _ _ hm => hm.call hm.legal hm.held_iff rfl rfl rfl rfl rfl hm.transfer_eq
  refine ensures_allocate (fun m answer hm _ => hcall m answer hm) fun m answer hm hmemory => ?_
  exact hrefused _ _ (hcall m answer hm) (by simp [starved, hmemory])

/-- The blocking thread may leave another claim behind, unless it reports an error. -/
lemma ensures_awaitBlocking
    {fn : ErrorCode → Overloads.Program UsbInterface (Unit × ErrorCode)}
    (h : Ensures (Using claimed t) (inLibusb.within interfacePart (fn .clear))
      (fun done => Using (if done.2.isError then claimed else claimed') t)
      (Stopped Terminated (Using claimed t))) :
    Ensures (Using claimed t) (awaitBlocking fn) (fun _ => Using claimed' t)
      (Stopped Terminated (Using claimed t)) := by
  refine .bind (Q := fun _ => Using claimed t) ?_ fun _ => h.bind fun done => ?_
  · exact ensures_allocateOperation fun m answer hm hstarved => hm.stopped _ (.inr hstarved)
  refine .bind (ensures_allocateOperation fun m answer hm hstarved =>
    hm.stopped .terminated (.inr hstarved)) fun _ => .ite (fun hec => ?_) fun hec => ?_
  · rw [if_pos hec]
    exact .throw _ fun _ => id
  · rw [if_neg hec]
    exact .pure _ fun _ => id

/-! ### The transfer -/

lemma Using.transfer_mem (h : Using claimed t m) (hsome : t.handle.isSome) :
    .transfer m.object.transfer.handle ∈ held (m.log.flatMap events) :=
  (h.held_iff _).mpr ⟨h.transfer_eq ▸ hsome, rfl⟩

lemma Using.context_mem (h : Using claimed t m) (hcontext : t.context = true) :
    .context ∈ held (m.log.flatMap events) := by
  refine (h.held_iff _).mpr ?_
  rw [Locals.Owns, h.transfer_eq]
  exact hcontext

lemma Locals.owns_allocated {x : Locals} {transfer : Option TransferPtr} {r : Resource}
    (hunallocated : x.transfer = .none) :
    Locals.Owns { x with transfer := ⟨transfer, false, false⟩, fields := zeroed } r ↔
      r ∈ transfer.toList.map (fun t => .transfer (some t)) ∨ x.Owns r := by
  cases r with
  | handle handle => simp [Locals.Owns]
  | claim handle number => simp [Locals.Owns]
  | transfer transfer' =>
    cases transfer <;> cases transfer' <;>
      simp [Locals.Owns, hunallocated, InBulkTransfer.none, eq_comm]
  | context => simp [Locals.Owns, hunallocated, InBulkTransfer.none]

lemma Locals.owns_context {x : Locals} {r : Resource} :
    Locals.Owns { x with transfer := { x.transfer with context := true } } r ↔
      r = .context ∨ x.Owns r := by
  cases r <;> simp [Locals.Owns]

lemma Locals.owns_contextFreed {x : Locals} {r : Resource} :
    Locals.Owns { x with transfer := { x.transfer with context := false } } r ↔
      r ≠ .context ∧ x.Owns r := by
  cases r <;> simp [Locals.Owns]

lemma Locals.owns_freed {x : Locals} {r : Resource} :
    Locals.Owns { x with transfer := { x.transfer with handle := none } } r ↔
      r ≠ .transfer x.transfer.handle ∧ x.Owns r := by
  cases r with
  | handle handle => simp [Locals.Owns]
  | claim handle number => simp [Locals.Owns]
  | transfer transfer => cases transfer <;> simp [Locals.Owns, eq_comm]
  | context => simp [Locals.Owns]

lemma ensures_destroyContext {E : Stop Exception → Machine → Prop} :
    Ensures (Using claimed t) destroyContext
      (fun _ => Using claimed { t with context := false }) E := by
  refine .bind (Q := fun x m => Using claimed t m ∧ x = m.object)
    (.getObject fun m hm => ⟨hm, rfl⟩) fun x => .ite (fun hcontext => ?_) fun hcontext => ?_
  · refine .bind (Q := fun _ m => Using claimed { t with context := false }
      { m with object.transfer.context := false }) (.call _ ?_) fun _ => .modifyObject _ fun _ => id
    rintro m ⟨hm, rfl⟩
    have hmem : .context ∈ held (m.log.flatMap events) := (hm.held_iff _).mpr hcontext
    refine hm.call ⟨hmem, hm.legal⟩ (fun r => ?_) rfl rfl rfl rfl rfl ?_
    · refine Iff.trans ?_ Locals.owns_contextFreed.symm
      rw [← hm.held_iff]
      exact Finset.mem_erase
    · exact congrArg (fun t : InBulkTransfer => { t with context := false }) hm.transfer_eq
  · refine .pure _ fun m ⟨hm, hx⟩ => ?_
    have hfalse : t.context = false := by
      rw [← hm.transfer_eq, ← hx]
      exact Bool.eq_false_iff.mpr hcontext
    rw [← hfalse]
    exact hm

lemma ensures_destroyHandle {E : Stop Exception → Machine → Prop} :
    Ensures (Using claimed t) destroyHandle
      (fun _ => Using claimed { t with handle := none }) E := by
  refine .bind (Q := fun x m => Using claimed t m ∧ x = m.object)
    (.getObject fun m hm => ⟨hm, rfl⟩) fun x => ?_
  cases htransfer : x.transfer.handle with
  | none =>
    refine .pure _ fun m ⟨hm, hx⟩ => ?_
    have hnone : t.handle = none := by
      rw [← hm.transfer_eq, ← hx]
      exact htransfer
    rw [← hnone]
    exact hm
  | some transfer =>
    refine .bind (Q := fun _ m => Using claimed { t with handle := none }
      { m with object.transfer.handle := none }) (.call _ ?_) fun _ => .modifyObject _ fun _ => id
    rintro m ⟨hm, rfl⟩
    have hmem : .transfer (some transfer) ∈ held (m.log.flatMap events) :=
      (hm.held_iff _).mpr ⟨rfl, htransfer⟩
    refine hm.call ⟨hmem, hm.legal⟩ (fun r => ?_) rfl rfl rfl rfl rfl ?_
    · refine Iff.trans ?_ Locals.owns_freed.symm
      rw [htransfer, ← hm.held_iff]
      exact Finset.mem_erase
    · exact congrArg (fun t : InBulkTransfer => { t with handle := none }) hm.transfer_eq

lemma ensures_leaveCallback (hcontext : t.context = true) {E : Stop Exception → Machine → Prop} :
    Ensures (Using claimed t) leaveCallback
      (fun _ => Using claimed { t with inCallback := false }) E := by
  refine .bind (Q := fun _ => Using claimed t) (.call _ fun m hm => ?_) fun _ =>
    .modifyObject _ fun m hm => ⟨⟨hm.legal, fun r => (hm.held_iff r).trans ?_, hm.lent, hm.opened,
      hm.timely⟩, hm.isOpen, hm.found, hm.deviceHandle_eq, ?_⟩
  · exact hm.call ⟨hm.context_mem hcontext, hm.legal⟩ hm.held_iff rfl rfl rfl rfl rfl
      hm.transfer_eq
  · cases r <;> rfl
  · exact congrArg (fun t : InBulkTransfer => { t with inCallback := false }) hm.transfer_eq

/-- The context goes before the event thread resets the handler in it. -/
lemma ensures_overtake {E : Stop Exception → Machine → Prop} :
    Ensures (fun m => m.log.flatMap overtakes ≠ [] ∧ m.object.transfer.context = true)
      (do destroyContext; destroyHandle; leaveCallback) (fun _ => Broken overtakes) E := by
  let Gone (m : Machine) : Prop :=
    m.log.flatMap overtakes ≠ [] ∧ .context ∉ held (m.log.flatMap events)
  have hcontext : Ensures
      (fun m => m.log.flatMap overtakes ≠ [] ∧ m.object.transfer.context = true) destroyContext
      (fun _ => Gone) E := by
    refine .bind (Q := fun x m => m.log.flatMap overtakes ≠ [] ∧ x.transfer.context = true)
      (.getObject fun m hm => hm) fun x => .ite (fun _ => ?_) fun hfalse => ?_
    · refine .bind (Q := fun _ => Gone) (.call _ fun m hm => ⟨hm.1, ?_⟩) fun _ =>
        .modifyObject _ fun _ => id
      exact Finset.notMem_erase _ _
    · exact .pure _ fun m hm => absurd hm.2 hfalse
  have hhandle : Ensures Gone destroyHandle (fun _ => Gone) E := by
    refine .bind (Q := fun _ => Gone) (.getObject fun _ => id) fun x => ?_
    cases x.transfer.handle with
    | none => exact .pure _ fun _ => id
    | some transfer =>
      refine .bind (Q := fun _ => Gone) (.call _ fun m hm => ⟨hm.1, fun hmem => ?_⟩) fun _ =>
        .modifyObject _ fun _ => id
      exact hm.2 (Finset.mem_of_mem_erase hmem)
  refine hcontext.bind fun _ => hhandle.bind fun _ => .bind (Q := fun _ => Broken overtakes)
    (.call _ fun m hm => ⟨fun hlegal => hm.2 hlegal.1, hm.1⟩) fun _ => .modifyObject _ fun _ h => ?_
  exact ⟨h.illegal, h.shown⟩

lemma ensures_destroyMembers (hleft : t.inCallback = false)
    {E : Stop Exception → Machine → Prop} :
    Ensures (Using claimed t) (do destroyContext; destroyHandle) (fun _ => Using claimed .none)
      E := by
  refine ensures_destroyContext.bind fun _ => ensures_destroyHandle.mono (fun _ => id)
    (fun _ m hm => ?_) fun _ _ => id
  rw [hleft] at hm
  exact hm

lemma ensures_destroyTransfer_of_left (hleft : t.inCallback = false)
    {E : Stop Exception → Machine → Prop} :
    Ensures (Using claimed t) destroyTransfer (fun _ => Using claimed .none) E := by
  refine .bind (Q := fun x m => Using claimed t m ∧ x.transfer = t)
    (.getObject fun m hm => ⟨hm, hm.transfer_eq⟩) fun x => .ite (fun hinside => ?_) fun _ => ?_
  · refine ensures_iff.mpr fun m ⟨hm, hx⟩ => ?_
    rw [hx, hleft] at hinside
    cases hinside
  · exact (ensures_destroyMembers hleft).pre fun _ h => h.1

/-- The transfer is gone, in time or too early. -/
lemma ensures_destroyTransfer (hcontext : t.context = true) {E : Stop Exception → Machine → Prop} :
    Ensures (Using claimed t) destroyTransfer
      (fun _ m => Using claimed .none m ∨ Broken overtakes m) E := by
  refine .bind (Q := fun x m => Using claimed t m ∧ x.transfer = t)
    (.getObject fun m hm => ⟨hm, hm.transfer_eq⟩) fun x => .ite (fun _ => ?_) fun houtside => ?_
  · refine .bind (Q := fun callback m => if callback.left then Using claimed t m else
      m.log.flatMap overtakes ≠ [] ∧ m.object.transfer.context = true) (.call _ fun m hm => ?_)
      fun callback => .ite (fun hleft => ?_) fun hleft => ?_
    · have htransfer := hm.1.transfer_eq
      have hovertakes : overtakes (.eventThread, m.answers m.log.length) =
        if (m.answers m.log.length).left then [] else [()] := rfl
      split_ifs with hleft
      · rw [if_pos hleft] at hovertakes
        exact hm.1.call hm.1.legal hm.1.held_iff rfl rfl hovertakes rfl rfl htransfer
      · rw [if_neg hleft] at hovertakes
        exact ⟨List.append_ne_nil_of_left_ne_nil (hovertakes ▸ List.cons_ne_nil _ _) _,
          htransfer ▸ hcontext⟩
    · simp only [if_pos hleft]
      exact (ensures_leaveCallback hcontext).bind fun _ => (ensures_destroyMembers rfl).mono
        (fun _ => id) (fun _ _ => .inl) fun _ _ => id
    · simp only [if_neg hleft]
      exact ensures_overtake.mono (fun _ => id) (fun _ _ => .inr) fun _ _ => id
  · refine ensures_iff.mpr fun m ⟨hm, hx⟩ => ?_
    rw [hx] at houtside
    have hdestroyed : Ensures (Using claimed t) (do destroyContext; destroyHandle)
      (fun _ => Using claimed .none) E := ensures_destroyMembers (Bool.eq_false_iff.mpr houtside)
    exact ensures_iff.mp (hdestroyed.mono (fun _ => id) (fun _ _ => .inl) fun _ _ => id) m hm

lemma ensures_constructTransfer (endpoint : UInt8) (timeout : ℤ) :
    Ensures (Using true .none) (constructTransfer endpoint timeout)
      (fun _ m => ∃ transfer, Using true ⟨some transfer, true, false⟩ m ∧
        m.object.fields.devHandle = m.object.dev.handle)
      (Stopped Terminated (Using true .none)) := by
  refine .bind (Q := fun allocated m => Using true ⟨allocated.transfer, false, false⟩
      { m with object := { m.object with
        transfer := ⟨allocated.transfer, false, false⟩, fields := zeroed } })
    (.call _ fun m hm => ?_) fun allocated => ?_
  · refine hm.call ?_ (fun r => ?_) rfl rfl rfl rfl rfl rfl
    · cases htransfer : (m.answers m.log.length).transfer <;> rw [events, htransfer] <;>
        exact hm.legal
    · refine Iff.trans ?_ (Locals.owns_allocated hm.transfer_eq).symm
      rw [← hm.held_iff]
      cases htransfer : (m.answers m.log.length).transfer <;> simp [events, htransfer]
  refine .bind (Q := fun _ => Using true ⟨allocated.transfer, false, false⟩)
    (.modifyObject _ fun m hm => hm) fun _ => ?_
  -- What is there of the transfer when an exception leaves the constructor.
  refine .onUnwind (D := Stopped Terminated fun m => ∃ context,
    Using true ⟨allocated.transfer, context, false⟩ m) ?_
    (fun _ => .of_exists fun context => ensures_destroyTransfer_of_left rfl) fun _ => id
  refine .bind (Q := fun _ m => Using true ⟨allocated.transfer, true, false⟩
      { m with object.transfer.context := true })
    (ensures_allocate (fun m answer hm hmemory => ?_) fun m answer hm hmemory => ?_) fun _ => ?_
  · have hacquired : events (.allocate .completionContext, answer) = [.acquire .context] :=
      if_pos hmemory
    refine hm.call (hacquired ▸ hm.legal) (fun r => ?_) rfl rfl rfl rfl rfl ?_
    · refine Iff.trans ?_ Locals.owns_context.symm
      rw [← hm.held_iff, hacquired]
      exact Finset.mem_insert
    · exact congrArg (fun t : InBulkTransfer => { t with context := true }) hm.transfer_eq
  · have hnothing : events (.allocate .completionContext, answer) = [] :=
      if_neg (Bool.eq_false_iff.mp hmemory)
    exact ⟨false, hm.call (hnothing ▸ hm.legal) (hnothing ▸ hm.held_iff) rfl rfl rfl rfl rfl
      hm.transfer_eq⟩
  refine .bind (Q := fun _ => Using true ⟨allocated.transfer, true, false⟩)
    (.modifyObject _ fun m hm => hm) fun _ => .ite (fun _ => ?_) fun hpresent => ?_
  · exact .throw _ fun m hm => ⟨true, hm⟩
  · obtain ⟨transfer, htransfer⟩ := Option.ne_none_iff_exists'.mp hpresent
    refine .modifyObject _ fun m hm => ⟨transfer, ?_, rfl⟩
    rw [htransfer] at hm
    exact ⟨⟨hm.legal, hm.held_iff, hm.lent, hm.opened, hm.timely⟩, hm.isOpen, hm.found,
      hm.deviceHandle_eq, hm.transfer_eq⟩

/-- In the states of the transfer with everything in place. -/
abbrev Whole (claimed : Bool) (transfer : TransferPtr) (m : Machine) : Prop :=
  ∃ inCallback, Using claimed ⟨some transfer, true, inCallback⟩ m

variable {transfer : TransferPtr}

lemma ensures_complete :
    Ensures (Using claimed ⟨some transfer, true, false⟩) complete
      (fun _ => Using claimed ⟨some transfer, true, true⟩)
      (Stopped Terminated (Whole claimed transfer)) := by
  refine .bind (Q := fun _ => Using claimed ⟨some transfer, true, false⟩) (.call _ fun m hm => ?_)
    fun completed => .bind (ensures_allocateOperation fun m answer hm hstarved =>
      hm.stopped .terminated (.inr hstarved)) fun _ => ?_
  · exact hm.call ⟨hm.context_mem rfl, hm.legal⟩ hm.held_iff rfl rfl rfl rfl rfl hm.transfer_eq
  refine .bind (Q := fun _ => Using claimed ⟨some transfer, true, true⟩)
    (.modifyObject _ fun m hm => ?_) fun _ => .bind (Q := fun _ =>
      Using claimed ⟨some transfer, true, true⟩) (.ite (fun _ => .throw _ fun m hm => ⟨true, hm⟩)
        fun _ => .pure _ fun _ => id) fun _ => .pure _ fun _ => id
  refine ⟨⟨hm.legal, fun r => (hm.held_iff r).trans ?_, hm.lent, hm.opened, hm.timely⟩, hm.isOpen,
    hm.found, hm.deviceHandle_eq, ?_⟩
  · cases r <;> rfl
  · exact congrArg (fun t : InBulkTransfer => { t with inCallback := true }) hm.transfer_eq

lemma ensures_asyncReadSome (buffer : Buffer) :
    Ensures (fun m => Using claimed ⟨some transfer, true, false⟩ m ∧
        m.object.fields.devHandle = m.object.dev.handle) (asyncReadSome buffer)
      (fun _ => Using claimed ⟨some transfer, true, true⟩)
      (Stopped Terminated (Whole claimed transfer)) := by
  -- The initiation: the handler is stored in the context, and the transfer is submitted.
  refine .bind (Q := fun _ m => Using claimed ⟨some transfer, true, false⟩ m ∧
      m.object.fields.devHandle = m.object.dev.handle) (ensures_allocate ?_ ?_) fun _ => ?_
  · rintro m answer ⟨hm, hfields⟩ hmemory
    have hstored : events (.allocate .handlerImpl, answer) = [.use .context] := if_pos hmemory
    refine ⟨hm.call ?_ ?_ rfl rfl rfl rfl rfl hm.transfer_eq, hfields⟩
    · exact hstored ▸ ⟨hm.context_mem rfl, hm.legal⟩
    · exact hstored ▸ hm.held_iff
  · rintro m answer ⟨hm, -⟩ hmemory
    have hnothing : events (.allocate .handlerImpl, answer) = [] :=
      if_neg (Bool.eq_false_iff.mp hmemory)
    have hsame : Using claimed ⟨some transfer, true, false⟩
        ⟨m.answers, (.allocate .handlerImpl, answer) :: m.log, m.object⟩ :=
      hm.call (hnothing ▸ hm.legal) (hnothing ▸ hm.held_iff) rfl rfl rfl rfl rfl hm.transfer_eq
    exact Stopped.mono (fun _ h => ⟨false, h⟩) _ _
      (hsame.stopped _ (.inl (by simp [starved, hmemory])))
  refine .bind (Q := fun x m => Using claimed ⟨some transfer, true, false⟩ m ∧ x = m.object ∧
      m.object.fields.devHandle = m.object.dev.handle)
    (.getObject fun m hm => ⟨hm.1, rfl, hm.2⟩) fun x => ?_
  refine .bind (Q := fun _ => Using claimed ⟨some transfer, true, false⟩) (.call _ ?_)
    fun submitted => .ite (fun _ => ?_) fun _ => ensures_complete
  · rintro m ⟨hm, rfl, hfields⟩
    refine hm.call ⟨hm.transfer_mem rfl, ?_, hm.legal⟩ hm.held_iff rfl rfl rfl rfl rfl
      hm.transfer_eq
    rw [hfields]
    exact hm.handle_mem
  -- The error of the submission is posted to the handler.
  refine .bind (ensures_allocateOperation fun m answer hm hstarved =>
    Stopped.mono (fun _ h => ⟨false, h⟩) _ _ (hm.stopped _ (.inr hstarved))) fun _ => ?_
  refine .bind (Q := fun _ => Using claimed ⟨some transfer, true, false⟩) (.call _ fun m hm => ?_)
    fun _ => .throw _ fun m hm => ⟨false, hm⟩
  exact hm.call ⟨hm.context_mem rfl, hm.legal⟩ hm.held_iff rfl rfl rfl rfl rfl hm.transfer_eq

lemma ensures_useInterface (buff : ℕ) :
    Ensures (Using true .none) (useInterface buff)
      (fun _ m => Using false .none m ∨ Broken overtakes m)
      (fun s m => Stopped Terminated (Using true .none) s m ∨ Broken overtakes m) := by
  have hsetAltSetting : Ensures (Using true .none)
      (awaitBlocking (InterfaceObject.setAltSettingEc 2)) (fun _ => Using true .none)
      (Stopped Terminated (Using true .none)) := ensures_awaitBlocking (ensures_setAltSetting 2)
  have hconstruct := ensures_constructTransfer 3 1000
  refine (hsetAltSetting.mono (fun _ => id) (fun _ _ => id) fun _ _ => .inl).bind fun _ =>
    (hconstruct.mono (fun _ => id) (fun _ _ => id) fun _ _ => .inl).bind fun _ =>
      .of_exists fun transfer => ?_
  refine .withCleanup (R := fun _ => Using false ⟨some transfer, true, true⟩)
    (D := Stopped Terminated (Whole true transfer)) ?_ (fun _ => ?_) (fun _ => ?_) fun _ => .inl
  · refine (ensures_asyncReadSome _).bind fun _ => ?_
    exact (ensures_awaitBlocking ensures_unclaim).mono (fun _ => id) (fun _ _ => id)
      (Stopped.mono fun _ h => ⟨true, h⟩)
  · exact ensures_destroyTransfer rfl
  · exact .of_exists fun inCallback => ensures_destroyTransfer rfl

/-! ### The coroutine -/

lemma ensures_useDev (buff : ℕ) :
    Ensures (Starting none) (useDev buff)
      (fun status m => (Looking [] m ∧ (status = .success ↔ m.log.flatMap opens ≠ [])) ∨
        Broken overtakes m)
      (fun s m => Stopped Terminated Left s m ∨ Broken overtakes m) := by
  have hopen : Ensures (Starting none) openDevices (fun _ => Before none [])
      (fun s m => Stopped Terminated Left s m ∨ Broken overtakes m) :=
    ensures_openDevices.mono (fun _ => id) (fun _ _ => id) fun s m h => by
      cases s with
      | thrown e => exact .inl h.left
      | terminated => exact .inl (h.imp_left .inl)
  refine hopen.bind fun _ => .bind (Q := fun x m => Before none [] m ∧ x = m.object)
    (.getObject fun m hm => ⟨hm, rfl⟩) fun x => .ite (fun hsome => ?_) fun hnone => ?_
  · refine .bind (Q := fun _ => Using true .none) ?_ fun _ => ?_
    · exact (ensures_constructInterface 1).mono (fun m ⟨hm, hx⟩ => ⟨hm, hx ▸ hsome⟩)
        (fun _ _ => id) fun _ _ => .inl
    refine .bind (Q := fun _ m => Using false .none m ∨ Broken overtakes m)
      (.withCleanup (ensures_useInterface buff) (fun _ => ?_) (fun _ => ?_) fun _ => id) fun _ => ?_
    · exact ensures_destroyInterface_of_unclaimed.or_invariant
        (lasting_broken overtakes).destroyInterface fun _ _ => .inr
    · exact ensures_destroyInterface.or_invariant (lasting_broken overtakes).destroyInterface
        fun _ _ => .inr
    · exact .pure _ fun m => .imp_left fun hm => ⟨hm.looking, iff_of_true rfl hm.found⟩
  · refine .pure _ fun m ⟨hm, hx⟩ => .inl ⟨hm.toLooking, iff_of_false nofun fun hfound => ?_⟩
    exact hnone (hx ▸ hm.found.mp hfound)

lemma run_resetHandle (m : Machine) : ∃ n,
    (DeviceObject.resetHandle none).run (inLibusb.narrow devPart m) = .ok () n ∧
      n.log.flatMap libusbEvents = closing m.object.dev.handle ∧
      n.log.flatMap libusbRefs = [] ∧ n.log.flatMap libusbOpens = [] ∧
      n.log.flatMap libusbAttempts = [] := by
  cases h : m.object.dev.handle with
  | none =>
    have hnarrow : (inLibusb.narrow devPart m).object.handle = none := h
    refine ⟨{ inLibusb.narrow devPart m with object := ⟨none, m.object.dev.notices⟩ }, ?_,
      rfl, rfl, rfl, rfl⟩
    simp [DeviceObject.resetHandle, hnarrow]
    rfl
  | some handle =>
    have hnarrow : (inLibusb.narrow devPart m).object.handle = some handle := h
    refine ⟨{ issue (inLibusb.narrow devPart m) (.close handle) with
      object := ⟨none, m.object.dev.notices⟩ }, ?_, rfl, rfl, rfl, rfl⟩
    simp [DeviceObject.resetHandle, hnarrow, issue]
    rfl

/-- Once the handle is closed. -/
lemma Left.settled (h : Left m) {n : Overloads.Machine DeviceObject}
    (hevents : n.log.flatMap libusbEvents = closing m.object.dev.handle)
    (hrefs : n.log.flatMap libusbRefs = []) (hopens : n.log.flatMap libusbOpens = []) :
    Settled (inLibusb.widen devPart m n) := by
  obtain ⟨x, hdev, hbooks⟩ := h.books
  have hlegal := hbooks.legal_closing
  have hheld := fun r => hbooks.mem_held_closing (r := r)
  simp only [hdev] at hlegal hheld
  refine ⟨?_, fun r hr => ?_, ?_, ?_⟩
  · rw [events_widen, hevents]
    exact hlegal
  · rw [events_widen, hevents] at hr
    obtain ⟨hr, hne⟩ := hheld r hr
    rw [refusals_widen]
    exact List.mem_append_right _ ((h.left r hr).resolve_left hne)
  · rw [refs_widen, hrefs]
    exact hbooks.lent
  · rw [opens_widen, hopens]
    exact hbooks.opened

lemma Lasting.destroyDev {P : Machine → Prop} (hP : Lasting P) :
    Ensures P destroyDev (fun _ => P) (fun _ => P) := hP.within _

lemma ensures_destroyDev {E : Stop Exception → Machine → Prop} :
    Ensures Left destroyDev (fun _ m => Settled m ∧ Timely m) E := by
  refine .within fun m hm => ?_
  obtain ⟨n, hrun, hevents, hrefs, hopens, -⟩ := run_resetHandle m
  rw [hrun]
  obtain ⟨x, -, hbooks⟩ := hm.books
  exact ⟨hm.settled hevents hrefs hopens, Timely.widen hbooks.timely⟩

/-- Without a claim that could be left, nothing is. -/
lemma ensures_destroyDev_of_looking (status : ExitStatus) {E : Stop Exception → Machine → Prop} :
    Ensures (fun m => Looking [] m ∧ (status = .success ↔ m.log.flatMap opens ≠ [])) destroyDev
      (fun _ m => Returned status m ∧ Timely m) E := by
  refine .within fun m ⟨hm, hstatus⟩ => ?_
  obtain ⟨n, hrun, hevents, hrefs, hopens, -⟩ := run_resetHandle m
  rw [hrun]
  refine ⟨⟨hm.left.settled hevents hrefs hopens, ?_, ?_⟩, Timely.widen (m := m) hm.books.timely⟩
  · rw [events_widen, hevents]
    exact hm.held_closing
  · rw [opens_widen, hopens]
    exact hstatus

/-- Before the first call that counts. -/
structure Blank (answers : ℕ → Answer) (deviceHandle : Option DeviceHandle) (m : Machine) :
    Prop where
  events_eq : m.log.flatMap events = []
  refs_eq : m.log.flatMap refs = []
  opens_eq : m.log.flatMap opens = []
  attempts_eq : m.log.flatMap attempts = []
  timely : Timely m
  object_eq : m.object = .storage deviceHandle
  answers_eq : m.answers = answers

variable {answers : ℕ → Answer} {deviceHandle : Option DeviceHandle}

lemma Blank.settled (h : Blank answers deviceHandle m) : Settled m := by
  refine ⟨?_, ?_, ?_, ?_⟩
  · rw [h.events_eq]
    trivial
  · rw [h.events_eq]
    exact fun r hr => absurd hr (Finset.notMem_empty r)
  · rw [h.refs_eq]
    exact ⟨trivial, trivial, fun _ => rfl⟩
  · rw [h.opens_eq]
    nofun

lemma Blank.starting (h : Blank answers deviceHandle m)
    (hdocumented : ∀ i, DeviceList.Documented (answers i).list) : Starting deviceHandle m := by
  have hobject := h.object_eq
  refine ⟨⟨⟨⟨h.settled.legal, fun r => ?_, h.settled.lent, h.settled.opened, h.timely⟩, ?_, ?_⟩,
    h.attempts_eq, ?_⟩, h.refs_eq, h.answers_eq ▸ hdocumented⟩
  · show r ∈ held (m.log.flatMap events) ↔ _
    rw [h.events_eq]
    refine iff_of_false (Finset.notMem_empty r) fun howns => ?_
    rw [unbuilt, hobject] at howns
    obtain ⟨handle, hdev, -⟩ := (Locals.owns_iff rfl rfl).mp howns
    cases hdev
  · rw [hobject]
    rfl
  · rw [hobject]
    exact iff_of_false (fun hfound => hfound h.opens_eq) nofun
  · rw [hobject]
    rfl

/-- Once `dev` is constructed, or without it. -/
lemma ensures_constructDev (hdocumented : ∀ i, DeviceList.Documented (answers i).list) :
    Ensures (fun m => m = .start answers (.storage deviceHandle)) constructDev
      (fun _ => Starting deviceHandle)
      (fun s m => (∃ e, s = .thrown e) ∧ Blank answers deviceHandle m) := by
  have hcall : ∀ m c answer, Blank answers deviceHandle m → events (c, answer) = [] →
      refs (c, answer) = [] → opens (c, answer) = [] → attempts (c, answer) = [] →
      overtakes (c, answer) = [] →
      Blank answers deviceHandle ⟨m.answers, (c, answer) :: m.log, m.object⟩ := by
    -- none of the calls up to here acquires, releases or opens anything
    intro m c answer hm hevents hrefs hopens hattempts hovertakes
    refine ⟨?_, ?_, ?_, ?_, ?_, hm.object_eq, hm.answers_eq⟩
    · rw [List.flatMap_cons, hevents, hm.events_eq, List.nil_append]
    · rw [List.flatMap_cons, hrefs, hm.refs_eq, List.nil_append]
    · rw [List.flatMap_cons, hopens, hm.opens_eq, List.nil_append]
    · rw [List.flatMap_cons, hattempts, hm.attempts_eq, List.nil_append]
    · rw [Timely, List.flatMap_cons, hovertakes, hm.timely, List.nil_append]
  have hallocate : Ensures (Blank answers deviceHandle) (allocate .usbService badAlloc)
      (fun _ => Blank answers deviceHandle)
      (fun s m => (∃ e, s = .thrown e) ∧ Blank answers deviceHandle m) :=
    ensures_allocate (fun m answer hm _ => hcall m _ answer hm rfl rfl rfl rfl rfl)
      fun m answer hm _ => ⟨⟨_, rfl⟩, hcall m _ answer hm rfl rfl rfl rfl rfl⟩
  have huseService : Ensures (Blank answers deviceHandle) useService
      (fun _ => Blank answers deviceHandle)
      (fun s m => (∃ e, s = .thrown e) ∧ Blank answers deviceHandle m) := by
    refine hallocate.bind fun _ => .bind (Q := fun _ => Blank answers deviceHandle)
      (.call _ fun m hm => hcall m _ _ hm rfl rfl rfl rfl rfl) fun init => ?_
    exact .ite (fun _ => .throw _ fun m hm => ⟨⟨_, rfl⟩, hm⟩) fun _ => .pure _ fun _ => id
  refine (huseService.pre ?_).bind fun _ => .modifyObject _ fun m hm => ?_
  · rintro m rfl
    exact ⟨rfl, rfl, rfl, rfl, rfl, rfl, rfl⟩
  · have hsame : ({ m.object with dev := ⟨none, []⟩ } : Locals) = m.object := by
      rw [hm.object_eq]
      rfl
    rw [hsame]
    exact hm.starting hdocumented

end UsbAsio.FromReadme
