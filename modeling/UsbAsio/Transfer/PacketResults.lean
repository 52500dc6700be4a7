import UsbAsio.Transfer.Descriptors
import UsbAsio.Transfer.Turns

/-!
# Results of the packets

At every completion of an isochronous transfer, `completion_callback` writes the results of the
packets into the storage of the completion context, and gives the handler a span of that storage,
which the next completion will write again. When operations are started in turn, the handler finds
the results of its own operation in it.
-/

namespace UsbAsio.Transfer.Iso

open Memory Transition

variable {E : Type*}

/-! ### Steps -/

/-- A `std::span` of the result storage, from its first element on. -/
structure Span where
  size : ℕ
  deriving DecidableEq

/-- `result_type{}` is the empty span. -/
instance : Inhabited Span := ⟨⟨0⟩⟩

/-- What libusb stores in a descriptor. -/
structure PacketReport where
  actualLength : ℕ
  status : ℤ
  deriving DecidableEq

def PacketDescriptor.store (report : PacketReport) (d : PacketDescriptor) : PacketDescriptor :=
  { d with actualLength := report.actualLength, status := report.status }

/-- The function that `completion_callback` applies to each descriptor. -/
def PacketDescriptor.result (d : PacketDescriptor) : PacketResult :=
  ⟨d.actualLength, makeTransferErrorCode d.status⟩

/-- libusb stores what has become of each packet. -/
def IsoTransfer.store (x : IsoTransfer E) (reports : ℕ → PacketReport) : IsoTransfer E :=
  { x with
    isoPacketDesc := { x.isoPacketDesc with
      cells := x.isoPacketDesc.cells.mapIdx fun i d => d.store (reports i) } }

/-- `std::ranges::transform` over `static_cast<std::size_t>(handle->num_iso_packets)` descriptors
into `context.result_storage.begin()`. -/
def IsoTransfer.transform (x : IsoTransfer E) : IsoTransfer E :=
  { x with
    resultStorage := Region.fill (fun result _ => result) x.resultStorage 0
      ((x.isoPacketDesc.cells.take (x.numIsoPackets % 2 ^ 64).toNat).map PacketDescriptor.result) }

/-- `std::span{context.result_storage}`. -/
def IsoTransfer.span (x : IsoTransfer E) : Span := ⟨x.resultStorage.cells.length⟩

/-- A transfer, and for each operation whether libusb has accepted it and what it has stored at its
completion. -/
structure World (E : Type*) where
  object : IsoTransfer E
  transfer : State Span
  accepted : ℕ → Option Bool
  reports : ℕ → Option (ℕ → PacketReport)

def init (x : IsoTransfer E) : World E := ⟨x, Transfer.init Span, fun _ => none, fun _ => none⟩

inductive Action where
  | complete (status : ℤ) (reports : ℕ → PacketReport)
  | other (a : Transfer.Action Span)

/-- The results are written before the handler is called. -/
def World.complete (w : World E) (reports : ℕ → PacketReport) (t : State Span) : World E :=
  { w with
    object := (w.object.store reports).transform
    transfer := t
    reports := match w.transfer.inFlight with
      | some sub => Function.update w.reports sub.op (some reports)
      | none     => w.reports }

/-- The answer of `libusb_submit_transfer` is remembered. -/
def World.submit (w : World E) (op : ℕ) (retCode : ℤ) (t : State Span) : World E :=
  { w with
    transfer := t
    accepted := Function.update w.accepted op
      (some !(libusbTry (w.transfer.libusbSubmitTransfer retCode)).1.isError) }

def step (w : World E) : Action → Option (World E)
  | .complete status reports =>
    (Transfer.step w.transfer
      (.complete status (w.object.store reports).transform.span)).map (w.complete reports)
  | .other (.complete _ _)      => none
  | .other (.submit op retCode) =>
    (Transfer.step w.transfer (.submit op retCode)).map (w.submit op retCode)
  | .other a                    =>
    (Transfer.step w.transfer a).map fun t => { w with transfer := t }

/-! ### The property -/

/-- An operation is started only when the handler of the previous one has begun to run. -/
def InTurn (w : World E) : Action → Prop
  | .complete _ _ => True
  | .other a      => Transfer.InTurn w.transfer a

instance (w : World E) (a : Action) : Decidable (InTurn w a) :=
  match a with
  | .complete _ _ => inferInstanceAs (Decidable True)
  | .other a      => inferInstanceAs (Decidable (Transfer.InTurn w.transfer a))

/-- What a span shows. -/
def World.view (w : World E) (s : Span) : List PacketResult :=
  w.object.resultStorage.cells.take s.size

/-- The results of `n` packets. -/
def resultsOf (n : ℕ) (reports : ℕ → PacketReport) : List PacketResult :=
  (List.range n).map fun i => ⟨(reports i).actualLength, makeTransferErrorCode (reports i).status⟩

/-- What the handler of an operation receives: after a successful submission a span of the `n`
results of its own completion, and after a failed one the empty span. -/
def Receives (n : ℕ) (w : World E) (op : ℕ) : Prop :=
  ∃ o, (w.transfer.ops op).posted = [o] ∧
    ((w.accepted op = some true ∧ ∃ reports, w.reports op = some reports ∧
        o.result.size = n ∧ w.view o.result = resultsOf n reports) ∨
      (w.accepted op = some false ∧ o.result.size = 0))

/-- A property of the moments at which a handler begins to run. -/
def AtHandler (P : World E → ℕ → Prop) (w : World E) : Action → Prop
  | .other (.runHandler op) => P w op
  | _                       => True

/-- A completion has the `n` results for the handler of its operation, and then the handler, if it
is still in the slot, is posted with them. -/
def AtCompletion (n : ℕ) (w : World E) : Action → Prop
  | .complete status reports => ∀ w', step w (.complete status reports) = some w' →
    ∃ sub, w.transfer.inFlight = some sub ∧ w'.reports sub.op = some reports ∧
      w'.transfer.callbackPc = .running sub.op ⟨makeTransferErrorCode status, ⟨n⟩⟩
  | .other .postResult => ∀ w', step w (.other .postResult) = some w' →
    ∃ op o reports, w.transfer.callbackPc = .running op o ∧ w.reports op = some reports ∧
      o.result.size = n ∧ (w.transfer.slot ≠ none →
        (w'.transfer.ops op).posted = [o] ∧ w'.view o.result = resultsOf n reports)
  | _ => True

/-- No write has gone past the descriptors or the results. -/
structure Inside (w : World E) : Prop where
  descriptors : w.object.isoPacketDesc.overrun = false
  results : w.object.resultStorage.overrun = false

/-! ### One completion -/

/-- An object whose constructor was given `n` packets, at any later time. -/
structure Sized (n : ℕ) (x : IsoTransfer E) : Prop where
  numIsoPackets : x.numIsoPackets = n
  small : n < 2 ^ 64
  descriptors : x.isoPacketDesc.cells.length = n
  inside : x.isoPacketDesc.overrun = false
  results : x.resultStorage.cells.length = n
  resultsInside : x.resultStorage.overrun = false

variable {n : ℕ} {x : IsoTransfer E}

lemma Configured.sized {packetSizes : List ℕ} (h : Configured packetSizes x)
    (hn : packetSizes.length < 2 ^ 31) : Sized packetSizes.length x where
  numIsoPackets := h.numIsoPackets
  small := hn.trans (by decide)
  descriptors := by
    have hlength := congrArg List.length h.lengths
    rwa [List.length_map] at hlength
  inside := h.inside
  results := h.results
  resultsInside := h.resultsInside

lemma map_result_store (reports : ℕ → PacketReport) :
    (x.store reports).isoPacketDesc.cells.map PacketDescriptor.result =
      resultsOf x.isoPacketDesc.cells.length reports := by
  apply List.ext_getElem
  · simp [IsoTransfer.store, resultsOf]
  · intro i _ _
    simp [IsoTransfer.store, resultsOf, PacketDescriptor.store, PacketDescriptor.result]

/-- All descriptors are read, and as many results are written as there is room for. -/
lemma Sized.transform_store (h : Sized n x) (reports : ℕ → PacketReport) :
    (x.store reports).transform =
      { x.store reports with
        resultStorage := { x.resultStorage with cells := resultsOf n reports } } := by
  have hcount : ((x.store reports).numIsoPackets % 2 ^ 64).toNat = n := by
    have hmod : (n : ℤ) % 2 ^ 64 = n := Int.emod_eq_of_lt (by omega) (by exact_mod_cast h.small)
    rw [IsoTransfer.store, h.numIsoPackets, hmod, Int.toNat_natCast]
  have htake : (x.store reports).isoPacketDesc.cells.take n =
      (x.store reports).isoPacketDesc.cells :=
    List.take_of_length_le (by simp [IsoTransfer.store, h.descriptors])
  have hlength : (resultsOf n reports).length = x.resultStorage.cells.length := by
    rw [h.results, resultsOf, List.length_map, List.length_range]
  have hresults : List.zipWith (fun result _ => result) (resultsOf n reports)
      x.resultStorage.cells = resultsOf n reports := by
    apply List.ext_getElem
    · simp [hlength]
    · intro i _ _
      simp
  rw [IsoTransfer.transform, hcount, htake, map_result_store, h.descriptors]
  have hfill := Region.fill_of_length_eq (f := fun (result _ : PacketResult) => result) hlength
  rw [hresults] at hfill
  rw [← hfill]
  rfl

/-! ### The invariant -/

/-- What is known about an operation with an outcome. While it is the latest one, the storage holds
its results. -/
def Recorded (n : ℕ) (w : World E) (op : ℕ) : Prop :=
  ∀ o, (w.transfer.ops op).outcome = some o →
    (w.accepted op = some true ∧ ∃ reports, w.reports op = some reports ∧ o.result.size = n ∧
      (op + 1 = w.transfer.nextOp → w.object.resultStorage.cells = resultsOf n reports)) ∨
    (w.accepted op = some false ∧ o.result.size = 0)

structure Inv (n : ℕ) (w : World E) : Prop where
  turns : Turns w.transfer
  sized : Sized n w.object
  recorded : ∀ op, Recorded n w op
  inFlight : ∀ sub, w.transfer.inFlight = some sub → w.accepted sub.op = some true
  running : ∀ op o, w.transfer.callbackPc = .running op o → w.accepted op = some true

variable {w w' : World E}

lemma inv_init (h : Sized n x) : Inv n (init x) := ⟨turns_init, h, nofun, nofun, nofun⟩

/-- A new report concerns only the operation that libusb completes. -/
lemma World.reports_complete {sub : Submission} (hfly : w.transfer.inFlight = some sub)
    (reports : ℕ → PacketReport) (t : State Span) :
    (w.complete reports t).reports = Function.update w.reports sub.op (some reports) := by
  simp only [World.complete, hfly]

lemma Sized.complete (h : Sized n w.object) (reports : ℕ → PacketReport) (t : State Span) :
    Sized n (w.complete reports t).object ∧
      (w.complete reports t).object.resultStorage.cells = resultsOf n reports := by
  rw [World.complete, h.transform_store]
  refine ⟨⟨h.numIsoPackets, h.small, ?_, h.inside, ?_, h.resultsInside⟩, rfl⟩
  · simp [IsoTransfer.store, h.descriptors]
  · simp [resultsOf]

lemma Sized.span_store (h : Sized n x) (reports : ℕ → PacketReport) :
    (x.store reports).transform.span = ⟨n⟩ := by
  rw [h.transform_store, IsoTransfer.span, resultsOf, List.length_map, List.length_range]

lemma running_complete {s t : State Span} {status : ℤ} {result : Span}
    (ht : Transfer.step s (.complete status result) = some t) :
    ∃ sub, s.inFlight = some sub ∧
      t.callbackPc = .running sub.op ⟨makeTransferErrorCode status, result⟩ := by
  cases (Rule.of_step ht).2 with
  | complete _ _ sub hfly => exact ⟨sub, hfly, rfl⟩

/-- Only a completion begins a callback. -/
lemma running_of_step {s t : State Span} {a : Transfer.Action Span} {op : ℕ} {o : Outcome Span}
    (hcomplete : ∀ status result, a ≠ .complete status result)
    (ht : Transfer.step s a = some t) (h : t.callbackPc = .running op o) :
    s.callbackPc = .running op o := by
  cases (Rule.of_step ht).2 with
  | complete status result => exact absurd rfl (hcomplete status result)
  | postResult => cases h
  | resetSlot => cases h
  | postError op ec =>
    rw [State.setOp_callbackPc, State.invokeHandler_callbackPc] at h
    exact h
  | _ => exact h

lemma Inv.complete (h : Inv n w) {status : ℤ} {reports : ℕ → PacketReport} {t : State Span}
    (ht : Transfer.step w.transfer
      (.complete status (w.object.store reports).transform.span) = some t) :
    Inv n (w.complete reports t) := by
  obtain ⟨sub, hfly, hnone, hnext, hout⟩ := outcome_complete ht
  obtain ⟨hsized, hcells⟩ := h.sized.complete reports t
  have hspan : (w.object.store reports).transform.span.size = n := by rw [h.sized.span_store]
  have hlast := h.turns.last_of_inFlight hfly
  refine ⟨h.turns.complete ht, hsized, fun op o (ho : (t.ops op).outcome = some o) => ?_,
    fun sub' (hsub : t.inFlight = some sub') => ?_,
    fun op o (hrunning : t.callbackPc = .running op o) => ?_⟩
  · rw [hout] at ho
    rw [World.reports_complete hfly]
    split_ifs at ho with hop
    · cases ho
      rw [hop, Function.update_self]
      exact .inl ⟨h.inFlight sub hfly, reports, rfl, hspan, fun _ => hcells⟩
    · -- the storage is overwritten, but `op` is not the latest operation
      refine (h.recorded op o ho).imp_left ?_
      rintro ⟨hacc, reports', hreports, hsize, -⟩
      rw [Function.update_of_ne hop]
      refine ⟨hacc, reports', hreports, hsize, fun (hop' : op + 1 = t.nextOp) => ?_⟩
      omega
  · rw [hnone] at hsub
    cases hsub
  · obtain ⟨sub', hfly', hcallback⟩ := running_complete ht
    rw [hcallback] at hrunning
    cases hrunning
    exact h.inFlight sub' hfly'

lemma Inv.submit (h : Inv n w) {op : ℕ} {retCode : ℤ} {t : State Span}
    (ht : Transfer.step w.transfer (.submit op retCode) = some t) :
    Inv n (w.submit op retCode t) := by
  obtain ⟨hpc, hnext, hcases⟩ := outcome_submit ht
  have hlocal := h.turns.known op
  have hnew : (w.transfer.ops op).outcome = none := (hlocal.early (.inr (.inr hpc))).1
  have hself : (w.submit op retCode t).accepted op =
      some !(libusbTry (w.transfer.libusbSubmitTransfer retCode)).1.isError :=
    Function.update_self ..
  have hother : ∀ k ≠ op, (w.submit op retCode t).accepted k = w.accepted k :=
    fun k hk => Function.update_of_ne hk ..
  refine ⟨h.turns.submit ht, h.sized, fun k o (ho : (t.ops k).outcome = some o) => ?_,
    fun sub (hsub : t.inFlight = some sub) => ?_,
    fun k o (hrunning : t.callbackPc = .running k o) => ?_⟩
  · -- only a refusal gives a submission its arguments, without results
    by_cases hk : k = op
    · subst hk
      rcases hcases with ⟨herr, -, hout⟩ | ⟨-, -, hout⟩
      · rw [hout, if_pos rfl] at ho
        cases ho
        exact .inr ⟨by rw [hself, herr, Bool.not_true], rfl⟩
      · rw [hout, hnew] at ho
        cases ho
    · have hold : (w.transfer.ops k).outcome = some o := by
        rcases hcases with ⟨-, -, hout⟩ | ⟨-, -, hout⟩
        · rwa [hout, if_neg hk] at ho
        · rwa [hout] at ho
      have hrecorded := h.recorded k o hold
      rw [← hnext] at hrecorded
      rw [hother k hk]
      exact hrecorded
  · rcases hcases with ⟨-, hfly, -⟩ | ⟨hok, hfly, -⟩
    · rw [hfly] at hsub
      have hsub' : sub.op ≠ op := by
        rintro rfl
        exact hlocal.not_inFlight (by simp [hpc]) sub.args hsub
      rw [hother _ hsub']
      exact h.inFlight sub hsub
    · rw [hfly] at hsub
      cases hsub
      rw [hself, hok, Bool.not_false]
  · have hbefore := running_of_step (by rintro _ _ ⟨⟩) ht hrunning
    have hne : k ≠ op := by
      rintro rfl
      obtain ⟨hdone, -⟩ := (h.turns.known k).running o hbefore
      rw [hpc] at hdone
      cases hdone
    rw [hother k hne]
    exact h.running k o hbefore

lemma Inv.other (h : Inv n w) {a : Transfer.Action Span} {t : State Span}
    (hsubmit : ∀ op retCode, a ≠ .submit op retCode)
    (hcomplete : ∀ status result, a ≠ .complete status result)
    (hturn : Transfer.InTurn w.transfer a) (ht : Transfer.step w.transfer a = some t) :
    Inv n { w with transfer := t } := by
  obtain ⟨hfly, hout⟩ := outcome_step hsubmit hcomplete ht
  have hle := nextOp_le_of_step ht
  refine ⟨turns_step h.turns hturn ht, h.sized, fun op o ho => ?_, fun sub hsub => ?_,
    fun op o hrunning => h.running op o (running_of_step hcomplete ht hrunning)⟩
  · rw [hout] at ho
    have hlt : op < w.transfer.nextOp :=
      h.turns.wellFormed.lt_nextOp fun hnew => by simp [hnew] at ho
    refine (h.recorded op o ho).imp_left ?_
    rintro ⟨hacc, reports, hreports, hsize, hcells⟩
    refine ⟨hacc, reports, hreports, hsize, fun (hlast : op + 1 = t.nextOp) => hcells ?_⟩
    omega
  · rw [hfly] at hsub
    exact h.inFlight sub hsub

/-! ### Every run -/

/-- A step is a completion, a submission, or does not touch the results. -/
lemma step_cases {a : Action} (h : step w a = some w') :
    (∃ status reports t, a = .complete status reports ∧ Transfer.step w.transfer
        (.complete status (w.object.store reports).transform.span) = some t ∧
        w' = w.complete reports t) ∨
      (∃ op retCode t, a = .other (.submit op retCode) ∧
        Transfer.step w.transfer (.submit op retCode) = some t ∧ w' = w.submit op retCode t) ∨
      ∃ b t, a = .other b ∧ (∀ op retCode, b ≠ .submit op retCode) ∧
        (∀ status result, b ≠ .complete status result) ∧ Transfer.step w.transfer b = some t ∧
        w' = { w with transfer := t } := by
  cases a with
  | complete status reports =>
    obtain ⟨t, ht, rfl⟩ := Option.map_eq_some_iff.mp h
    exact .inl ⟨status, reports, t, rfl, ht, rfl⟩
  | other b =>
    cases b with
    | complete status result => cases h
    | submit op retCode =>
      obtain ⟨t, ht, rfl⟩ := Option.map_eq_some_iff.mp h
      exact .inr (.inl ⟨op, retCode, t, rfl, ht, rfl⟩)
    | _ =>
      obtain ⟨t, ht, rfl⟩ := Option.map_eq_some_iff.mp h
      exact .inr (.inr ⟨_, t, rfl, nofun, nofun, ht, rfl⟩)

lemma inv_step {a : Action} (h : Inv n w) (hturn : InTurn w a) (hstep : step w a = some w') :
    Inv n w' := by
  rcases step_cases hstep with ⟨status, reports, t, rfl, ht, rfl⟩ |
    ⟨op, retCode, t, rfl, ht, rfl⟩ | ⟨b, t, rfl, hsubmit, hcomplete, ht, rfl⟩
  · exact h.complete ht
  · exact h.submit ht
  · exact h.other hsubmit hcomplete hturn ht

/-- A handler that begins to run is that of the latest operation. -/
lemma Inv.receives (h : Inv n w) {op : ℕ} (hstep : step w (.other (.runHandler op)) = some w') :
    Receives n w op := by
  obtain ⟨t, ht, rfl⟩ := Option.map_eq_some_iff.mp hstep
  obtain ⟨hlast, o, hout, hposted⟩ := h.turns.posted_of_run ht
  refine ⟨o, hposted, (h.recorded op o hout).imp_left ?_⟩
  rintro ⟨hacc, reports, hreports, hsize, hcells⟩
  refine ⟨hacc, reports, hreports, hsize, ?_⟩
  rw [World.view, hsize, hcells hlast]
  exact List.take_of_length_le (by simp [resultsOf])

/-- The operation of a callback is the latest one, so its results are in the storage. -/
lemma Inv.atCompletion (h : Inv n w) (a : Action) : AtCompletion n w a := by
  unfold AtCompletion
  split
  · rename_i status reports
    intro w' hstep
    obtain ⟨t, ht, rfl⟩ := Option.map_eq_some_iff.mp hstep
    rw [h.sized.span_store] at ht
    obtain ⟨sub, hfly, hrunning⟩ := running_complete ht
    refine ⟨sub, hfly, ?_, hrunning⟩
    rw [World.reports_complete hfly, Function.update_self]
  · intro w' hstep
    obtain ⟨t, ht, rfl⟩ := Option.map_eq_some_iff.mp hstep
    cases (Rule.of_step ht).2 with
    | postResult op o hrunning =>
      -- the callback runs for an operation that was accepted, so its results are recorded
      obtain ⟨hpc, hout, hnil⟩ := (h.turns.known op).running o hrunning
      have hnew : w.transfer.ops op ≠ {} := fun hnew => by simp [hnew] at hpc
      have haccepted := h.running op o hrunning
      obtain ⟨-, reports, hreports, hsize, hcells⟩ | ⟨hrefused, -⟩ := h.recorded op o hout
      · refine ⟨op, o, reports, hrunning, hreports, hsize, fun hslot => ⟨?_, ?_⟩⟩
        · obtain ⟨k, hslot⟩ := Option.ne_none_iff_exists'.mp hslot
          obtain rfl := h.turns.slot_eq hslot (by simp [Op.Initiated, hpc]) hnil
          rw [State.invokeHandler_of_slot hslot]
          simp [State.setOp, hnil]
        · show w.object.resultStorage.cells.take o.result.size = resultsOf n reports
          rw [hsize, hcells (h.turns.last hnew hnil)]
          exact List.take_of_length_le (by simp [resultsOf])
      · rw [haccepted] at hrefused
        cases hrefused
  · trivial

lemma Inv.inside (h : Inv n w) : Inside w := ⟨h.sized.inside, h.sized.resultsInside⟩

/-- Both constructors set up a descriptor and a result for each packet, and on every run that starts
its operations in turn each handler finds the results of its own operation. -/
theorem receives_of_inTurn {memory : Available} {executor : E} {device : DeviceRef E}
    {endpoint : UInt8} {timeout : ℤ} {packetSizes : List ℕ} (hn : packetSizes.length < 2 ^ 31)
    (hsizes : ∀ size ∈ packetSizes, size < 2 ^ 32)
    (h : isochronous memory executor device endpoint packetSizes timeout = some x) :
    Configured packetSizes x ∧
      (∀ numPackets packetSize,
        isochronousUniform memory executor device endpoint numPackets packetSize timeout =
          isochronous memory executor device endpoint (List.replicate numPackets packetSize)
            timeout) ∧
      ∀ as, Along step InTurn (init x) as →
        Along step (AtHandler (Receives packetSizes.length)) (init x) as ∧
          Along step (AtCompletion packetSizes.length) (init x) as ∧
          Always step Inside (init x) as := by
  have hconfigured := configured_isochronous hn hsizes h
  refine ⟨hconfigured, fun _ _ => isochronousUniform_eq .., fun as hturn => ?_⟩
  have hinit := inv_init (hconfigured.sized hn)
  have hstep : ∀ (w : World E) a w', Inv packetSizes.length w → InTurn w a →
      step w a = some w' → Inv packetSizes.length w' := fun _ _ _ => inv_step
  refine ⟨along_of_invariant hstep ?_ hinit hturn,
    along_of_invariant hstep (fun _ a _ hw _ _ => hw.atCompletion a) hinit hturn,
    always_of_invariant hstep (fun _ => Inv.inside) hinit hturn⟩
  intro w a w' hw _ hs
  unfold AtHandler
  split
  · exact hw.receives hs
  · trivial

/-- A read of two packets, the second of which overflows, and a submission that fails. -/
theorem receives_two_packets :
    let as : List Action := [.other (.call (asyncReadSome ⟨4096, 392⟩)), .other (.initiate 0),
      .other (.submit 0 0), .complete 0 (fun i => if i = 0 then ⟨192, 0⟩ else ⟨200, 6⟩),
      .other .postResult, .other .resetSlot, .other (.runHandler 0),
      .other (.call (asyncReadSome ⟨4096, 392⟩)), .other (.initiate 1), .other (.submit 1 (-4)),
      .other (.postError 1), .other (.resetError 1), .other (.runHandler 1)]
    ∃ x, isochronous ⟨true, true, true⟩ () ⟨none, ()⟩ 0x81 [192, 200] 1000 = some x ∧
      (exec step (init x) as).isSome ∧ Along step (AtHandler (Receives 2)) (init x) as ∧
        Along step (AtCompletion 2) (init x) as := by
  intro as
  have hconstruct : isochronous ⟨true, true, true⟩ () ⟨none, ()⟩ 0x81 [192, 200] 1000 = some _ :=
    rfl
  obtain ⟨-, -, hruns⟩ := receives_of_inTurn (by decide) (by decide) hconstruct
  obtain ⟨hhandlers, hcompletions, -⟩ := hruns as (by decide)
  exact ⟨_, hconstruct, by decide, hhandlers, hcompletions⟩

end UsbAsio.Transfer.Iso
