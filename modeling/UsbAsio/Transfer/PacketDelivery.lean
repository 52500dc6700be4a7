import UsbAsio.Transfer.Delivery
import UsbAsio.Transfer.PacketResults

/-!
# The packets that a handler finds

What `async_read_some` and `async_write_some` are for on isochronous transfers. libusb lays the
packets one behind the other by the lengths that the constructor has set, whether or not they have
been filled. When the operations are started in turn, with buffers that are large enough, and the
program leaves the buffer of an operation alone until its handler runs, the handler finds each
packet where the packets before it end, and for each the number of its bytes and its status.
-/

namespace UsbAsio.Transfer.PacketDelivery

open Iso Memory Transition

variable {E : Type*}

/-- What libusb has moved for the packets of an operation, and the status of each. -/
structure Packets where
  direction : UsbTransferDirection
  data : ℕ → List UInt8
  status : ℕ → ℤ

def Packets.report (p : Packets) (i : ℕ) : PacketReport := ⟨(p.data i).length, p.status i⟩

/-- A transfer with its calls, and the memory of the process, and for each operation that libusb has
completed its packets. -/
structure World (E : Type*) where
  iso : Iso.World E
  calls : List Deferred.Call
  memory : ℕ → UInt8
  packets : ℕ → Option Packets

def init (x : IsoTransfer E) (memory : ℕ → UInt8) : World E :=
  ⟨Iso.init x, [], memory, fun _ => none⟩

inductive Action where
  /-- The program writes to its memory. -/
  | write (addr : ℕ) (byte : UInt8)
  | call (c : Deferred.Call)
  /-- A completion that has moved the bytes `data i` for packet `i`. -/
  | complete (status : ℤ) (data : ℕ → List UInt8) (statuses : ℕ → ℤ)
  | other (a : Transfer.Action Span)

/-! ### libusb -/

/-- The lengths of the packets, as libusb finds them. -/
def lengths (x : IsoTransfer E) : List ℕ :=
  (x.isoPacketDesc.cells.take x.numIsoPackets.toNat).map PacketDescriptor.length

/-- The memory after a completion; `handle->length` plays no part. -/
def received (x : IsoTransfer E) (args : Args) (data : ℕ → List UInt8) (memory : ℕ → UInt8) :
    ℕ → UInt8 :=
  if Direction.deviceToHost x.usbTransfer.handle then
    scatter memory args.buffer (lengths x) data
  else memory

/-- What libusb moves in a completion: `data` from the device, or as many bytes of the buffer. -/
def exchange (x : IsoTransfer E) (args : Args) (data : ℕ → List UInt8) (statuses : ℕ → ℤ)
    (memory : ℕ → UInt8) : Packets :=
  ⟨Direction.directionOf x.usbTransfer.handle,
    if Direction.deviceToHost x.usbTransfer.handle then data
    else fun i => cellsAt memory (args.buffer + offset (lengths x) i) (data i).length,
    statuses⟩

/-! ### Steps -/

/-- One step. Only the calls exist that the direction of the class allows, and no packet gets longer
than its descriptor says. -/
def step (direction : UsbTransferDirection) (w : World E) : Action → Option (World E)
  | .write addr byte               =>
    some { w with memory := Function.update w.memory addr byte }
  | .call c                        =>
    if Direction.requires c = some direction then
      (Iso.step w.iso (.other (.call c.args))).map fun iso =>
        { w with iso := iso, calls := w.calls ++ [c] }
    else none
  | .complete status data statuses =>
    match w.iso.transfer.inFlight with
    | none     => none
    | some sub =>
      if Fits (lengths w.iso.object) data then
        (Iso.step w.iso (.complete status fun i => ⟨(data i).length, statuses i⟩)).map fun iso =>
          { w with
            iso := iso
            memory := received w.iso.object sub.args data w.memory
            packets := Function.update w.packets sub.op
              (some (exchange w.iso.object sub.args data statuses w.memory)) }
      else none
  | .other (.call _)               => none
  | .other a                       =>
    (Iso.step w.iso (.other a)).map fun iso => { w with iso := iso }

/-! ### The condition and the property -/

/-- The program starts its operations in turn and with room for all packets, and does not write to
the buffer of an operation whose handler has not begun to run. -/
def Careful (packetSizes : List ℕ) (w : World E) : Action → Prop
  | .write addr _   => ∀ p ∈ w.calls.zipIdx, (w.iso.transfer.ops p.2).begun = false →
    addr ∉ Direction.bytesOf p.1.buffer
  | .call c         => Transfer.InTurn w.iso.transfer (.call c.args) ∧
    packetSizes.sum ≤ c.buffer.size
  | .complete _ _ _ => True
  | .other _        => True

instance (packetSizes : List ℕ) (w : World E) (a : Action) : Decidable (Careful packetSizes w a) :=
  match a with
  | .write addr _                => inferInstanceAs (Decidable (∀ p ∈ w.calls.zipIdx,
    (w.iso.transfer.ops p.2).begun = false → addr ∉ Direction.bytesOf p.1.buffer))
  | .call c                      => inferInstanceAs (Decidable
    (Transfer.InTurn w.iso.transfer (.call c.args) ∧ packetSizes.sum ≤ c.buffer.size))
  | .complete _ _ _ | .other _ => isTrue trivial

/-- The bytes of each packet are where the packets before it end. -/
def Placed (packetSizes : List ℕ) (memory : ℕ → UInt8) (b : Buffer) (p : Packets) : Prop :=
  ∀ i < packetSizes.length, offset packetSizes i + (p.data i).length ≤ b.size ∧
    cellsAt memory (b.data + offset packetSizes i) (p.data i).length = p.data i

/-- A handler that begins to run has been posted once. Either libusb refused its operation, or the
packets of the operation are in place, and it receives their results. A completion changes nothing
outside the buffer of its operation. -/
def Delivers (direction : UsbTransferDirection) (packetSizes : List ℕ) (w : World E) :
    Action → Prop
  | .other (.runHandler op) => ∃ c o, w.calls[op]? = some c ∧
    (w.iso.transfer.ops op).posted = [o] ∧
      (w.packets op = none ∧ o.ec.isError = true ∧ o.result.size = 0 ∨
        ∃ p, w.packets op = some p ∧ p.direction = direction ∧
          Placed packetSizes w.memory c.buffer p ∧
          w.iso.view o.result = resultsOf packetSizes.length p.report)
  | .complete _ data _      => ∃ sub c, w.iso.transfer.inFlight = some sub ∧
    w.calls[sub.op]? = some c ∧ ∀ addr, addr ∉ Direction.bytesOf c.buffer →
      received w.iso.object sub.args data w.memory addr = w.memory addr
  | _                       => True

/-! ### Memory -/

section Memory

variable {x : IsoTransfer E} {args : Args} {data : ℕ → List UInt8} {statuses : ℕ → ℤ}
  {memory : ℕ → UInt8} {packetSizes : List ℕ} {b : Buffer}

lemma length_exchange (i : ℕ) :
    ((exchange x args data statuses memory).data i).length = (data i).length := by
  unfold exchange
  split_ifs
  · rfl
  · exact length_cellsAt _ _ _

lemma report_exchange : (exchange x args data statuses memory).report =
    fun i => ⟨(data i).length, statuses i⟩ := by
  funext i
  rw [Packets.report, length_exchange]
  rfl

/-- What a completion has moved is in place afterwards, in both directions. -/
lemma placed_received (hlengths : lengths x = packetSizes) (hfits : Fits (lengths x) data)
    (hbuffer : args.buffer = b.data) (hroom : packetSizes.sum ≤ b.size) :
    Placed packetSizes (received x args data memory) b (exchange x args data statuses memory) := by
  intro i hi
  rw [← hlengths] at hi hroom ⊢
  refine ⟨?_, ?_⟩
  · rw [length_exchange]
    exact (hfits.offset_add_le hi).trans hroom
  · rw [length_exchange, ← hbuffer]
    cases hhost : Direction.deviceToHost x.usbTransfer.handle with
    | true => simp [received, exchange, hhost, cellsAt_scatter hfits hi]
    | false => simp [received, exchange, hhost]

/-- Nothing changes outside the buffer. -/
lemma received_of_notMem (hfits : Fits (lengths x) data) (hbuffer : args.buffer = b.data)
    (hroom : (lengths x).sum ≤ b.size) {addr : ℕ} (haddr : addr ∉ Direction.bytesOf b) :
    received x args data memory addr = memory addr := by
  rw [Direction.bytesOf, Finset.mem_Ico, not_and_or, not_le, not_lt] at haddr
  unfold received
  split_ifs
  · exact scatter_of_outside hfits (by omega)
  · rfl

/-- The bytes of the packets stay where they are. -/
lemma Placed.congr {p : Packets} {memory' : ℕ → UInt8} (h : Placed packetSizes memory b p)
    (hmemory : ∀ addr ∈ Direction.bytesOf b, memory' addr = memory addr) :
    Placed packetSizes memory' b p := by
  intro i hi
  obtain ⟨hle, hat⟩ := h i hi
  refine ⟨hle, Eq.trans ?_ hat⟩
  refine cellsAt_congr fun addr hlow hhigh => hmemory addr ?_
  exact Finset.mem_Ico.mpr ⟨by omega, by omega⟩

end Memory

/-! ### What the steps do -/

variable {direction : UsbTransferDirection} {packetSizes : List ℕ} {w w' : World E}

inductive Rule (direction : UsbTransferDirection) (w : World E) : Action → World E → Prop where
  | write (addr : ℕ) (byte : UInt8) : Rule direction w (.write addr byte)
      { w with memory := Function.update w.memory addr byte }
  | call (c : Deferred.Call) (t : State Span) (hrequires : Direction.requires c = some direction)
      (hstep : Transfer.step w.iso.transfer (.call c.args) = some t) :
      Rule direction w (.call c)
        { w with iso := { w.iso with transfer := t }, calls := w.calls ++ [c] }
  | complete (status : ℤ) (data : ℕ → List UInt8) (statuses : ℕ → ℤ) (sub : Submission)
      (iso : Iso.World E) (hfly : w.iso.transfer.inFlight = some sub)
      (hfits : Fits (lengths w.iso.object) data)
      (hiso : Iso.step w.iso (.complete status fun i => ⟨(data i).length, statuses i⟩) = some iso) :
      Rule direction w (.complete status data statuses)
        { w with
          iso := iso
          memory := received w.iso.object sub.args data w.memory
          packets := Function.update w.packets sub.op
            (some (exchange w.iso.object sub.args data statuses w.memory)) }
  | other (a : Transfer.Action Span) (iso : Iso.World E) (hcall : ∀ args, a ≠ .call args)
      (hcomplete : ∀ status result, a ≠ .complete status result)
      (hiso : Iso.step w.iso (.other a) = some iso)
      (hstep : Transfer.step w.iso.transfer a = some iso.transfer)
      (hobject : iso.object = w.iso.object) (hreports : iso.reports = w.iso.reports) :
      Rule direction w (.other a) { w with iso := iso }

lemma Rule.of_step {a : Action} (h : step direction w a = some w') : Rule direction w a w' := by
  cases a with
  | write addr byte =>
    cases h
    exact .write addr byte
  | call c =>
    obtain ⟨hrequires, h⟩ := Option.ite_none_right_eq_some.mp h
    obtain ⟨iso, hiso, rfl⟩ := Option.map_eq_some_iff.mp h
    obtain ⟨t, ht, rfl⟩ := Option.map_eq_some_iff.mp hiso
    exact .call c t hrequires ht
  | complete status data statuses =>
    cases hfly : w.iso.transfer.inFlight with
    | none => simp [step, hfly] at h
    | some sub =>
      simp only [step, hfly] at h
      obtain ⟨hfits, h⟩ := Option.ite_none_right_eq_some.mp h
      obtain ⟨iso, hiso, rfl⟩ := Option.map_eq_some_iff.mp h
      exact .complete status data statuses sub iso hfly hfits hiso
  | other a =>
    cases a with
    | call args => cases h
    | complete => cases h
    | submit op retCode =>
      obtain ⟨iso, hiso, rfl⟩ := Option.map_eq_some_iff.mp h
      refine .other _ iso (fun _ h => by cases h) (fun _ _ h => by cases h) hiso ?_ ?_ ?_
      all_goals
        obtain ⟨t, ht, rfl⟩ := Option.map_eq_some_iff.mp hiso
        first | exact ht | rfl
    | initiate | postError | resetError | cancel | postResult | resetSlot | runHandler =>
      obtain ⟨iso, hiso, rfl⟩ := Option.map_eq_some_iff.mp h
      refine .other _ iso (fun _ h => by cases h) (fun _ _ h => by cases h) hiso ?_ ?_ ?_
      all_goals
        obtain ⟨t, ht, rfl⟩ := Option.map_eq_some_iff.mp hiso
        first | exact ht | rfl

/-! ### The invariant -/

/-- What is known of an operation with an outcome. -/
def Settled (direction : UsbTransferDirection) (packetSizes : List ℕ) (w : World E) (op : ℕ)
    (c : Deferred.Call) (o : Outcome Span) : Prop :=
  w.packets op = none ∧ o.ec.isError = true ∧ o.result.size = 0 ∨
    ∃ p, w.packets op = some p ∧ p.direction = direction ∧
      Placed packetSizes w.memory c.buffer p ∧ o.result.size = packetSizes.length

structure Inv (direction : UsbTransferDirection) (packetSizes : List ℕ) (w : World E) : Prop where
  iso : Iso.Inv packetSizes.length w.iso
  matched : Matched w.iso.transfer w.calls
  layout : lengths w.iso.object = packetSizes
  directed : Direction.directionOf w.iso.object.usbTransfer.handle = direction
  called : ∀ c ∈ w.calls, Direction.requires c = some direction ∧ packetSizes.sum ≤ c.buffer.size
  reported : ∀ op p, w.packets op = some p → w.iso.reports op = some p.report
  unmoved : ∀ op, (w.iso.transfer.ops op).outcome = none → w.packets op = none
  settled : Settles (Settled direction packetSizes w) w.iso.transfer w.calls

lemma Settled.congr {op : ℕ} {c : Deferred.Call} {o : Outcome Span}
    (h : Settled direction packetSizes w op c o) (hpackets : w'.packets op = w.packets op)
    (hmemory : ∀ addr ∈ Direction.bytesOf c.buffer, w'.memory addr = w.memory addr) :
    Settled direction packetSizes w' op c o := by
  refine h.imp (fun hrefused => by rwa [hpackets]) ?_
  rintro ⟨p, hp, hdirection, hplaced, hsize⟩
  exact ⟨p, by rwa [hpackets], hdirection, hplaced.congr hmemory, hsize⟩

/-! ### One step -/

lemma Inv.write (h : Inv direction packetSizes w) {addr : ℕ} {byte : UInt8}
    (hcareful : Careful packetSizes w (.write addr byte)) :
    Inv direction packetSizes { w with memory := Function.update w.memory addr byte } := by
  refine ⟨h.iso, h.matched, h.layout, h.directed, h.called, h.reported, h.unmoved,
    h.settled.imp fun op c o hc hbegun hsettled => ?_⟩
  refine hsettled.congr rfl fun addr' haddr' => ?_
  refine Function.update_of_ne ?_ _ _
  rintro rfl
  exact hcareful (c, op) (List.mem_zipIdx_iff_getElem?.mpr hc) hbegun haddr'

lemma Inv.call (h : Inv direction packetSizes w) {c : Deferred.Call} {t : State Span}
    (hcareful : Careful packetSizes w (.call c)) (hrequires : Direction.requires c = some direction)
    (hstep : Transfer.step w.iso.transfer (.call c.args) = some t) :
    Inv direction packetSizes
      { w with iso := { w.iso with transfer := t }, calls := w.calls ++ [c] } where
  iso := by
    refine Iso.inv_step (a := .other (.call c.args)) h.iso hcareful.1 ?_
    show (Transfer.step w.iso.transfer (.call c.args)).map _ = _
    rw [hstep]
    rfl
  matched := h.matched.call hcareful.1 hstep
  layout := h.layout
  directed := h.directed
  called c' hc' := by
    rcases List.mem_append.mp hc' with hc' | hc'
    · exact h.called c' hc'
    · rw [List.mem_singleton.mp hc']
      exact ⟨hrequires, hcareful.2⟩
  reported := h.reported
  unmoved op ho := h.unmoved op (outcome_eq_none_of_step hstep ho)
  settled := (h.settled.call h.matched hstep).imp fun _ _ _ _ _ hsettled =>
    hsettled.congr rfl fun _ _ => rfl

lemma Inv.other (h : Inv direction packetSizes w) {a : Transfer.Action Span} {iso : Iso.World E}
    (hcall : ∀ args, a ≠ .call args) (hcomplete : ∀ status result, a ≠ .complete status result)
    (hiso : Iso.step w.iso (.other a) = some iso)
    (hstep : Transfer.step w.iso.transfer a = some iso.transfer)
    (hobject : iso.object = w.iso.object) (hreports : iso.reports = w.iso.reports) :
    Inv direction packetSizes { w with iso := iso } where
  iso := by
    refine Iso.inv_step (a := .other a) h.iso ?_ hiso
    cases a with
    | call args => exact absurd rfl (hcall args)
    | _ => trivial
  matched := h.matched.step hcall hstep
  layout := by
    show lengths iso.object = packetSizes
    rw [hobject, h.layout]
  directed := by
    show Direction.directionOf iso.object.usbTransfer.handle = direction
    rw [hobject, h.directed]
  called := h.called
  reported := by
    show ∀ op p, w.packets op = some p → iso.reports op = some p.report
    rw [hreports]
    exact h.reported
  unmoved op ho := h.unmoved op (outcome_eq_none_of_step hstep ho)
  settled := by
    have hsettled : Settles (Settled direction packetSizes w) iso.transfer w.calls :=
      h.settled.step h.matched hcomplete
        (fun op _ _ ho herr => .inl ⟨h.unmoved op ho, herr, rfl⟩) hstep
    exact hsettled.imp fun _ _ _ _ _ h => h.congr rfl fun _ _ => rfl

/-- A completion changes neither the lengths of the descriptors nor the endpoint. -/
lemma usbTransfer_complete (x : IsoTransfer E) (reports : ℕ → PacketReport) :
    (x.store reports).transform.usbTransfer = x.usbTransfer := by
  have hlengths : (x.store reports).isoPacketDesc.cells.map PacketDescriptor.length =
      x.isoPacketDesc.cells.map PacketDescriptor.length := by
    apply List.ext_getElem
    · simp [IsoTransfer.store]
    · intro i _ _
      simp [IsoTransfer.store, PacketDescriptor.store]
  show (x.store reports).usbTransfer = x.usbTransfer
  rw [IsoTransfer.usbTransfer, IsoTransfer.usbTransfer, hlengths]
  rfl

lemma lengths_eq (x : IsoTransfer E) : lengths x =
    x.usbTransfer.handle.isoPacketLengths.take x.usbTransfer.handle.numIsoPackets.toNat := by
  rw [lengths, List.map_take]
  rfl

lemma lengths_complete (x : IsoTransfer E) (reports : ℕ → PacketReport) :
    lengths (x.store reports).transform = lengths x := by
  rw [lengths_eq, lengths_eq, usbTransfer_complete]

lemma Inv.complete (h : Inv direction packetSizes w) {status : ℤ} {data : ℕ → List UInt8}
    {statuses : ℕ → ℤ} {sub : Submission} {iso : Iso.World E}
    (hfly : w.iso.transfer.inFlight = some sub) (hfits : Fits (lengths w.iso.object) data)
    (hiso : Iso.step w.iso (.complete status fun i => ⟨(data i).length, statuses i⟩) = some iso) :
    Inv direction packetSizes
      { w with
        iso := iso
        memory := received w.iso.object sub.args data w.memory
        packets := Function.update w.packets sub.op
          (some (exchange w.iso.object sub.args data statuses w.memory)) } := by
  have hiso' : Iso.Inv packetSizes.length iso :=
    Iso.inv_step (a := .complete status _) h.iso trivial hiso
  obtain ⟨t, hstep, rfl⟩ := Option.map_eq_some_iff.mp hiso
  have hspan := h.iso.sized.transform_store fun i => ⟨(data i).length, statuses i⟩
  refine ⟨hiso', h.matched.step (fun _ h => by cases h) hstep, ?_, ?_, h.called, ?_, ?_, ?_⟩
  · exact (lengths_complete _ _).trans h.layout
  · rw [← h.directed]
    exact congrArg (fun t : UsbTransfer E => Direction.directionOf t.handle)
      (usbTransfer_complete w.iso.object _)
  · intro op p (hp : Function.update w.packets sub.op _ op = some p)
    show (w.iso.complete _ t).reports op = _
    rw [World.reports_complete hfly]
    by_cases hop : op = sub.op
    · rw [hop, Function.update_self] at hp ⊢
      cases hp
      rw [report_exchange]
    · rw [Function.update_of_ne hop] at hp ⊢
      exact h.reported op p hp
  · intro op (ho : (t.ops op).outcome = none)
    exact (Function.update_of_ne (ne_of_complete hfly hstep ho) _ _).trans
      (h.unmoved op (outcome_eq_none_of_step hstep ho))
  · -- the operation that completes is the latest one, whose buffer the transfer has
    refine h.matched.settles_complete hfly hstep fun c hc => ?_
    obtain ⟨hrequires, hroom⟩ := h.called c (List.mem_of_getElem? hc)
    have hbuffer := (Delivery.args_of_requires hrequires).1
    rw [← h.matched.own sub hfly c hc] at hbuffer
    refine .inr ⟨_, Function.update_self .., h.directed, ?_, ?_⟩
    · exact placed_received h.layout hfits hbuffer hroom
    · rw [hspan]
      simp [IsoTransfer.span, resultsOf]

lemma inv_step {a : Action} (h : Inv direction packetSizes w) (hcareful : Careful packetSizes w a)
    (hstep : step direction w a = some w') : Inv direction packetSizes w' := by
  cases Rule.of_step hstep with
  | write addr byte => exact h.write hcareful
  | call c t hrequires ht => exact h.call hcareful hrequires ht
  | complete status data statuses sub iso hfly hfits hiso => exact h.complete hfly hfits hiso
  | other a iso hcall hcomplete hiso ht hobject hreports =>
    exact h.other hcall hcomplete hiso ht hobject hreports

/-! ### All runs -/

lemma inv_init {available : Available} {executor : E} {device : DeviceRef E} {endpoint : UInt8}
    {timeout : ℤ} {x : IsoTransfer E} (hn : packetSizes.length < 2 ^ 31)
    (hsizes : ∀ size ∈ packetSizes, size < 2 ^ 32)
    (hx : Iso.isochronous available executor device endpoint packetSizes timeout = some x)
    (hendpoint : endpoint &&& 0x80 = direction.value) (memory : ℕ → UInt8) :
    Inv direction packetSizes (init x memory) := by
  have hconfigured := configured_isochronous hn hsizes hx
  have hsized := hconfigured.sized hn
  refine ⟨Iso.inv_init hsized, matched_init, ?_, ?_, nofun, nofun, fun _ _ => rfl, settles_init⟩
  · show lengths x = packetSizes
    rw [lengths, hsized.numIsoPackets, Int.toNat_natCast, ← hsized.descriptors, List.take_length,
      hconfigured.lengths]
  · show Direction.directionOf x.usbTransfer.handle = direction
    rw [Direction.directionOf_eq_iff, ← hendpoint]
    obtain rfl := isochronous_eq_some hx
    rfl

/-- The results that the handler is given are those of the packets. -/
lemma Inv.delivers_runHandler (h : Inv direction packetSizes w) {op : ℕ} {iso : Iso.World E}
    (hiso : Iso.step w.iso (.other (.runHandler op)) = some iso)
    (hstep : Transfer.step w.iso.transfer (.runHandler op) = some iso.transfer) :
    Delivers direction packetSizes w (.other (.runHandler op)) := by
  obtain ⟨-, hbegun, c, o, hc, ho, hposted⟩ := h.matched.runHandler hstep
  obtain ⟨o', hposted', hreceives⟩ := h.iso.receives hiso
  obtain rfl : o' = o := by simpa using hposted'.symm.trans hposted
  refine ⟨c, o', hc, hposted, (h.settled op c o' hc ho hbegun).imp_right ?_⟩
  rintro ⟨p, hp, hdirection, hplaced, hsize⟩
  refine ⟨p, hp, hdirection, hplaced, ?_⟩
  rcases hreceives with ⟨-, reports, hreports, -, hview⟩ | ⟨-, hzero⟩
  · rw [h.reported op p hp] at hreports
    cases hreports
    exact hview
  · -- there are no packets
    rw [World.view, hzero, ← hsize, hzero]
    rfl

lemma Inv.delivers_complete (h : Inv direction packetSizes w) {status : ℤ}
    {data : ℕ → List UInt8} {statuses : ℕ → ℤ} {sub : Submission}
    (hfly : w.iso.transfer.inFlight = some sub) (hfits : Fits (lengths w.iso.object) data) :
    Delivers direction packetSizes w (.complete status data statuses) := by
  obtain ⟨-, c, hc, hargs⟩ := h.matched.exists_inFlight hfly
  obtain ⟨hrequires, hroom⟩ := h.called c (List.mem_of_getElem? hc)
  have hbuffer := (Delivery.args_of_requires hrequires).1
  rw [← hargs] at hbuffer
  refine ⟨sub, c, hfly, hc, fun addr haddr => ?_⟩
  exact received_of_notMem hfits hbuffer (h.layout ▸ hroom) haddr

/-- On an isochronous transfer whose endpoint has the direction of its class, every handler finds
each packet of its own operation where the packets before it end, as the device and the buffer have
exchanged it, with its length and status among the results, or is told that libusb has refused the
operation; and no completion touches any other memory. -/
theorem delivers_packets {available : Available} {executor : E} {device : DeviceRef E}
    {endpoint : UInt8} {timeout : ℤ} {x : IsoTransfer E} (hn : packetSizes.length < 2 ^ 31)
    (hsizes : ∀ size ∈ packetSizes, size < 2 ^ 32)
    (hx : Iso.isochronous available executor device endpoint packetSizes timeout = some x)
    (hendpoint : endpoint &&& 0x80 = direction.value) (memory : ℕ → UInt8) (as : List Action)
    (hcareful : Along (step direction) (Careful packetSizes) (init x memory) as) :
    Along (step direction) (Delivers direction packetSizes) (init x memory) as := by
  refine along_of_invariant (fun _ _ _ h hc hs => inv_step h hc hs) ?_
    (inv_init hn hsizes hx hendpoint memory) hcareful
  intro w a w' h _ hs
  cases Rule.of_step hs with
  | write | call => trivial
  | complete status data statuses sub iso hfly hfits => exact h.delivers_complete hfly hfits
  | other a iso _ _ hiso hstep =>
    cases a with
    | runHandler op => exact h.delivers_runHandler hiso hstep
    | _ => trivial

/-- A read of two packets of at most three bytes each, the first of which ends early with an
error. -/
theorem delivers_packets_gap :
    let data : ℕ → List UInt8 := fun i => if i = 1 then [1, 2, 3] else [7]
    let as : List Action := [.call (.asyncReadSome ⟨4096, 8⟩), .other (.initiate 0),
      .other (.submit 0 0), .complete 0 data (fun i => if i = 0 then 1 else 0), .write 4104 9,
      .other .postResult, .other .resetSlot, .other (.runHandler 0)]
    ∃ x, Iso.isochronous ⟨true, true, true⟩ () ⟨none, ()⟩ 0x81 [3, 3] 1000 = some x ∧
      (exec (step .«in») (init x fun _ => 0) as).isSome ∧
      Along (step .«in») (Delivers .«in» [3, 3]) (init x fun _ => 0) as := by
  intro data as
  have hconstruct : Iso.isochronous ⟨true, true, true⟩ () ⟨none, ()⟩ 0x81 [3, 3] 1000 = some _ :=
    rfl
  refine ⟨_, hconstruct, by decide, ?_⟩
  exact delivers_packets (by decide) (by decide) hconstruct (by decide) _ as (by decide)

end UsbAsio.Transfer.PacketDelivery
