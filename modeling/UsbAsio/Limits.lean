import UsbAsio.Overloads.Members
import UsbAsio.Transfer.Descriptors

/-!
# The limits of sizes, counts and timeouts

Sizes, counts and timeouts have 64 bits in the parameters of the library and fewer in libusb.
Nothing is checked on the way: a number that does not fit arrives as another one, and when there are
too many packets, their descriptors are written behind the end of the array. An isochronous
transfer asks `libusb_alloc_transfer` for its packets before anything else can fail.
-/

namespace UsbAsio.Limits

open Effects Narrowing Overloads Transfer

variable {E : Type*}

/-! ### Requests -/

/-- The constructors and operations that are given numbers. -/
inductive Request (E : Type*) where
  | control (executor : E) (device : DeviceRef E) (timeout : ℤ)
  | construct (c : Constructor E)
  | asyncReadSome (buffer : Buffer)
  | asyncWriteSome (buffer : Buffer)
  | asyncControl (request : ControlRequest) (buffer : ControlTransferBuffer)
  | allocStreams (numStreams : UInt32) (endpoints : Buffer)
  | allocStreamsEc (numStreams : UInt32) (endpoints : Buffer) (ec : ErrorCode)
  | freeStreams (endpoints : Buffer)
  | freeStreamsEc (endpoints : Buffer) (ec : ErrorCode)

/-- What a request meets: the memory there is, the answers of libusb, and a device. -/
structure Environment where
  memory : Iso.Available
  answers : ℕ → Answer
  device : DeviceObject

/-! ### What libusb finds -/

/-- The numbers that libusb finds, and whether something has been written outside of an array. -/
structure Handed where
  numbers : List ℤ
  overrun : Bool := false
  deriving DecidableEq

def Handed.ofTransfer (t : UsbTransfer E) : Handed := { numbers := [t.handle.timeout] }

def Handed.ofIso (x : Iso.IsoTransfer E) : Handed where
  numbers := x.timeout :: x.numIsoPackets ::
    x.isoPacketDesc.cells.map fun d : Iso.PacketDescriptor => (d.length : ℤ)
  overrun := x.isoPacketDesc.overrun

/-- The numbers among the arguments of a call. -/
def numbersOf : LibusbCall → List ℤ
  | .allocStreams _ numStreams _ numEndpoints => [numStreams.toNat, numEndpoints]
  | .freeStreams _ _ numEndpoints             => [numEndpoints]
  | _                                         => []

/-- The calls of a member of the device. -/
def Environment.handedBy {α : Type} (env : Environment) (p : Program DeviceObject α) : Handed where
  numbers := (final (p.run (.start env.answers env.device))).log.flatMap fun x => numbersOf x.1

/-- The length of the transfer, and `wLength` as the device reads it from the storage. -/
def handedByControl (request : ControlRequest) (buffer : ControlTransferBuffer) : Option Handed :=
  (Transfer.asyncControl request buffer).bind fun (args, storage) =>
    (SetupPacket.decode (storage.bytes.take controlSetupSize)).map fun p =>
      { numbers := [args.length, p.wLength] }

def handedByConstructor (memory : Iso.Available) : Constructor E → Option Handed
  | .isochronous executor device endpoint packetSizes timeout =>
    (Iso.isochronous memory executor device endpoint packetSizes timeout).map .ofIso
  | .isochronousUniform executor device endpoint numPackets packetSize timeout =>
    (Iso.isochronousUniform memory executor device endpoint numPackets packetSize timeout).map
      .ofIso
  | .isochronousOf device endpoint packetSizes timeout =>
    (Iso.isochronous memory device.executor device endpoint packetSizes timeout).map .ofIso
  | .isochronousUniformOf device endpoint numPackets packetSize timeout =>
    (Iso.isochronousUniform memory device.executor device endpoint numPackets packetSize
      timeout).map .ofIso
  | c => (c.construct (memory.transfer && memory.context)).map .ofTransfer

/-- What libusb gets from a request after the allocation of its transfer; there is nothing if the
request fails before. -/
def Request.handed (env : Environment) : Request E → Option Handed
  | .control executor device timeout     =>
    (Transfer.control (env.memory.transfer && env.memory.context) executor device timeout).map
      .ofTransfer
  | .construct c                         => handedByConstructor env.memory c
  | .asyncReadSome buffer                =>
    some { numbers := [(Transfer.asyncReadSome buffer).length] }
  | .asyncWriteSome buffer               =>
    some { numbers := [(Transfer.asyncWriteSome buffer).length] }
  | .asyncControl request buffer         => handedByControl request buffer
  | .allocStreams n endpoints            =>
    some (env.handedBy (DeviceObject.allocStreams n endpoints))
  | .allocStreamsEc n endpoints ec       =>
    some (env.handedBy (DeviceObject.allocStreamsEc n endpoints ec))
  | .freeStreams endpoints               => some (env.handedBy (DeviceObject.freeStreams endpoints))
  | .freeStreamsEc endpoints ec          =>
    some (env.handedBy (DeviceObject.freeStreamsEc endpoints ec))

/-! ### What the caller gives -/

def int : IntType := .signed 31

def unsigned : IntType := .unsigned 32

def uint16 : IntType := .unsigned 16

/-- The packet sizes of a constructor of isochronous transfers. -/
def isoSizes : Constructor E → Option (List ℕ)
  | .isochronous _ _ _ packetSizes _ | .isochronousOf _ _ packetSizes _ => some packetSizes
  | .isochronousUniform _ _ _ numPackets packetSize _
  | .isochronousUniformOf _ _ numPackets packetSize _ => some (List.replicate numPackets packetSize)
  | .bulk .. | .bulkOf .. | .interrupt .. | .interruptOf .. | .bulkStream .. | .bulkStreamOf .. =>
    none

/-- The number of packets that `libusb_alloc_transfer` is given; for other transfers it is a
constant. -/
def Request.allocated : Request E → Option ℤ
  | .construct c => (isoSizes c).map Iso.isoPackets
  | _            => none

/-- The number of packets that the caller gives. -/
def Request.packets : Request E → Option ℕ
  | .construct c => (isoSizes c).map List.length
  | _            => none

/-- The argument `timeout`. -/
def timeoutOf : Constructor E → ℤ
  | .isochronous _ _ _ _ timeout | .isochronousUniform _ _ _ _ _ timeout
  | .isochronousOf _ _ _ timeout | .isochronousUniformOf _ _ _ _ timeout
  | .bulk _ _ _ timeout | .bulkOf _ _ timeout | .interrupt _ _ _ timeout
  | .interruptOf _ _ timeout | .bulkStream _ _ _ _ timeout | .bulkStreamOf _ _ _ timeout => timeout

/-- The number of packets and their sizes. -/
def packetNumbers (packetSizes : List ℕ) : List Number :=
  ⟨int, packetSizes.length⟩ :: packetSizes.map fun size : ℕ => ⟨unsigned, size⟩

/-- The numbers of the caller, with the types that libusb has for them. -/
def Request.numbers : Request E → List Number
  | .control _ _ timeout        => [⟨unsigned, timeout⟩]
  | .construct c                => ⟨unsigned, timeoutOf c⟩ :: (isoSizes c).elim [] packetNumbers
  | .asyncReadSome buffer       => [⟨int, buffer.size⟩]
  | .asyncWriteSome buffer      => [⟨int, buffer.size⟩]
  | .asyncControl _ buffer      => [⟨int, buffer.size + controlSetupSize⟩, ⟨uint16, buffer.size⟩]
  | .allocStreams n endpoints
  | .allocStreamsEc n endpoints _ => [⟨unsigned, n.toNat⟩, ⟨int, endpoints.size⟩]
  | .freeStreams endpoints
  | .freeStreamsEc endpoints _  => [⟨int, endpoints.size⟩]

/-! ### The property and the condition -/

/-- Either the request fails before libusb gets anything more, or libusb finds the numbers of the
caller, and nothing has been written outside of an array. -/
def Request.Kept (env : Environment) (req : Request E) : Prop :=
  ∀ handed, req.handed env = some handed →
    handed.numbers = req.numbers.map Number.value ∧ handed.overrun = false

/-- No number is narrowed, neither for the allocation nor afterwards. -/
structure Request.NotNarrowed (env : Environment) (req : Request E) : Prop where
  allocated : req.allocated = req.packets.map Nat.cast
  kept : req.Kept env

/-- Nothing makes a constructor throw: `libusb_alloc_transfer` does not return null, and there is
memory for the context and the results. -/
def Request.Succeeds (memory : Iso.Available) : Request E → Prop
  | .control ..   => memory.transfer ∧ memory.context
  | .construct c  => memory.transfer ∧ memory.context ∧ ((isoSizes c).isSome → memory.results)
  | _             => True

/-! ### Conversions -/

variable {env : Environment} {req : Request E} {memory : Iso.Available} {c : Constructor E}

@[simp] lemma int_convert (n : ℤ) : int.convert n = toInt32 n := rfl

@[simp] lemma unsigned_convert (n : ℤ) : unsigned.convert n = toUnsigned n := by
  have hnonneg : 0 ≤ n % 2 ^ 32 := Int.emod_nonneg n (by decide)
  exact (Int.toNat_of_nonneg hnonneg).symm

/-- Once the numbers have been converted as their types say, the property is that they fit. -/
lemma kept_iff_fits
    (h : req.handed env = some { numbers := req.numbers.map Number.converted }) :
    req.Kept env ↔ ∀ x ∈ req.numbers, x.Fits := by
  rw [← map_converted_eq_iff]
  constructor
  · intro hnot
    exact (hnot _ h).1
  · rintro heq handed hhanded
    rw [h] at hhanded
    cases hhanded
    exact ⟨heq, rfl⟩

lemma kept_of_none (h : req.handed env = none) : req.Kept env := by
  intro handed hhanded
  rw [h] at hhanded
  cases hhanded

/-- The same for a request that does not fail. -/
lemma kept_iff_of_succeeds (hsucceeds : req.Succeeds env.memory)
    (h : req.handed env = some { numbers := req.numbers.map Number.converted }) :
    req.Kept env ↔ (req.Succeeds env.memory → ∀ x ∈ req.numbers, x.Fits) := by
  rw [kept_iff_fits h]
  exact ⟨fun hfits _ => hfits, fun hfits => hfits hsucceeds⟩

/-- The same for a request that may fail before. -/
lemma kept_iff_of_ite (succeeds : Bool)
    (hsucceeds : req.Succeeds env.memory ↔ succeeds = true)
    (h : req.handed env =
      if succeeds then some { numbers := req.numbers.map Number.converted } else none) :
    req.Kept env ↔ (req.Succeeds env.memory → ∀ x ∈ req.numbers, x.Fits) := by
  cases succeeds with
  | false =>
    rw [hsucceeds]
    exact iff_of_true (kept_of_none h) nofun
  | true => exact kept_iff_of_succeeds (hsucceeds.mpr rfl) h

/-! ### Constructors -/

/-- A constructor that hands over its timeout only. -/
lemma map_ofTransfer (memory : Bool) (fill : LibusbTransfer → UsbTransfer E) {timeout : ℤ}
    (hfill : ∀ t, (fill t).handle.timeout = toUnsigned timeout) :
    ((libusbAllocTransfer memory 0).map fill).map Handed.ofTransfer =
      if memory then some { numbers := [↑(toUnsigned timeout)] } else none := by
  cases memory with
  | false => rfl
  | true => simp [libusbAllocTransfer, Handed.ofTransfer, hfill]

lemma handedByConstructor_of_none (memory : Iso.Available) (h : isoSizes c = none) :
    handedByConstructor memory c =
      if memory.transfer && memory.context then some { numbers := [↑(toUnsigned (timeoutOf c))] }
      else none := by
  cases c with
  | isochronous | isochronousUniform | isochronousOf | isochronousUniformOf => cases h
  | bulk | bulkOf | interrupt | interruptOf | bulkStream | bulkStreamOf =>
    exact map_ofTransfer _ _ fun _ => rfl

lemma handedByConstructor_of_some (memory : Iso.Available) {packetSizes : List ℕ}
    (h : isoSizes c = some packetSizes) :
    ∃ (executor : E) (device : DeviceRef E) (endpoint : UInt8), handedByConstructor memory c =
      (Iso.isochronous memory executor device endpoint packetSizes (timeoutOf c)).map .ofIso := by
  cases c with
  | isochronous executor device endpoint sizes timeout =>
    cases h
    exact ⟨executor, device, endpoint, rfl⟩
  | isochronousOf device endpoint sizes timeout =>
    cases h
    exact ⟨device.executor, device, endpoint, rfl⟩
  | isochronousUniform executor device endpoint n size timeout =>
    cases h
    refine ⟨executor, device, endpoint, ?_⟩
    rw [handedByConstructor, Iso.isochronousUniform_eq]
    rfl
  | isochronousUniformOf device endpoint n size timeout =>
    cases h
    refine ⟨device.executor, device, endpoint, ?_⟩
    rw [handedByConstructor, Iso.isochronousUniform_eq]
    rfl
  | bulk | bulkOf | interrupt | interruptOf | bulkStream | bulkStreamOf => cases h

section Iso

variable {executor : E} {device : DeviceRef E} {endpoint : UInt8} {packetSizes : List ℕ}
  {timeout : ℤ} {x : Iso.IsoTransfer E}

/-- When the number of packets fits, all numbers are converted, and there is no overrun. -/
lemma ofIso_eq
    (h : Iso.isochronous memory executor device endpoint packetSizes timeout = some x)
    (hn : int.Holds packetSizes.length) :
    Handed.ofIso x =
      ⟨(⟨unsigned, timeout⟩ :: packetNumbers packetSizes).map Number.converted, false⟩ := by
  have hlengths := Iso.lengths_isochronous (by exact_mod_cast hn.2) h
  have hint : toInt32 packetSizes.length = packetSizes.length := toInt32_eq_self_iff.mpr hn
  have hinside : x.isoPacketDesc.overrun = false := by
    rw [← Bool.not_eq_true, Iso.overrun_isochronous h, hint]
    exact lt_irrefl _
  have hcells : x.isoPacketDesc.cells.map (fun d => (d.length : ℤ)) =
      packetSizes.map fun size : ℕ => unsigned.convert size := by
    have hcast := congrArg (List.map fun n : ℕ => (n : ℤ)) hlengths
    simp only [List.map_map] at hcast
    simp only [unsigned_convert]
    exact hcast
  have heq := Iso.isochronous_eq_some h
  have htimeout : x.timeout = toUnsigned timeout := by rw [heq]
  have hnum : x.numIsoPackets = toInt32 packetSizes.length := by rw [heq]
  rw [Handed.ofIso, hinside, hcells, htimeout, hnum]
  simp [packetNumbers, Number.converted]

/-- When it does not, it is not what libusb finds. -/
lemma int_holds_of_ofIso
    (h : Iso.isochronous memory executor device endpoint packetSizes timeout = some x)
    (heq : (Handed.ofIso x).numbers =
      (⟨unsigned, timeout⟩ :: packetNumbers packetSizes).map Number.value) :
    int.Holds packetSizes.length := by
  have hx := Iso.isochronous_eq_some h
  have hnum : x.numIsoPackets = toInt32 packetSizes.length := by rw [hx]
  have hcount : x.numIsoPackets = packetSizes.length := (List.cons.inj (List.cons.inj heq).2).1
  rw [← IntType.convert_eq_self_iff, int_convert, ← hnum, hcount]

/-- Whether or not the number of packets fits, the property is that all numbers do. -/
lemma kept_iff_of_ofIso
    (hx : Iso.isochronous memory executor device endpoint packetSizes timeout = some x)
    (hnumbers : req.numbers = ⟨unsigned, timeout⟩ :: packetNumbers packetSizes)
    (hhanded : req.handed env = some (.ofIso x)) :
    req.Kept env ↔ ∀ x ∈ req.numbers, x.Fits := by
  have hconverted : int.Holds packetSizes.length →
      req.handed env = some { numbers := req.numbers.map Number.converted } := by
    intro hn
    rw [hnumbers, ← ofIso_eq hx hn]
    exact hhanded
  constructor
  · intro hnot
    have hvalues := (hnot _ hhanded).1
    rw [hnumbers] at hvalues
    exact (kept_iff_fits (hconverted (int_holds_of_ofIso hx hvalues))).mp hnot
  · intro hfits
    have hn : int.Holds packetSizes.length :=
      hfits ⟨int, packetSizes.length⟩ (by simp [hnumbers, packetNumbers])
    exact (kept_iff_fits (hconverted hn)).mpr hfits

/-- What a constructor needs in order not to throw. -/
lemma isSome_isochronous_iff :
    (∃ x, Iso.isochronous memory executor device endpoint packetSizes timeout = some x) ↔
      memory.transfer ∧ memory.context ∧ memory.results := by
  constructor
  · rintro ⟨x, h⟩
    obtain ⟨descriptors, halloc, hrest⟩ := Option.bind_eq_some_iff.mp h
    obtain ⟨htransfer, -⟩ := Option.ite_some_none_eq_some.mp halloc
    obtain ⟨hothers, -⟩ := Option.ite_some_none_eq_some.mp hrest
    exact ⟨htransfer, hothers⟩
  · rintro ⟨htransfer, hothers⟩
    exact ⟨_, Option.bind_eq_some_iff.mpr ⟨_, if_pos htransfer, if_pos hothers⟩⟩

end Iso

lemma kept_construct_iff : (Request.construct c).Kept env ↔
    ((Request.construct c).Succeeds env.memory → ∀ x ∈ (Request.construct c).numbers, x.Fits) := by
  cases hsizes : isoSizes c with
  | none =>
    apply kept_iff_of_ite (env.memory.transfer && env.memory.context)
    · simp [Request.Succeeds, hsizes]
    · rw [Request.handed, handedByConstructor_of_none _ hsizes]
      simp [Request.numbers, hsizes, Number.converted]
  | some packetSizes =>
    obtain ⟨executor, device, endpoint, hhanded⟩ :=
      handedByConstructor_of_some env.memory hsizes
    have hnumbers : (Request.construct c).numbers =
        ⟨unsigned, timeoutOf c⟩ :: packetNumbers packetSizes := by
      simp [Request.numbers, hsizes]
    have hsucceeds : (Request.construct c).Succeeds env.memory ↔ ∃ x, Iso.isochronous env.memory
        executor device endpoint packetSizes (timeoutOf c) = some x := by
      rw [isSome_isochronous_iff]
      simp [Request.Succeeds, hsizes]
    rw [hsucceeds]
    cases hx : Iso.isochronous env.memory executor device endpoint packetSizes (timeoutOf c) with
    | none =>
      rw [hx] at hhanded
      exact iff_of_true (kept_of_none hhanded) nofun
    | some x =>
      rw [hx] at hhanded
      rw [kept_iff_of_ofIso hx hnumbers hhanded]
      exact ⟨fun hfits _ => hfits, fun hfits => hfits ⟨x, rfl⟩⟩

/-! ### Operations -/

/-- Only the two bytes of `wLength` remain of the size of the payload. -/
lemma handedByControl_eq (request : ControlRequest) (buffer : ControlTransferBuffer) :
    handedByControl request buffer = some
      { numbers := [toInt32 (buffer.size + controlSetupSize), uint16.convert buffer.size] } := by
  have htake : ((request.setup buffer.size).encode ++ buffer.content).take controlSetupSize =
      (request.setup buffer.size).encode :=
    List.take_left' (SetupPacket.length_encode _)
  rw [handedByControl, asyncControl_eq, Option.bind_some]
  dsimp only
  rw [htake, SetupPacket.decode_encode_eq_mod]
  rfl

lemma handedBy_callThrowing (call : DeviceObject → LibusbCall) (ec : ErrorCode) :
    env.handedBy (callThrowing call ec) = { numbers := numbersOf (call env.device) } := by
  rw [Environment.handedBy]
  by_cases hret : 0 ≤ (env.answers 0).retCode
  · rw [run_callThrowing_of_ok _ _ hret]
    simp [final, Machine.start]
  · rw [run_callThrowing_of_failed _ _ (not_le.mp hret)]
    simp [final, Machine.start]

lemma handedBy_tryWithEc (fn : ErrorCode → Program DeviceObject (Unit × ErrorCode)) :
    env.handedBy (tryWithEc fn) = env.handedBy (fn .clear) := by
  rw [Environment.handedBy, run_tryWithEc, final_raised]
  rfl

lemma handedBy_allocStreamsEc (n : UInt32) (endpoints : Buffer) (ec : ErrorCode) :
    env.handedBy (DeviceObject.allocStreamsEc n endpoints ec) =
      { numbers := [↑n.toNat, toInt32 endpoints.size] } :=
  handedBy_callThrowing ..

lemma handedBy_freeStreamsEc (endpoints : Buffer) (ec : ErrorCode) :
    env.handedBy (DeviceObject.freeStreamsEc endpoints ec) =
      { numbers := [toInt32 endpoints.size] } :=
  handedBy_callThrowing ..

/-- The number of streams has 32 bits from the beginning. -/
lemma toUnsigned_numStreams (n : UInt32) : toUnsigned n.toNat = n.toNat :=
  Iso.toUnsigned_of_lt n.toNat_lt

/-! ### Every request -/

/-- After the allocation, a request reaches libusb with the numbers of its caller exactly when it
fails before, or they fit. -/
lemma kept_iff (env : Environment) (req : Request E) :
    req.Kept env ↔ (req.Succeeds env.memory → ∀ x ∈ req.numbers, x.Fits) := by
  cases req with
  | control executor device timeout =>
    apply kept_iff_of_ite (env.memory.transfer && env.memory.context)
    · simp [Request.Succeeds]
    · rw [Request.handed, Transfer.control, map_ofTransfer _ _ fun _ => rfl]
      simp [Request.numbers, Number.converted]
  | construct c => exact kept_construct_iff
  | asyncReadSome buffer =>
    apply kept_iff_of_succeeds (by trivial)
    simp [Request.handed, Request.numbers, Number.converted, Transfer.asyncReadSome]
  | asyncWriteSome buffer =>
    apply kept_iff_of_succeeds (by trivial)
    simp [Request.handed, Request.numbers, Number.converted, Transfer.asyncWriteSome]
  | asyncControl request buffer =>
    apply kept_iff_of_succeeds (by trivial)
    simp [Request.handed, Request.numbers, Number.converted, handedByControl_eq]
  | allocStreams n endpoints =>
    apply kept_iff_of_succeeds (by trivial)
    rw [Request.handed, DeviceObject.allocStreams, handedBy_tryWithEc, handedBy_allocStreamsEc]
    simp [Request.numbers, Number.converted, toUnsigned_numStreams]
  | allocStreamsEc n endpoints ec =>
    apply kept_iff_of_succeeds (by trivial)
    rw [Request.handed, handedBy_allocStreamsEc]
    simp [Request.numbers, Number.converted, toUnsigned_numStreams]
  | freeStreams endpoints =>
    apply kept_iff_of_succeeds (by trivial)
    rw [Request.handed, DeviceObject.freeStreams, handedBy_tryWithEc, handedBy_freeStreamsEc]
    simp [Request.numbers, Number.converted]
  | freeStreamsEc endpoints ec =>
    apply kept_iff_of_succeeds (by trivial)
    rw [Request.handed, handedBy_freeStreamsEc]
    simp [Request.numbers, Number.converted]

/-- The allocation is asked for the number of packets of the caller if that fits. -/
lemma allocated_iff (req : Request E) :
    req.allocated = req.packets.map Nat.cast ↔ ∀ n ∈ req.packets, int.Holds n := by
  cases req with
  | construct c =>
    cases hsizes : isoSizes c with
    | none => simp [Request.allocated, Request.packets, hsizes]
    | some packetSizes =>
      simp [Request.allocated, Request.packets, hsizes, ← IntType.convert_eq_self_iff]
  | control | asyncReadSome | asyncWriteSome | asyncControl | allocStreams | allocStreamsEc
  | freeStreams | freeStreamsEc => simp [Request.allocated, Request.packets]

/-- No number of a request is narrowed exactly when the number of packets fits, and the others fit
or the request fails before libusb gets them. -/
theorem notNarrowed_iff (env : Environment) (req : Request E) :
    req.NotNarrowed env ↔ (∀ n ∈ req.packets, int.Holds n) ∧
      (req.Succeeds env.memory → ∀ x ∈ req.numbers, x.Fits) := by
  rw [← allocated_iff, ← kept_iff]
  exact ⟨fun h => ⟨h.allocated, h.kept⟩, fun h => ⟨h.1, h.2⟩⟩

/-- A timeout of 2^32 milliseconds, some 50 days, becomes `usb_no_timeout`. -/
theorem not_notNarrowed_timeout :
    ¬ ∀ (env : Environment) (req : Request Unit), req.NotNarrowed env := by
  intro h
  let handle : DeviceHandle := ⟨4096, by decide, by decide⟩
  let env : Environment := ⟨⟨true, true, true⟩, fun _ => ⟨0, handle, .zero, ⟨8192⟩⟩, ⟨none, []⟩⟩
  have hnot := h env (.construct (.bulk () ⟨some handle, ()⟩ 0x81 (2 ^ 32)))
  have hvalues := (hnot.kept { numbers := [0] } (by decide)).1
  simp [Request.numbers, timeoutOf, isoSizes] at hvalues

end UsbAsio.Limits
