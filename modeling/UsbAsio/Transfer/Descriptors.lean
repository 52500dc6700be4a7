import UsbAsio.Memory.Region
import UsbAsio.Transfer.Constructors

/-!
# Packet descriptors and packet results

The constructors of isochronous transfers once more, with the two arrays that they set up: the
packet descriptors behind a `libusb_transfer`, and the storage for the results of the packets in the
completion context. There are as many descriptors as the narrowed number of packets says, and the
loop that sets their lengths runs over all packets.
-/

namespace UsbAsio.Transfer.Iso

open Memory

/-- `libusb_iso_packet_descriptor`. -/
structure PacketDescriptor where
  length : ℕ
  actualLength : ℕ
  status : ℤ
  deriving DecidableEq

/-- `usb_iso_packet_transfer_result`. -/
structure PacketResult where
  transferred : ℕ
  ec : ErrorCode
  deriving DecidableEq

/-- An isochronous `basic_usb_transfer` with its completion context. -/
structure IsoTransfer (E : Type*) where
  devHandle : Option DeviceHandle
  endpoint : UInt8
  timeout : ℕ
  numIsoPackets : ℤ
  isoPacketDesc : Region PacketDescriptor
  resultStorage : Region PacketResult
  executor : E

/-- Whether there is memory for the three allocations of a constructor. -/
structure Available where
  transfer : Bool
  context : Bool
  results : Bool

variable {E : Type*}

/-! ### Constructors -/

/-- The packet descriptors that `libusb_alloc_transfer(iso_packets)` allocates, all zero: as many as
it is asked for. Whether its result is null is left open, also for a negative number. -/
def libusbAllocDescriptors (memory : Bool) (isoPackets : ℤ) : Option (Region PacketDescriptor) :=
  if memory then some (.alloc isoPackets.toNat ⟨0, 0, 0⟩) else none

/-- `static_cast<int>(std::ranges::size(packet_sizes))`. -/
abbrev isoPackets (packetSizes : List ℕ) : ℤ := toInt32 packetSizes.length

/-- `handle()->iso_packet_desc[packet].length = static_cast<unsigned>(packet_size)`. -/
def PacketDescriptor.setLength (size : ℕ) (d : PacketDescriptor) : PacketDescriptor :=
  { d with length := toUnsigned size }

/-- From a range of packet sizes; a constructor without result has thrown. -/
def isochronous (memory : Available) (executor : E) (device : DeviceRef E) (endpoint : UInt8)
    (packetSizes : List ℕ) (timeout : ℤ) : Option (IsoTransfer E) :=
  (libusbAllocDescriptors memory.transfer (isoPackets packetSizes)).bind fun descriptors =>
    if memory.context ∧ memory.results then
      some {
        devHandle := device.handle
        endpoint := endpoint
        timeout := toUnsigned timeout
        numIsoPackets := toInt32 packetSizes.length
        isoPacketDesc := Region.fill PacketDescriptor.setLength descriptors 0 packetSizes
        resultStorage := .alloc packetSizes.length ⟨0, .clear⟩
        executor := executor }
    else none

/-- From `num_packets` packets of `packet_size`. -/
def isochronousUniform (memory : Available) (executor : E) (device : DeviceRef E)
    (endpoint : UInt8) (numPackets packetSize : ℕ) (timeout : ℤ) : Option (IsoTransfer E) :=
  isochronous memory executor device endpoint ((List.range numPackets).map fun _ => packetSize)
    timeout

/-! ### What they set up -/

/-- As many descriptors and results as packets, with the sizes of the packets, and no write outside
of either array. -/
structure Configured (packetSizes : List ℕ) (x : IsoTransfer E) : Prop where
  numIsoPackets : x.numIsoPackets = packetSizes.length
  lengths : x.isoPacketDesc.cells.map PacketDescriptor.length = packetSizes
  inside : x.isoPacketDesc.overrun = false
  results : x.resultStorage.cells.length = packetSizes.length
  resultsInside : x.resultStorage.overrun = false

variable {memory : Available} {executor : E} {device : DeviceRef E} {endpoint : UInt8}
  {packetSizes : List ℕ} {timeout : ℤ} {x : IsoTransfer E}

lemma isochronous_eq_some
    (h : isochronous memory executor device endpoint packetSizes timeout = some x) :
    x = {
      devHandle := device.handle
      endpoint := endpoint
      timeout := toUnsigned timeout
      numIsoPackets := toInt32 packetSizes.length
      isoPacketDesc := Region.fill PacketDescriptor.setLength
        (.alloc (toInt32 packetSizes.length).toNat ⟨0, 0, 0⟩) 0 packetSizes
      resultStorage := .alloc packetSizes.length ⟨0, .clear⟩
      executor := executor } := by
  obtain ⟨descriptors, halloc, hrest⟩ := Option.bind_eq_some_iff.mp h
  obtain ⟨-, rfl⟩ := Option.ite_some_none_eq_some.mp halloc
  obtain ⟨-, rfl⟩ := Option.ite_some_none_eq_some.mp hrest
  rfl

/-- The loop leaves the descriptors when there are fewer of them than packets. -/
lemma overrun_isochronous
    (h : isochronous memory executor device endpoint packetSizes timeout = some x) :
    x.isoPacketDesc.overrun = true ↔ toInt32 packetSizes.length < packetSizes.length := by
  obtain rfl := isochronous_eq_some h
  rw [Region.overrun_fill]
  simp only [Region.overrun_alloc, Region.cells_alloc, List.length_replicate, Bool.false_eq_true,
    false_or, Nat.zero_add]
  constructor
  · rintro ⟨-, hlt⟩
    omega
  · intro hlt
    have hne : packetSizes ≠ [] := by
      rintro rfl
      simp [toInt32] at hlt
    have hpos : 0 < packetSizes.length := List.length_pos_iff.mpr hne
    exact ⟨hne, by omega⟩

/-- The sizes of the packets are those that the other model sets. -/
lemma map_length_zipWith (packetSizes : List ℕ) :
    (List.zipWith PacketDescriptor.setLength packetSizes
      (List.replicate packetSizes.length ⟨0, 0, 0⟩)).map PacketDescriptor.length =
      packetSizes.map fun size : ℕ => toUnsigned size := by
  induction packetSizes with
  | nil => rfl
  | cons size packetSizes ih =>
    rw [List.length_cons, List.replicate_succ, List.zipWith_cons_cons, List.map_cons, ih]
    rfl

/-- Up to `INT_MAX` packets, there is a descriptor for each. -/
lemma lengths_isochronous (hn : packetSizes.length < 2 ^ 31)
    (h : isochronous memory executor device endpoint packetSizes timeout = some x) :
    x.isoPacketDesc.cells.map PacketDescriptor.length =
      packetSizes.map fun size : ℕ => toUnsigned size := by
  have hint : toInt32 packetSizes.length = packetSizes.length :=
    toInt32_eq_self_iff.mpr ⟨by omega, by omega⟩
  obtain rfl := isochronous_eq_some h
  have hlength : packetSizes.length =
      (Region.alloc packetSizes.length (⟨0, 0, 0⟩ : PacketDescriptor)).cells.length := by simp
  dsimp only
  rw [hint, Int.toNat_natCast, Region.fill_of_length_eq hlength]
  exact map_length_zipWith packetSizes

lemma toUnsigned_of_lt {n : ℕ} (h : n < 2 ^ 32) : toUnsigned n = n := by
  have hmod : (n : ℤ) % 2 ^ 32 = n := Int.emod_eq_of_lt (by omega) (by omega)
  rw [toUnsigned, hmod, Int.toNat_natCast]

lemma configured_isochronous (hn : packetSizes.length < 2 ^ 31)
    (hsizes : ∀ size ∈ packetSizes, size < 2 ^ 32)
    (h : isochronous memory executor device endpoint packetSizes timeout = some x) :
    Configured packetSizes x := by
  have hint : toInt32 packetSizes.length = packetSizes.length :=
    toInt32_eq_self_iff.mpr ⟨by omega, by omega⟩
  have hlengths : x.isoPacketDesc.cells.map PacketDescriptor.length = packetSizes := by
    rw [lengths_isochronous hn h]
    exact (List.map_congr_left fun size hsize => toUnsigned_of_lt (hsizes size hsize)).trans
      (List.map_id _)
  have hinside : x.isoPacketDesc.overrun = false := by
    rw [← Bool.not_eq_true, overrun_isochronous h, hint]
    exact lt_irrefl _
  have heq := isochronous_eq_some h
  refine ⟨?_, hlengths, hinside, ?_, ?_⟩
  · rw [heq]
    dsimp only
    exact hint
  · simp [heq]
  · simp [heq]

/-- The two constructors agree when all packets have one size. -/
lemma isochronousUniform_eq (memory : Available) (executor : E) (device : DeviceRef E)
    (endpoint : UInt8) (numPackets packetSize : ℕ) (timeout : ℤ) :
    isochronousUniform memory executor device endpoint numPackets packetSize timeout =
      isochronous memory executor device endpoint (List.replicate numPackets packetSize)
        timeout := by
  have hsizes : (List.range numPackets).map (fun _ => packetSize) =
      List.replicate numPackets packetSize := by
    rw [List.map_const', List.length_range]
  rw [isochronousUniform, hsizes]

/-! ### The model without the arrays -/

/-- `x` without its completion context, and its descriptors reduced to their lengths. -/
def IsoTransfer.usbTransfer (x : IsoTransfer E) : UsbTransfer E :=
  ⟨⟨x.devHandle, x.endpoint, .isochronous, x.timeout, 0,
    x.isoPacketDesc.cells.map PacketDescriptor.length, x.numIsoPackets⟩, x.executor⟩

/-- Up to `INT_MAX` packets, the constructor does what the one without arrays does. -/
theorem usbTransfer_isochronous (hn : packetSizes.length < 2 ^ 31)
    (h : isochronous memory executor device endpoint packetSizes timeout = some x) :
    Transfer.isochronous memory.transfer executor device endpoint packetSizes timeout =
      some x.usbTransfer := by
  have hlengths := lengths_isochronous hn h
  obtain ⟨descriptors, halloc, -⟩ := Option.bind_eq_some_iff.mp h
  obtain ⟨hmemory, -⟩ := Option.ite_some_none_eq_some.mp halloc
  have heq := isochronous_eq_some h
  rw [Transfer.isochronous, libusbAllocTransfer, if_pos hmemory, IsoTransfer.usbTransfer, hlengths]
  simp [heq, libusbFillIsoTransfer, ← List.map_eq_flatMap]

end UsbAsio.Transfer.Iso
