import UsbAsio.Device.Basic
import UsbAsio.Transfer.Control

/-!
# Constructors of transfers

The constructors of transfers. Each type of transfer has constructors that are given an executor,
and constructors that take that of the device; isochronous transfers are built from a range of
packet sizes, or from a number of packets of one size. The direction of the transfer is a parameter
of the class, and reaches none of them. Control transfers stand apart: they have no endpoint.
-/

namespace UsbAsio.Transfer

inductive UsbTransferType where
  | control
  | isochronous
  | bulk
  | interrupt
  | bulkStream
  deriving DecidableEq

/-- `static_cast<unsigned>`. -/
def toUnsigned (n : ℤ) : ℕ := (n % 2 ^ 32).toNat

/-- The fields of a `libusb_transfer` that a constructor sets; `buffer` and `length` are null and
0. -/
structure LibusbTransfer where
  devHandle : Option DeviceHandle
  endpoint : UInt8
  type : UsbTransferType
  timeout : ℕ
  streamId : UInt32
  /-- `iso_packet_desc[i].length`. -/
  isoPacketLengths : List ℕ
  numIsoPackets : ℤ

/-! ### libusb -/

/-- `libusb_alloc_transfer(iso_packets)`: `memory` says whether its result is null, which is left
open whatever the number of packets. -/
def libusbAllocTransfer (memory : Bool) (_isoPackets : ℤ) : Option LibusbTransfer :=
  if memory then some ⟨none, 0, .control, 0, 0, [], 0⟩ else none

lemma libusbAllocTransfer_eq_some {memory : Bool} {isoPackets : ℤ} {t : LibusbTransfer}
    (h : libusbAllocTransfer memory isoPackets = some t) :
    t.isoPacketLengths = [] ∧ t.numIsoPackets = 0 := by
  obtain ⟨-, rfl⟩ := Option.ite_some_none_eq_some.mp h
  exact ⟨rfl, rfl⟩

/-- Without a buffer, there is no setup packet to take a length from. -/
def libusbFillControlTransfer (t : LibusbTransfer) (devHandle : Option DeviceHandle)
    (timeout : ℕ) : LibusbTransfer :=
  { t with devHandle := devHandle, endpoint := 0, type := .control, timeout := timeout }

def libusbFillBulkTransfer (t : LibusbTransfer) (devHandle : Option DeviceHandle)
    (endpoint : UInt8) (timeout : ℕ) : LibusbTransfer :=
  { t with devHandle := devHandle, endpoint := endpoint, type := .bulk, timeout := timeout }

def libusbFillInterruptTransfer (t : LibusbTransfer) (devHandle : Option DeviceHandle)
    (endpoint : UInt8) (timeout : ℕ) : LibusbTransfer :=
  { t with devHandle := devHandle, endpoint := endpoint, type := .interrupt, timeout := timeout }

def libusbFillBulkStreamTransfer (t : LibusbTransfer) (devHandle : Option DeviceHandle)
    (endpoint : UInt8) (streamId : UInt32) (timeout : ℕ) : LibusbTransfer :=
  { libusbFillBulkTransfer t devHandle endpoint timeout with
    type := .bulkStream, streamId := streamId }

def libusbFillIsoTransfer (t : LibusbTransfer) (devHandle : Option DeviceHandle)
    (endpoint : UInt8) (numIsoPackets : ℤ) (timeout : ℕ) : LibusbTransfer :=
  { t with
    devHandle := devHandle, endpoint := endpoint, type := .isochronous, timeout := timeout
    numIsoPackets := numIsoPackets }

/-! ### Constructors -/

/-- A device, as far as a transfer looks at it. -/
structure DeviceRef (E : Type*) where
  handle : Option DeviceHandle
  executor : E

/-- `basic_usb_transfer`, without its completion context. -/
structure UsbTransfer (E : Type*) where
  handle : LibusbTransfer
  executor : E

variable {E : Type*}

/-- A constructor without result has thrown `std::bad_alloc`. The other constructor of control
transfers does not pass its device on, and cannot be instantiated. -/
def control (memory : Bool) (executor : E) (device : DeviceRef E) (timeout : ℤ) :
    Option (UsbTransfer E) :=
  (libusbAllocTransfer memory 0).map fun t =>
    ⟨libusbFillControlTransfer t device.handle (toUnsigned timeout), executor⟩

/-- From a range of packet sizes. -/
def isochronous (memory : Bool) (executor : E) (device : DeviceRef E) (endpoint : UInt8)
    (packetSizes : List ℕ) (timeout : ℤ) : Option (UsbTransfer E) :=
  (libusbAllocTransfer memory (toInt32 packetSizes.length)).map fun t =>
    let t := { t with isoPacketLengths := packetSizes.map fun size => toUnsigned size }
    ⟨libusbFillIsoTransfer t device.handle endpoint (toInt32 packetSizes.length)
      (toUnsigned timeout), executor⟩

/-- From `num_packets` packets of `packet_size`. -/
def isochronousUniform (memory : Bool) (executor : E) (device : DeviceRef E) (endpoint : UInt8)
    (numPackets packetSize : ℕ) (timeout : ℤ) : Option (UsbTransfer E) :=
  isochronous memory executor device endpoint (List.replicate numPackets packetSize) timeout

def bulk (memory : Bool) (executor : E) (device : DeviceRef E) (endpoint : UInt8)
    (timeout : ℤ) : Option (UsbTransfer E) :=
  (libusbAllocTransfer memory 0).map fun t =>
    ⟨libusbFillBulkTransfer t device.handle endpoint (toUnsigned timeout), executor⟩

def interrupt (memory : Bool) (executor : E) (device : DeviceRef E) (endpoint : UInt8)
    (timeout : ℤ) : Option (UsbTransfer E) :=
  (libusbAllocTransfer memory 0).map fun t =>
    ⟨libusbFillInterruptTransfer t device.handle endpoint (toUnsigned timeout), executor⟩

def bulkStream (memory : Bool) (executor : E) (device : DeviceRef E) (endpoint : UInt8)
    (streamId : UInt32) (timeout : ℤ) : Option (UsbTransfer E) :=
  (libusbAllocTransfer memory 0).map fun t =>
    ⟨libusbFillBulkStreamTransfer t device.handle endpoint streamId (toUnsigned timeout),
      executor⟩

/-- The ten ways to construct a transfer that is not a control transfer. -/
inductive Constructor (E : Type*) where
  | isochronous (executor : E) (device : DeviceRef E) (endpoint : UInt8) (packetSizes : List ℕ)
      (timeout : ℤ)
  | isochronousUniform (executor : E) (device : DeviceRef E) (endpoint : UInt8)
      (numPackets packetSize : ℕ) (timeout : ℤ)
  | isochronousOf (device : DeviceRef E) (endpoint : UInt8) (packetSizes : List ℕ) (timeout : ℤ)
  | isochronousUniformOf (device : DeviceRef E) (endpoint : UInt8) (numPackets packetSize : ℕ)
      (timeout : ℤ)
  | bulk (executor : E) (device : DeviceRef E) (endpoint : UInt8) (timeout : ℤ)
  | bulkOf (device : DeviceRef E) (endpoint : UInt8) (timeout : ℤ)
  | interrupt (executor : E) (device : DeviceRef E) (endpoint : UInt8) (timeout : ℤ)
  | interruptOf (device : DeviceRef E) (endpoint : UInt8) (timeout : ℤ)
  | bulkStream (executor : E) (device : DeviceRef E) (endpoint : UInt8) (streamId : UInt32)
      (timeout : ℤ)
  | bulkStreamOf (device : DeviceRef E) (endpoint : UInt8) (streamId : UInt32) (timeout : ℤ)

namespace Constructor

/-- The constructors that are not given an executor delegate to those that are. -/
def construct (memory : Bool) : Constructor E → Option (UsbTransfer E)
  | .isochronous executor device endpoint packetSizes timeout =>
    Transfer.isochronous memory executor device endpoint packetSizes timeout
  | .isochronousUniform executor device endpoint numPackets packetSize timeout =>
    Transfer.isochronousUniform memory executor device endpoint numPackets packetSize timeout
  | .isochronousOf device endpoint packetSizes timeout =>
    Transfer.isochronous memory device.executor device endpoint packetSizes timeout
  | .isochronousUniformOf device endpoint numPackets packetSize timeout =>
    Transfer.isochronousUniform memory device.executor device endpoint numPackets packetSize timeout
  | .bulk executor device endpoint timeout =>
    Transfer.bulk memory executor device endpoint timeout
  | .bulkOf device endpoint timeout =>
    Transfer.bulk memory device.executor device endpoint timeout
  | .interrupt executor device endpoint timeout =>
    Transfer.interrupt memory executor device endpoint timeout
  | .interruptOf device endpoint timeout =>
    Transfer.interrupt memory device.executor device endpoint timeout
  | .bulkStream executor device endpoint streamId timeout =>
    Transfer.bulkStream memory executor device endpoint streamId timeout
  | .bulkStreamOf device endpoint streamId timeout =>
    Transfer.bulkStream memory device.executor device endpoint streamId timeout

/-- The argument `endpoint`. -/
def endpoint : Constructor E → UInt8
  | .isochronous _ _ endpoint _ _ | .isochronousUniform _ _ endpoint _ _ _
  | .isochronousOf _ endpoint _ _ | .isochronousUniformOf _ endpoint _ _ _
  | .bulk _ _ endpoint _ | .bulkOf _ endpoint _ | .interrupt _ _ endpoint _
  | .interruptOf _ endpoint _ | .bulkStream _ _ endpoint _ _ | .bulkStreamOf _ endpoint _ _ =>
    endpoint

/-- The packet sizes that an isochronous transfer is built from. -/
def packetSizes : Constructor E → List ℕ
  | .isochronous _ _ _ packetSizes _ | .isochronousOf _ _ packetSizes _ => packetSizes
  | .isochronousUniform _ _ _ numPackets packetSize _
  | .isochronousUniformOf _ _ numPackets packetSize _ => List.replicate numPackets packetSize
  | _ => []

/-- The endpoint of a transfer is the byte that its constructor was given. -/
lemma endpoint_construct {c : Constructor E} {memory : Bool} {t : UsbTransfer E}
    (h : c.construct memory = some t) : t.handle.endpoint = c.endpoint := by
  cases c <;>
    · obtain ⟨_, -, rfl⟩ := Option.map_eq_some_iff.mp h
      rfl

/-- The packets of a transfer have the sizes that its constructor was given, in 32 bits; so has
their number. -/
lemma packets_construct {c : Constructor E} {memory : Bool} {t : UsbTransfer E}
    (h : c.construct memory = some t) :
    t.handle.isoPacketLengths = c.packetSizes.map (fun size => toUnsigned size) ∧
      t.handle.numIsoPackets = toInt32 c.packetSizes.length := by
  cases c with
  | isochronous | isochronousUniform | isochronousOf | isochronousUniformOf =>
    obtain ⟨_, -, rfl⟩ := Option.map_eq_some_iff.mp h
    simp [libusbFillIsoTransfer, packetSizes]
  | bulk | bulkOf | interrupt | interruptOf | bulkStream | bulkStreamOf =>
    obtain ⟨_, halloc, rfl⟩ := Option.map_eq_some_iff.mp h
    obtain ⟨hlengths, hnum⟩ := libusbAllocTransfer_eq_some halloc
    simp [libusbFillBulkTransfer, libusbFillInterruptTransfer, libusbFillBulkStreamTransfer,
      packetSizes, toInt32, hlengths, hnum]

end Constructor

end UsbAsio.Transfer
