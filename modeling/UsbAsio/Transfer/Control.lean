import UsbAsio.Memory.Basic
import UsbAsio.Transfer.Basic

/-!
# Control transfers

`usb_control_transfer_buffer`, the setup packet, and what `async_control` hands to libusb. The
setup packet goes to the start of the storage, but the transfer is pointed at the payload behind
it: the region that libusb is given always begins and ends eight bytes too late.
-/

namespace UsbAsio.Transfer

open Memory

/-- `LIBUSB_CONTROL_SETUP_SIZE`. -/
def controlSetupSize : ℕ := 8

/-! ### Flags -/

inductive UsbTransferDirection where
  | «in»
  | out
  deriving DecidableEq

inductive UsbControlRequestRecipient where
  | device
  | interface
  | endpoint
  | other
  deriving DecidableEq

inductive UsbControlRequestType where
  | standardRequest
  | classRequest
  | vendorRequest
  | reserved
  deriving DecidableEq

def UsbTransferDirection.value : UsbTransferDirection → UInt8
  | .«in» => 0x80
  | .out  => 0x00

def UsbControlRequestRecipient.value : UsbControlRequestRecipient → UInt8
  | .device    => 0x00
  | .interface => 0x01
  | .endpoint  => 0x02
  | .other     => 0x03

def UsbControlRequestType.value : UsbControlRequestType → UInt8
  | .standardRequest => 0x00
  | .classRequest    => 0x20
  | .vendorRequest   => 0x40
  | .reserved        => 0x60

/-! ### The setup packet -/

/-- A `libusb_control_setup` in the byte order of the host. -/
structure SetupPacket where
  bmRequestType : UInt8
  bRequest : UInt8
  wValue : ℕ
  wIndex : ℕ
  wLength : ℕ
  deriving DecidableEq

/-- The eight bytes of a setup packet. -/
def SetupPacket.encode (p : SetupPacket) : List UInt8 :=
  p.bmRequestType :: p.bRequest ::
    (toLittleEndian 2 p.wValue ++ toLittleEndian 2 p.wIndex ++ toLittleEndian 2 p.wLength)

/-- What the device makes of eight bytes. -/
def SetupPacket.decode : List UInt8 → Option SetupPacket
  | [b₀, b₁, b₂, b₃, b₄, b₅, b₆, b₇] =>
    some ⟨b₀, b₁, ofLittleEndian [b₂, b₃], ofLittleEndian [b₄, b₅], ofLittleEndian [b₆, b₇]⟩
  | _ => none

@[simp] lemma SetupPacket.length_encode (p : SetupPacket) :
    p.encode.length = controlSetupSize := by
  simp [SetupPacket.encode, controlSetupSize]

/-- Its fields are 16 bits wide. -/
structure SetupPacket.Valid (p : SetupPacket) : Prop where
  wValue : p.wValue < 2 ^ 16
  wIndex : p.wIndex < 2 ^ 16
  wLength : p.wLength < 2 ^ 16

/-- The device reads back what the fields can hold of the numbers of the host. -/
lemma SetupPacket.decode_encode_eq_mod (p : SetupPacket) : SetupPacket.decode p.encode = some
    { p with
      wValue := p.wValue % 2 ^ 16
      wIndex := p.wIndex % 2 ^ 16
      wLength := p.wLength % 2 ^ 16 } := by
  have hread : ∀ n, ofLittleEndian [UInt8.ofNat n, UInt8.ofNat (n / 256)] = n % 2 ^ 16 :=
    fun n => ofLittleEndian_toLittleEndian_eq_mod 2 n
  simp only [SetupPacket.encode, toLittleEndian, List.cons_append, List.nil_append,
    SetupPacket.decode, hread]

/-- The device reads back what the host has written. -/
lemma SetupPacket.decode_encode {p : SetupPacket} (h : p.Valid) :
    SetupPacket.decode p.encode = some p := by
  rw [decode_encode_eq_mod, Nat.mod_eq_of_lt h.wValue, Nat.mod_eq_of_lt h.wIndex,
    Nat.mod_eq_of_lt h.wLength]

/-! ### Buffers -/

/-- The number of 16-bit words in the `data_` of a buffer constructed with `size`, which is a
`std::size_t`. -/
def dataWords (size : ℕ) : ℕ := (size + (2 ^ 64 - 1)) % 2 ^ 64 / 2 + 1 + controlSetupSize

/-- `usb_control_transfer_buffer`: the storage of `data_`, as its constructor allocates it. -/
structure ControlTransferBuffer where
  requested : ℕ
  storage : Block
  length_storage : storage.bytes.length = 2 * dataWords requested

namespace ControlTransferBuffer

/-- `usb_control_transfer_buffer{size}`, when its storage is allocated at `base`. -/
def construct (base size : ℕ) : ControlTransferBuffer :=
  ⟨size, ⟨base, List.replicate (2 * dataWords size) 0⟩, List.length_replicate⟩

variable (b : ControlTransferBuffer)

/-- `payload()`, as an address and a size. -/
def payload : Buffer :=
  ⟨b.storage.base + controlSetupSize, b.storage.bytes.length - controlSetupSize⟩

def data : ℕ := b.payload.data

def size : ℕ := b.payload.size

/-- The bytes of `payload()`. -/
def content : List UInt8 := b.storage.bytes.drop controlSetupSize

/-- The header fits in front of the payload. -/
lemma setupSize_le : controlSetupSize ≤ b.storage.bytes.length := by
  rw [b.length_storage, dataWords]
  omega

lemma length_content : b.content.length = b.size := by
  simp [content, size, payload]

/-- The storage is the header and the payload. -/
lemma size_add_setupSize : b.size + controlSetupSize = b.storage.bytes.length :=
  Nat.sub_add_cancel b.setupSize_le

end ControlTransferBuffer

/-! ### Submission -/

/-- The arguments of `async_control`, without the buffer. -/
structure ControlRequest where
  direction : UsbTransferDirection
  recipient : UsbControlRequestRecipient
  type : UsbControlRequestType
  request : UInt8
  value : UInt16
  index : UInt8

def ControlRequest.bmRequestType (r : ControlRequest) : UInt8 :=
  r.recipient.value ||| r.type.value ||| r.direction.value

/-- The setup packet of a request with `wLength` bytes of payload. -/
def ControlRequest.setup (r : ControlRequest) (wLength : ℕ) : SetupPacket :=
  ⟨r.bmRequestType, r.request, r.value.toNat, r.index.toNat, wLength⟩

/-- `libusb_fill_control_setup` writes the packet at the address it is given. -/
def libusbFillControlSetup (storage : Block) (addr : ℕ) (p : SetupPacket) : Option Block :=
  storage.write addr p.encode

/-- The `handle->buffer` and `handle->length` that `async_control` submits, and the storage of
the buffer at that time. -/
def asyncControl (r : ControlRequest) (b : ControlTransferBuffer) : Option (Args × Block) :=
  (libusbFillControlSetup b.storage (b.data - controlSetupSize) (r.setup b.size)).map
    fun storage => (⟨b.data, toInt32 (b.size + controlSetupSize)⟩, storage)

/-- The bytes of the region that libusb is given, when it lies inside the storage. -/
def region (args : Args) (storage : Block) : Option (List UInt8) :=
  if 0 ≤ args.length then storage.read args.buffer args.length.toNat else none

/-- libusb reads a setup packet from the region, in which the device finds the request, and
`payload` as its data stage. -/
def WireImage (r : ControlRequest) (payload : List UInt8) (args : Args) (storage : Block) :
    Prop :=
  ∃ bytes p, region args storage = some bytes ∧
    SetupPacket.decode (bytes.take controlSetupSize) = some p ∧
    (p.bmRequestType &&& 0x1f = r.recipient.value ∧ p.bmRequestType &&& 0x60 = r.type.value ∧
      p.bmRequestType &&& 0x80 = r.direction.value ∧
      p.bmRequestType = r.recipient.value ||| r.type.value ||| r.direction.value) ∧
    p.bRequest = r.request ∧ p.wValue = r.value.toNat ∧ p.wIndex = r.index.toNat ∧
    p.wLength = payload.length ∧ bytes.drop controlSetupSize = payload

/-- The three parts of a request type occupy different bits. -/
lemma bmRequestType_parts (recipient : UsbControlRequestRecipient)
    (type : UsbControlRequestType) (direction : UsbTransferDirection) :
    (recipient.value ||| type.value ||| direction.value) &&& 0x1f = recipient.value ∧
      (recipient.value ||| type.value ||| direction.value) &&& 0x60 = type.value ∧
      (recipient.value ||| type.value ||| direction.value) &&& 0x80 = direction.value := by
  cases recipient <;> cases type <;> cases direction <;> decide

/-- A request with at most 65535 bytes of payload fits into its setup packet. -/
lemma ControlRequest.setup_valid (r : ControlRequest) {wLength : ℕ} (h : wLength ≤ 65535) :
    (r.setup wLength).Valid :=
  ⟨r.value.toNat_lt, r.index.toNat_lt.trans (by decide), Nat.lt_succ_of_le h⟩

/-- The setup packet always goes in front of the payload, which it leaves alone. -/
lemma asyncControl_eq (r : ControlRequest) (b : ControlTransferBuffer) :
    asyncControl r b = some (⟨b.data, toInt32 (b.size + controlSetupSize)⟩,
      { b.storage with bytes := (r.setup b.size).encode ++ b.content }) := by
  have haddr : b.data - controlSetupSize = b.storage.base := Nat.add_sub_cancel _ _
  rw [asyncControl, haddr, libusbFillControlSetup, Block.write_base, SetupPacket.length_encode]
  · rfl
  · rw [SetupPacket.length_encode]
    exact b.setupSize_le

lemma toInt32_of_lt {n : ℤ} (h₀ : 0 ≤ n) (h : n < 2 ^ 31) : toInt32 n = n :=
  toInt32_eq_self_iff.mpr ⟨by omega, h⟩

/-- The length of a region with a legal payload is not narrowed. -/
lemma toInt32_setupSize {n : ℕ} (h : n ≤ 65535) :
    toInt32 (n + controlSetupSize) = (n + controlSetupSize : ℕ) := by
  refine (toInt32_of_lt ?_ ?_).trans (Int.natCast_add _ _).symm <;>
    · unfold controlSetupSize
      omega

/-- The region that begins at the start of the storage is the right one. -/
lemma wireImage_of_base (r : ControlRequest) (b : ControlTransferBuffer) (h : b.size ≤ 65535) :
    WireImage r b.content ⟨b.storage.base, toInt32 (b.size + controlSetupSize)⟩
      { b.storage with bytes := (r.setup b.size).encode ++ b.content } := by
  have hencode := SetupPacket.length_encode (r.setup b.size)
  have hlen : ((r.setup b.size).encode ++ b.content).length = b.size + controlSetupSize := by
    rw [List.length_append, hencode, b.length_content, Nat.add_comm]
  have hint := toInt32_setupSize h
  refine ⟨(r.setup b.size).encode ++ b.content, r.setup b.size, ?_, ?_, ?_, rfl, rfl, rfl, ?_, ?_⟩
  · rw [region, hint, if_pos (Int.natCast_nonneg _), Int.toNat_natCast, ← hlen]
    exact Block.read_base
  · rw [List.take_left' hencode]
    exact SetupPacket.decode_encode (r.setup_valid h)
  · obtain ⟨hrecipient, htype, hdirection⟩ := bmRequestType_parts r.recipient r.type r.direction
    exact ⟨hrecipient, htype, hdirection, rfl⟩
  · exact b.length_content.symm
  · exact List.drop_left' hencode

/-- The region that begins at the payload leaves the storage. -/
lemma region_of_data (b : ControlTransferBuffer) (h : b.size ≤ 65535) {bytes : List UInt8}
    (hlen : bytes.length = b.storage.bytes.length) :
    region ⟨b.data, toInt32 (b.size + controlSetupSize)⟩ { b.storage with bytes := bytes } =
      none := by
  rw [region, toInt32_setupSize h, if_pos (Int.natCast_nonneg _), Int.toNat_natCast,
    Block.read_eq_none_iff]
  rintro ⟨-, hend⟩
  have hsize := b.size_add_setupSize
  have hdata : b.data = b.storage.base + controlSetupSize := rfl
  have hpos : 0 < controlSetupSize := by decide
  simp only [hlen] at hend
  omega

/-- `async_control` never gives libusb the wire image of its request. The setup packet and the
payload are in place, but the region starts at the payload and ends behind the storage; the
region of the same length that starts at the setup packet would be right. -/
theorem asyncControl_not_wireImage (r : ControlRequest) (b : ControlTransferBuffer)
    (h : b.size ≤ 65535) :
    ∃ args storage, asyncControl r b = some (args, storage) ∧
      ¬ WireImage r b.content args storage ∧ region args storage = none ∧
      WireImage r b.content { args with buffer := args.buffer - controlSetupSize } storage := by
  have hbytes : ((r.setup b.size).encode ++ b.content).length = b.storage.bytes.length := by
    rw [List.length_append, SetupPacket.length_encode, b.length_content, Nat.add_comm,
      b.size_add_setupSize]
  have hregion := region_of_data b h hbytes
  refine ⟨_, _, asyncControl_eq r b, ?_, hregion, ?_⟩
  · rintro ⟨bytes, p, hread, -⟩
    rw [hregion] at hread
    cases hread
  · have haddr : b.data - controlSetupSize = b.storage.base := Nat.add_sub_cancel _ _
    simp only [haddr]
    exact wireImage_of_base r b h

/-- `GET_DESCRIPTOR` into a buffer for the 18 bytes of a device descriptor. -/
theorem asyncControl_not_wireImage_getDescriptor :
    let r : ControlRequest := ⟨.«in», .device, .standardRequest, 6, 0x0100, 0⟩
    let b := ControlTransferBuffer.construct 4096 18
    ∃ args storage, asyncControl r b = some (args, storage) ∧
      ¬ WireImage r b.content args storage := by
  intro r b
  obtain ⟨args, storage, heq, hnot, -⟩ := asyncControl_not_wireImage r b (by decide)
  exact ⟨args, storage, heq, hnot⟩

/-- The same request: libusb is given the 34 bytes from 4104 on, of a storage that ends at
4130. -/
theorem not_wireImage_getDescriptor :
    ¬ ∀ (r : ControlRequest) (b : ControlTransferBuffer) (args : Args) (storage : Block),
      b.size ≤ 65535 → asyncControl r b = some (args, storage) →
        WireImage r b.content args storage := by
  intro h
  let r : ControlRequest := ⟨.«in», .device, .standardRequest, 6, 0x0100, 0⟩
  let b := ControlTransferBuffer.construct 4096 18
  obtain ⟨bytes, p, hread, -⟩ := h r b _ _ (by decide) (asyncControl_eq r b)
  have hnone : region ⟨b.data, toInt32 (b.size + controlSetupSize)⟩
      { b.storage with bytes := (r.setup b.size).encode ++ b.content } = none := by decide
  rw [hnone] at hread
  cases hread

end UsbAsio.Transfer
