import UsbAsio.DeviceInfo.DeviceList
import UsbAsio.Effects.Triples
import UsbAsio.Ledger.References
import UsbAsio.Overloads.Runs
import UsbAsio.Transfer.Constructors

/-!
# The program in the README

The coroutine in `examples/example_from_readme.cpp`: it opens a device, claims an interface, reads
from an endpoint, and leaves the rest to destructors. While the coroutine waits for an operation,
the blocking thread or the event thread works on its objects, and the event thread may go on doing
so afterwards. The threads and the `io_context` of the service are taken to start.
-/

namespace UsbAsio.FromReadme

open Effects Interface Ledger Overloads

/-! ### Calls -/

/-- What memory is asked for, apart from the vector of `list_usb_devices`. -/
inductive Storage where
  | usbService
  | completionContext
  | handlerImpl
  /-- A function that is posted to an executor. -/
  | operation
  deriving DecidableEq

inductive Call where
  | list (c : DeviceList.Call DevicePtr)
  | libusb (c : LibusbCall)
  | allocate (what : Storage)
  | init
  | allocTransfer (isoPackets : ℤ)
  | submitTransfer (transfer : Option TransferPtr) (fields : Transfer.LibusbTransfer)
      (args : Transfer.Args)
  /-- The event thread enters `completion_callback`, while the coroutine is suspended. -/
  | completion
  /-- `context.handler.reset()`. -/
  | resetHandler
  /-- Not a call: how far the event thread has come in `completion_callback`. -/
  | eventThread
  | freeContext
  | freeTransfer (transfer : TransferPtr)

/-- `std::bad_alloc`, also where the vector of `list_usb_devices` throws it. -/
structure BadAlloc

structure Answer where
  list : DeviceList.Answer DevicePtr BadAlloc
  libusb : Overloads.Answer
  transfer : Option TransferPtr
  memory : Bool
  /-- What asio makes of an exception in the initiation of an awaited operation: it is thrown at the
  `co_await`, or else it ends the process. -/
  rethrown : Bool
  status : ℤ
  actualLength : ℕ
  /-- Whether the event thread has left `completion_callback`. -/
  left : Bool

abbrev Exception := DeviceList.Exception BadAlloc

/-- What `libusb_alloc_transfer` leaves. -/
def zeroed : Transfer.LibusbTransfer := ⟨none, 0, .control, 0, 0, [], 0⟩

structure InBulkTransfer where
  handle : Option TransferPtr
  /-- Whether there is a `completion_context_`. -/
  context : Bool
  /-- Whether the event thread has still to reset the handler. -/
  inCallback : Bool
  deriving DecidableEq

def InBulkTransfer.none : InBulkTransfer := ⟨.none, false, false⟩

/-- The variables of the coroutine, and the storage they are built in. -/
structure Locals where
  dev : DeviceObject
  devices : DeviceList.Vector DevicePtr
  devInfo : DeviceInfo
  interface : UsbInterface
  transfer : InBulkTransfer
  /-- What `transfer` points to. -/
  fields : Transfer.LibusbTransfer

/-- Before the coroutine, when the storage of `interface` holds `deviceHandle`. -/
def Locals.storage (deviceHandle : Option DeviceHandle) : Locals :=
  ⟨⟨none, []⟩, ⟨[], 0⟩, ⟨none⟩, ⟨deviceHandle, 0⟩, .none, zeroed⟩

abbrev Program := Effects.Program Call Answer Exception Locals

abbrev Machine := Effects.Machine Call Answer Locals

def devPart : Part Locals DeviceObject :=
  ⟨Locals.dev, fun x y => { x with dev := y }, fun _ _ => rfl, fun _ => rfl⟩

def devicesPart : Part Locals (DeviceList.Vector DevicePtr) :=
  ⟨Locals.devices, fun x y => { x with devices := y }, fun _ _ => rfl, fun _ => rfl⟩

def devInfoPart : Part Locals DeviceInfo :=
  ⟨Locals.devInfo, fun x y => { x with devInfo := y }, fun _ _ => rfl, fun _ => rfl⟩

def interfacePart : Part Locals UsbInterface :=
  ⟨Locals.interface, fun x y => { x with interface := y }, fun _ _ => rfl, fun _ => rfl⟩

def inList : Embedding (DeviceList.Call DevicePtr) (DeviceList.Answer DevicePtr BadAlloc)
    Exception Call Answer Exception where
  call := .list
  answer := ⟨Answer.list, fun x y => { x with list := y }, fun _ _ => rfl, fun _ => rfl⟩
  raise := id

def inLibusb : Embedding LibusbCall Overloads.Answer ErrorCode Call Answer Exception where
  call := .libusb
  answer := ⟨Answer.libusb, fun x y => { x with libusb := y }, fun _ _ => rfl, fun _ => rfl⟩
  raise := .systemError

/-! ### Memory -/

/-- The program goes on if there is memory. -/
def allocate (what : Storage) (refused : Answer → Stop Exception) : Program Unit := do
  let allocated ← call (.allocate what)
  if allocated.memory then return () else throw (refused allocated)

def badAlloc (_ : Answer) : Stop Exception := .thrown (.allocator {})

/-- In the initiation of an awaited operation. -/
def failedInitiation (answer : Answer) : Stop Exception :=
  if answer.rethrown then .thrown (.allocator {}) else .terminated

/-- On the blocking thread, and in `completion_callback`. -/
def uncaught (_ : Answer) : Stop Exception := .terminated

/-- The result of an operation as the coroutine gets it. -/
def throwIfError (ec : ErrorCode) : Program Unit :=
  if ec.isError then throw (.thrown (.systemError ec)) else return ()

/-! ### The device -/

/-- `asio::use_service<usb_service>`, for the first time. -/
def useService : Program Unit := do
  allocate .usbService badAlloc
  let init ← call .init
  throwIfError (libusbTry init.libusb.retCode).1

/-- `basic_usb_device{executor}`. -/
def constructDev : Program Unit := do
  useService
  modifyObject fun x => { x with dev := ⟨none, []⟩ }

/-- The implicit destructor: the handle is closed, and the service is not told. -/
def destroyDev : Program Unit := inLibusb.within devPart (DeviceObject.resetHandle none)

/-- The fields at the offsets 8 and 10, on a machine that is little-endian. -/
def idVendor (desc : DeviceDescriptor) : ℕ :=
  desc.bytes[8].toNat + 256 * desc.bytes[9].toNat

def idProduct (desc : DeviceDescriptor) : ℕ :=
  desc.bytes[10].toNat + 256 * desc.bytes[11].toNat

/-- The body of the loop over the devices. -/
def openMatching (info : DevicePtr) : Program Unit := do
  modifyObject fun x => { x with devInfo := ⟨some info⟩ }
  let desc ← inLibusb.within devInfoPart DeviceInfo.deviceDescriptor
  if idVendor desc = 0xABCD ∧ idProduct desc = 0x1234 then
    inLibusb.within devPart (DeviceObject.open (some info))

def openDevices : Program Unit := do
  let infos ← inList.within devicesPart DeviceList.listUsbDevices
  withCleanup (inList.within devicesPart (DeviceList.destroyInfos infos)) (forM infos openMatching)

/-! ### The interface -/

/-- `~basic_usb_interface()`. -/
def destroyInterface : Program Unit := do
  let _ ← inLibusb.within interfacePart (InterfaceObject.unclaimEc .clear)

/-- `basic_usb_interface{dev, number}`. The constructor that it delegates to first leaves
`device_handle_` as the storage has it; once that one has returned, an exception runs the
destructor. -/
def constructInterface (number : UInt8) : Program Unit := do
  modifyObject fun x => { x with interface := { x.interface with number := 0 } }
  let x ← getObject
  onUnwind destroyInterface
    (inLibusb.within interfacePart (InterfaceObject.claimDetach x.dev.handle number true))

/-- `co_await` of an operation that `async_try_blocking_with_ec` runs on the blocking thread. -/
def awaitBlocking (blockingFn : ErrorCode → Overloads.Program UsbInterface (Unit × ErrorCode)) :
    Program Unit := do
  allocate .operation failedInitiation
  let done ← inLibusb.within interfacePart (blockingFn .clear)
  allocate .operation uncaught
  throwIfError done.2

/-! ### The transfer -/

/-- `~unique_ptr()` of `completion_context_`. -/
def destroyContext : Program Unit := do
  let x ← getObject
  if x.transfer.context then
    let _ ← call .freeContext
    modifyObject fun x => { x with transfer := { x.transfer with context := false } }

/-- `~unique_ptr()` of `handle_`. -/
def destroyHandle : Program Unit := do
  let x ← getObject
  match x.transfer.handle with
  | some transfer =>
    let _ ← call (.freeTransfer transfer)
    modifyObject fun x => { x with transfer := { x.transfer with handle := none } }
  | none => return ()

/-- The event thread leaves `completion_callback`. -/
def leaveCallback : Program Unit := do
  let _ ← call .resetHandler
  modifyObject fun x => { x with transfer := { x.transfer with inCallback := false } }

/-- The implicit destructor. Nothing makes it wait for the event thread; when this comes last, it
does not matter by how much. -/
def destroyTransfer : Program Unit := do
  let x ← getObject
  if x.transfer.inCallback then
    let callback ← call .eventThread
    if callback.left then
      leaveCallback
      destroyContext
      destroyHandle
    else
      destroyContext
      destroyHandle
      leaveCallback
  else
    destroyContext
    destroyHandle

/-- `usb_in_bulk_transfer{dev, endpoint, timeout}`: the members first, then the check. -/
def constructTransfer (endpoint : UInt8) (timeout : ℤ) : Program Unit := do
  let allocated ← call (.allocTransfer 0)
  modifyObject fun x => { x with
    transfer := ⟨allocated.transfer, false, false⟩
    fields := zeroed }
  onUnwind destroyTransfer do
    allocate .completionContext badAlloc
    modifyObject fun x => { x with transfer := { x.transfer with context := true } }
    if allocated.transfer = none then
      throw (.thrown (.allocator {}))
    else
      modifyObject fun x => { x with
        fields := Transfer.libusbFillBulkTransfer x.fields x.dev.handle endpoint
          (Transfer.toUnsigned timeout) }

/-- The handler is posted from `completion_callback`, which is `noexcept`. -/
def complete : Program ℕ := do
  let completed ← call .completion
  allocate .operation uncaught
  modifyObject fun x => { x with transfer := { x.transfer with inCallback := true } }
  throwIfError (makeTransferErrorCode completed.status)
  return completed.actualLength

/-- `co_await transfer.async_read_some(buffer)`. -/
def asyncReadSome (buffer : Buffer) : Program ℕ := do
  allocate .handlerImpl failedInitiation
  let x ← getObject
  let submitted ← call (.submitTransfer x.transfer.handle x.fields (Transfer.asyncReadSome buffer))
  let ec := (libusbTry submitted.libusb.retCode).1
  if ec.isError then
    allocate .operation failedInitiation
    let _ ← call .resetHandler
    throw (.thrown (.systemError ec))
  else
    complete

/-! ### The coroutine -/

/-- What is done with an open device, up to the destructor of `interface`. -/
def useInterface (buff : ℕ) : Program Unit := do
  awaitBlocking (InterfaceObject.setAltSettingEc 2)
  constructTransfer 3 1000
  withCleanup destroyTransfer do
    let _ ← asyncReadSome ⟨buff, 512⟩
    awaitBlocking (InterfaceObject.unclaimReattachEc true)

/-- `EXIT_SUCCESS` and `EXIT_FAILURE`. -/
inductive ExitStatus where
  | success
  | failure
  deriving DecidableEq

/-- The life of `dev`, with `buff` at a given address. -/
def useDev (buff : ℕ) : Program ExitStatus := do
  openDevices
  let x ← getObject
  if x.dev.handle.isSome then
    constructInterface 1
    withCleanup destroyInterface (useInterface buff)
    return .success
  else
    return .failure

def coroutine (buff : ℕ) : Program ExitStatus := do
  constructDev
  withCleanup destroyDev (useDev buff)

/-- How the coroutine ends when the storage of `interface` holds `deviceHandle`. -/
def outcome (deviceHandle : Option DeviceHandle) (buff : ℕ) (answers : ℕ → Answer) :
    EStateM.Result (Stop Exception) Machine ExitStatus :=
  (coroutine buff).run (.start answers (.storage deviceHandle))

end UsbAsio.FromReadme
