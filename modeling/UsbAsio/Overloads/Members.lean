import UsbAsio.Interface.Basic
import UsbAsio.Overloads.Basic
import UsbAsio.Transfer.Basic

/-!
# The members that report errors

The members of the four classes that exist with an `error_code&` and without, each under its name;
the one with an `error_code&` has the suffix `Ec`. Overloads that differ in their parameters are
`claim` and `claimDetach`, `unclaim` and `unclaimReattach`, the latter with the flag.
-/

namespace UsbAsio.Overloads

open Effects Interface

/-! ### `basic_usb_device` -/

/-- What a device tells its service. -/
inductive Notice where
  | devOpened
  | devClosed
  deriving DecidableEq

/-- A device, and what its service has been told so far, latest first. -/
structure DeviceObject where
  handle : Option DeviceHandle
  notices : List Notice

namespace DeviceObject

/-- `service_->notify_dev_opened()` and `service_->notify_dev_closed()`. -/
def notify (n : Notice) (x : DeviceObject) : DeviceObject := { x with notices := n :: x.notices }

/-- `handle_.reset(p)`. -/
def resetHandle (p : Option DeviceHandle) : Program DeviceObject Unit := do
  let old ← getObject
  modifyObject fun x => { x with handle := p }
  match old.handle with
  | some handle => let _ ← call (.close handle)
  | none        => return ()

def close : Program DeviceObject Unit := do
  let x ← getObject
  if x.handle.isSome then
    modifyObject (notify .devClosed)
    resetHandle none

/-- This overload is not `noexcept`. -/
def openEc (info : Option DevicePtr) (ec : ErrorCode) :
    Program DeviceObject (Unit × ErrorCode) := do
  close
  let tried ← libusbTryEc (.open info) ec
  if tried.2.isError then
    return ((), tried.2)
  else
    resetHandle (some tried.1.1.handle)
    modifyObject (notify .devOpened)
    return ((), tried.2)

/-- This overload is. -/
def «open» (info : Option DevicePtr) : Program DeviceObject Unit :=
  noexcept (tryWithEc (openEc info))

def setConfigurationEc (configuration : UInt8) :=
  callEc (fun x : DeviceObject => .setConfiguration x.handle configuration) fun _ _ => ()

def setConfiguration (configuration : UInt8) := tryWithEc (setConfigurationEc configuration)

def clearHaltEc (endpoint : UInt8) :=
  callEc (fun x : DeviceObject => .clearHalt x.handle endpoint) fun _ _ => ()

def clearHalt (endpoint : UInt8) := tryWithEc (clearHaltEc endpoint)

def resetDeviceEc := callEc (fun x : DeviceObject => .resetDevice x.handle) fun _ _ => ()

def resetDevice := tryWithEc resetDeviceEc

def allocStreamsEc (numStreams : UInt32) (endpoints : Buffer) :=
  callThrowing fun x : DeviceObject =>
    .allocStreams x.handle numStreams endpoints.data (toInt32 endpoints.size)

def allocStreams (numStreams : UInt32) (endpoints : Buffer) :=
  tryWithEc (allocStreamsEc numStreams endpoints)

def freeStreamsEc (endpoints : Buffer) :=
  callThrowing fun x : DeviceObject =>
    .freeStreams x.handle endpoints.data (toInt32 endpoints.size)

def freeStreams (endpoints : Buffer) := tryWithEc (freeStreamsEc endpoints)

end DeviceObject

/-! ### `basic_usb_interface` -/

namespace InterfaceObject

def unclaimReattachEc (reattachKernelDriver : Bool) (_ec : ErrorCode) :
    Program UsbInterface (Unit × ErrorCode) :=
  noexcept do
    let x ← getObject
    if x.deviceHandle.isNone then
      return ((), .clear)
    else
      let tried ← libusbTryEc (.releaseInterface x.deviceHandle x.number) .clear
      if tried.2.isError then
        return ((), tried.2)
      else
        if reattachKernelDriver then
          let _ ← call (.attachKernelDriver x.deviceHandle x.number)
        modifyObject fun _ => ⟨none, 0⟩  -- `detach()`
        return ((), tried.2)

def unclaimReattach (reattachKernelDriver : Bool) :=
  tryWithEc (unclaimReattachEc reattachKernelDriver)

def unclaimEc (ec : ErrorCode) := noexcept (unclaimReattachEc true ec)

/-- `unclaim()`, with the default argument. -/
def unclaim := unclaimReattach true

def claimDetachEc (device : Option DeviceHandle) (number : UInt8) (detachKernelDriver : Bool)
    (ec : ErrorCode) : Program UsbInterface (Unit × ErrorCode) :=
  noexcept do
    let unclaimed ← unclaimEc ec
    if unclaimed.2.isError then
      return ((), unclaimed.2)
    else
      if detachKernelDriver then
        let _ ← call (.detachKernelDriver device number)
      let tried ← libusbTryEc (.claimInterface device number) unclaimed.2
      if tried.2.isError then
        return ((), tried.2)
      else
        modifyObject fun _ => ⟨device, number⟩
        return ((), tried.2)

def claimEc (device : Option DeviceHandle) (number : UInt8) (ec : ErrorCode) :=
  noexcept (claimDetachEc device number true ec)

/-- The flag is not passed on. -/
def claimDetach (device : Option DeviceHandle) (number : UInt8) (_detachKernelDriver : Bool) :=
  tryWithEc (claimEc device number)

/-- `claim(device, number)`, with the default argument. -/
def claim (device : Option DeviceHandle) (number : UInt8) := claimDetach device number true

def setAltSettingEc (altSetting : UInt8) :=
  callEc (fun x : UsbInterface => .setInterfaceAltSetting x.deviceHandle x.number altSetting)
    fun _ _ => ()

def setAltSetting (altSetting : UInt8) := tryWithEc (setAltSettingEc altSetting)

end InterfaceObject

/-! ### `basic_usb_transfer` -/

structure TransferObject where
  handle : Option TransferPtr

namespace TransferObject

def cancelEc := callEc (fun x : TransferObject => .cancelTransfer x.handle) fun _ _ => ()

def cancel := tryWithEc cancelEc

end TransferObject

/-! ### `usb_device_info` -/

structure DeviceInfo where
  handle : Option DevicePtr

namespace DeviceInfo

def maxIsoPacketSizeEc (endpoint : UInt8) :=
  callEc (fun x : DeviceInfo => .getMaxIsoPacketSize x.handle endpoint) fun _ value => value

def maxIsoPacketSize (endpoint : UInt8) := tryWithEc (maxIsoPacketSizeEc endpoint)

def deviceDescriptorEc :=
  callEc (fun x : DeviceInfo => .getDeviceDescriptor x.handle)
    fun answer _ => answer.out .zero Answer.deviceDescriptor

def deviceDescriptor := tryWithEc deviceDescriptorEc

/-- The out parameter of the calls for a configuration, as a `config_descriptor_ptr`: null when the
call fails, so that nothing is freed when it is destroyed by an exception. -/
def configOut (answer : Answer) : Option ConfigDescriptorPtr :=
  answer.out none fun answer => some answer.configDescriptor

def activeConfigDescriptorEc :=
  callEc (fun x : DeviceInfo => .getActiveConfigDescriptor x.handle) fun answer _ =>
    configOut answer

def activeConfigDescriptor := tryWithEc activeConfigDescriptorEc

def configDescriptorEc (configIndex : UInt8) :=
  callEc (fun x : DeviceInfo => .getConfigDescriptor x.handle configIndex) fun answer _ =>
    configOut answer

def configDescriptor (configIndex : UInt8) := tryWithEc (configDescriptorEc configIndex)

def configDescriptorByIdValueEc (configIdValue : UInt8) :=
  callEc (fun x : DeviceInfo => .getConfigDescriptorByValue x.handle configIdValue)
    fun answer _ => configOut answer

def configDescriptorByIdValue (configIdValue : UInt8) :=
  tryWithEc (configDescriptorByIdValueEc configIdValue)

end DeviceInfo

/-! ### All of them -/

/-- The operations on an object of the class `σ` with a result in `α`, and their arguments. -/
inductive Operation : Type → Type → Type where
  | open (info : Option DevicePtr) : Operation DeviceObject Unit
  | setConfiguration (configuration : UInt8) : Operation DeviceObject Unit
  | clearHalt (endpoint : UInt8) : Operation DeviceObject Unit
  | resetDevice : Operation DeviceObject Unit
  | allocStreams (numStreams : UInt32) (endpoints : Buffer) : Operation DeviceObject Unit
  | freeStreams (endpoints : Buffer) : Operation DeviceObject Unit
  | claim (device : Option DeviceHandle) (number : UInt8) : Operation UsbInterface Unit
  | claimDetach (device : Option DeviceHandle) (number : UInt8) (detachKernelDriver : Bool) :
      Operation UsbInterface Unit
  | unclaim : Operation UsbInterface Unit
  | unclaimReattach (reattachKernelDriver : Bool) : Operation UsbInterface Unit
  | setAltSetting (altSetting : UInt8) : Operation UsbInterface Unit
  | cancel : Operation TransferObject Unit
  | maxIsoPacketSize (endpoint : UInt8) : Operation DeviceInfo ℕ
  | deviceDescriptor : Operation DeviceInfo DeviceDescriptor
  | activeConfigDescriptor : Operation DeviceInfo (Option ConfigDescriptorPtr)
  | configDescriptor (configIndex : UInt8) : Operation DeviceInfo (Option ConfigDescriptorPtr)
  | configDescriptorByIdValue (configIdValue : UInt8) :
      Operation DeviceInfo (Option ConfigDescriptorPtr)

namespace Operation

variable {σ α : Type}

/-- `op(args..., ec)`. -/
def withEc (op : Operation σ α) : ErrorCode → Program σ (α × ErrorCode) :=
  match op with
  | .open info                    => DeviceObject.openEc info
  | .setConfiguration c           => DeviceObject.setConfigurationEc c
  | .clearHalt endpoint           => DeviceObject.clearHaltEc endpoint
  | .resetDevice                  => DeviceObject.resetDeviceEc
  | .allocStreams n endpoints     => DeviceObject.allocStreamsEc n endpoints
  | .freeStreams endpoints        => DeviceObject.freeStreamsEc endpoints
  | .claim device n               => InterfaceObject.claimEc device n
  | .claimDetach device n flag    => InterfaceObject.claimDetachEc device n flag
  | .unclaim                      => InterfaceObject.unclaimEc
  | .unclaimReattach flag         => InterfaceObject.unclaimReattachEc flag
  | .setAltSetting n              => InterfaceObject.setAltSettingEc n
  | .cancel                       => TransferObject.cancelEc
  | .maxIsoPacketSize endpoint    => DeviceInfo.maxIsoPacketSizeEc endpoint
  | .deviceDescriptor             => DeviceInfo.deviceDescriptorEc
  | .activeConfigDescriptor       => DeviceInfo.activeConfigDescriptorEc
  | .configDescriptor n           => DeviceInfo.configDescriptorEc n
  | .configDescriptorByIdValue n  => DeviceInfo.configDescriptorByIdValueEc n

/-- `op(args...)`. -/
def throwing (op : Operation σ α) : Program σ α :=
  match op with
  | .open info                    => DeviceObject.open info
  | .setConfiguration c           => DeviceObject.setConfiguration c
  | .clearHalt endpoint           => DeviceObject.clearHalt endpoint
  | .resetDevice                  => DeviceObject.resetDevice
  | .allocStreams n endpoints     => DeviceObject.allocStreams n endpoints
  | .freeStreams endpoints        => DeviceObject.freeStreams endpoints
  | .claim device n               => InterfaceObject.claim device n
  | .claimDetach device n flag    => InterfaceObject.claimDetach device n flag
  | .unclaim                      => InterfaceObject.unclaim
  | .unclaimReattach flag         => InterfaceObject.unclaimReattach flag
  | .setAltSetting n              => InterfaceObject.setAltSetting n
  | .cancel                       => TransferObject.cancel
  | .maxIsoPacketSize endpoint    => DeviceInfo.maxIsoPacketSize endpoint
  | .deviceDescriptor             => DeviceInfo.deviceDescriptor
  | .activeConfigDescriptor       => DeviceInfo.activeConfigDescriptor
  | .configDescriptor n           => DeviceInfo.configDescriptor n
  | .configDescriptorByIdValue n  => DeviceInfo.configDescriptorByIdValue n

end Operation

end UsbAsio.Overloads
