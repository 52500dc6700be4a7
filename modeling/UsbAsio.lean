import UsbAsio.Transition.Basic
import UsbAsio.Transition.Simulation
import UsbAsio.Transition.Progress
import UsbAsio.Loop.Basic
import UsbAsio.Multimap.Basic
import UsbAsio.Forest.Basic
import UsbAsio.Ownership.Basic
import UsbAsio.UniquePtr.Basic
import UsbAsio.Ledger.Basic
import UsbAsio.Ledger.References
import UsbAsio.Memory.Basic
import UsbAsio.Memory.Blocks
import UsbAsio.Memory.Region
import UsbAsio.Narrowing.Basic
import UsbAsio.Mutex.Basic
import UsbAsio.WorkQueue.Basic
import UsbAsio.WorkQueue.Drain
import UsbAsio.WorkQueue.Executor
import UsbAsio.Effects.Basic
import UsbAsio.Effects.Parts
import UsbAsio.Effects.Insensitive
import UsbAsio.Effects.Unwinding
import UsbAsio.Effects.Embedding
import UsbAsio.Effects.Triples
import UsbAsio.Error
import UsbAsio.Service.Counter
import UsbAsio.Service.BlockingThread
import UsbAsio.Service.BlockingDrain
import UsbAsio.Service.EventThread
import UsbAsio.Service.Wakeup
import UsbAsio.Service.Polling
import UsbAsio.Service.Shutdown
import UsbAsio.Service.Destruction
import UsbAsio.RefPtr.Basic
import UsbAsio.RefPtr.Conservation
import UsbAsio.Device.Basic
import UsbAsio.Device.Ownership
import UsbAsio.Device.Accounting
import UsbAsio.Device.EventLoop
import UsbAsio.Interface.Basic
import UsbAsio.Interface.Conservation
import UsbAsio.Interface.Frame
import UsbAsio.Interface.KernelDriver
import UsbAsio.AsyncWork
import UsbAsio.BlockingOp.Basic
import UsbAsio.BlockingOp.HandleLifetime
import UsbAsio.BlockingOp.Target
import UsbAsio.Transfer.Basic
import UsbAsio.Transfer.Frame
import UsbAsio.Transfer.Pending
import UsbAsio.Transfer.Completion
import UsbAsio.Transfer.Turns
import UsbAsio.Transfer.Matched
import UsbAsio.Transfer.Progress
import UsbAsio.Transfer.Serial
import UsbAsio.Transfer.Overlap
import UsbAsio.Transfer.Control
import UsbAsio.Transfer.ControlBuffer
import UsbAsio.Transfer.Deferred
import UsbAsio.Transfer.Constructors
import UsbAsio.Transfer.Direction
import UsbAsio.Transfer.Delivery
import UsbAsio.Transfer.Isochronous
import UsbAsio.Transfer.Descriptors
import UsbAsio.Transfer.PacketResults
import UsbAsio.Transfer.PacketDelivery
import UsbAsio.Transfer.Lifetime
import UsbAsio.Overloads.Basic
import UsbAsio.Overloads.Members
import UsbAsio.Overloads.Runs
import UsbAsio.Overloads.Report
import UsbAsio.Overloads.Twins
import UsbAsio.Overloads.ClaimOutcomes
import UsbAsio.Overloads.Refinement
import UsbAsio.Overloads.AsyncMembers
import UsbAsio.Overloads.AsyncOrder
import UsbAsio.Limits
import UsbAsio.DmaResource
import UsbAsio.DmaResource.Exceptions
import UsbAsio.DeviceInfo.PortNumbers
import UsbAsio.DeviceInfo.DeviceList
import UsbAsio.DeviceInfo.DeviceTree
import UsbAsio.FromReadme.Basic
import UsbAsio.FromReadme.Ownership
import UsbAsio.FromReadme.Lifetimes
import UsbAsio.FromReadme.Storage
import UsbAsio.FromReadme.Reading
