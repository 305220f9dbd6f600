import USBDevicePlugin.Core.TransitionSystem
import USBDevicePlugin.Core.Interaction
import USBDevicePlugin.Core.Search
import USBDevicePlugin.Environment.Interface
import USBDevicePlugin.Environment.Sysfs
import USBDevicePlugin.Environment.Calls
import USBDevicePlugin.Device.Path
import USBDevicePlugin.Core.Decimal
import USBDevicePlugin.Device.Struct
import USBDevicePlugin.Device.SysfsPath
import USBDevicePlugin.Device.BlockDevice
import USBDevicePlugin.Device.KernelTree
import USBDevicePlugin.Device.HotPlug
import USBDevicePlugin.Core.LittleEndian
import USBDevicePlugin.Device.ExtInfo
import USBDevicePlugin.Device.StringDescriptors
import USBDevicePlugin.Device.Info
import USBDevicePlugin.Device.StringEdits
import USBDevicePlugin.Operations.DeviceList
import USBDevicePlugin.Operations.DeviceScan
import USBDevicePlugin.Operations.Listing
import USBDevicePlugin.Operations.DeviceInfo
import USBDevicePlugin.Operations.Independence
import USBDevicePlugin.Operations.MissingStrings
import USBDevicePlugin.Operations.Driver
import USBDevicePlugin.Operations.StorageInterface
import USBDevicePlugin.Operations.Resources
import USBDevicePlugin.Operations.Topology
import USBDevicePlugin.Core.Script
import USBDevicePlugin.Core.Threads
import USBDevicePlugin.Core.Progress
import USBDevicePlugin.Core.ThreadProgress
import USBDevicePlugin.Operations.Clients
import USBDevicePlugin.Operations.Sleeping
import USBDevicePlugin.Operations.Reading
import USBDevicePlugin.Operations.Names
import USBDevicePlugin.Lifecycle.Delivery
import USBDevicePlugin.Lifecycle.ExactlyOnce
import USBDevicePlugin.Lifecycle.Order
import USBDevicePlugin.Core.Refinement
import USBDevicePlugin.Lifecycle.Linearization
import USBDevicePlugin.Lifecycle.OrderedDelivery
import USBDevicePlugin.Lifecycle.Tracking
import USBDevicePlugin.Lifecycle.Progress
import USBDevicePlugin.Lifecycle.EventLoop
import USBDevicePlugin.Lifecycle.Shutdown
import USBDevicePlugin.Lifecycle.Activation
import USBDevicePlugin.Lifecycle.Routing
import USBDevicePlugin.Lifecycle.References
import USBDevicePlugin.Core.NodeList
import USBDevicePlugin.Lifecycle.Reentrancy
import USBDevicePlugin.Lifecycle.Waiting
import USBDevicePlugin.Lifecycle.DefaultContext
import USBDevicePlugin.Lifecycle.PluginHost
import USBDevicePlugin.Lifecycle.Forwarding
