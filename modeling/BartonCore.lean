import BartonCore.Proof.Database.DirtyFlag
import BartonCore.Proof.Sbmd.Deadline
import BartonCore.Proof.Sbmd.Lifetime
import BartonCore.Proof.Sbmd.DepthLimit
import BartonCore.Proof.Subsystem.Ready
import BartonCore.Proof.CommFail.Notifications
import BartonCore.Proof.Sbmd.PersistentData
import BartonCore.Proof.DeviceService.Reconfiguration
import BartonCore.Proof.Subsystem.Sessions
import BartonCore.Proof.Zigbee.Queues
import BartonCore.Proof.Zigbee.Matching
import BartonCore.Proof.Zigbee.Events
import BartonCore.Proof.Zigbee.Locks
import BartonCore.Proof.Sbmd.CameraBooks
import BartonCore.Proof.Zigbee.Joining
import BartonCore.Proof.Zigbee.Leaving
import BartonCore.Proof.Descriptors.Parser
import BartonCore.Proof.Descriptors.Handler
import BartonCore.Proof.DeviceService.Metadata
import BartonCore.Proof.DeviceService.Secrets
import BartonCore.Proof.Tlv.Padding
import BartonCore.Proof.Sbmd.Base64Tlv
import BartonCore.Proof.Zigbee.ChannelChange
import BartonCore.Proof.Matter.AccessControl
import BartonCore.Proof.CommFail.Records
import BartonCore.Proof.CommFail.Arithmetic
import BartonCore.Proof.Matter.Endpoints
import BartonCore.Proof.Sbmd.Prerequisites
import BartonCore.Proof.Sbmd.Constants
import BartonCore.Proof.DeviceService.Inheritance
import BartonCore.Proof.DeviceService.Delivery
import BartonCore.Proof.DeviceService.Eligibility
import BartonCore.Proof.DeviceService.Announcements
import BartonCore.Proof.Zigbee.BufferIO
import BartonCore.Proof.Zigbee.DeviceDetails
import BartonCore.Proof.Zigbee.Attributes
import BartonCore.Proof.Zigbee.LinkQuality
import BartonCore.Proof.DeviceService.Properties
import BartonCore.Proof.Database.Uris
import BartonCore.Proof.Tlv.ReaderSafety
import BartonCore.Proof.Zigbee.FirmwareCleanup
import BartonCore.Proof.Sbmd.BraceMatching
import BartonCore.Proof.Observability.Accounts
import BartonCore.Proof.Sbmd.Registration
import BartonCore.Proof.Sbmd.Thermostat
import BartonCore.Proof.Zigbee.EventTracker
