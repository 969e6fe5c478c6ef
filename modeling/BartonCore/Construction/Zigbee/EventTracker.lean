/-
This file contains the tracker of the events of Zigbee devices. Its threads share the collections under one mutex.
-/

import BartonCore.Construction.Zigbee.BufferIO
import BartonCore.Construction.Zigbee.DeviceDetails
import BartonCore.Construction.Zigbee.Events
import BartonCore.Construction.Descriptors.Handler
import BartonCore.ToMathlib.Registry
import BartonCore.ToMathlib.Threads
import BartonCore.ToMathlib.Windows

namespace Barton.EventTracker
open Registry (Table)
open Threads (Configuration)
open ZigbeeEvents (ReceivedAttributeReport ReceivedClusterCommand)
open ZigbeeIO (zigbeeIOInit zigbeeIOGetUint8 zigbeeIOGetUint16)

section Items

structure DeviceAttributeItem where
  reportTime : String
  data : String
  clusterId : String
  attributeId : String
  deriving DecidableEq

structure DeviceRejoinItem where
  rejoinTime : String
  isSecure : String
  deriving DecidableEq

structure DeviceUpgFailureItem where
  failureTime : ℤ
  deviceId : String
  deriving DecidableEq

structure DeviceEventCounterItem where
  totalRejoinEvents : UInt32
  totalSecureRejoinEvents : UInt32
  totalUnSecureRejoinEvents : UInt32
  totalApsAckFailureEvents : UInt32
  totalDuplicateSeqNumEvents : UInt32
  cumulativeSensorDelayQS : UInt32
  deriving DecidableEq

structure ChannelEnergyScanDataItem where
  channel : UInt8
  max : Int8
  min : Int8
  average : Int8
  deriving DecidableEq

def maxNumberOfAttributeReports : Nat := 8

def maxNumberOfRejoins : Nat := 5

def maxNumberOfCheckIns : Nat := 5

/-- The numbers stand in brackets, and no data is the empty text. -/
def dataToString (dataList : List UInt8) : String :=
  if dataList = [] then ""
  else "[" ++ String.intercalate "," (dataList.map fun data => toString data.toNat) ++ "]"

/-- The item names the endpoint of the report as its attribute. -/
def createDeviceAttributeItem (time : ℤ) (newReport : ReceivedAttributeReport) : DeviceAttributeItem where
  reportTime := toString time
  data := dataToString newReport.reportData
  clusterId := toString newReport.clusterId.toNat
  attributeId := toString newReport.sourceEndpoint.toNat

def createDeviceRejoinItem (time : ℤ) (isSecure : Bool) : DeviceRejoinItem where
  rejoinTime := toString time
  isSecure := if isSecure then "true" else "false"

end Items

section Holders

/-- The events of a device with their arguments. -/
inductive StatEvent where
  | basicRejoinCheckIn (isSecure : Bool)
  | apsAckFailure
  | duplicateSeqNum (newSeqNum : UInt8)
  | detailedRejoin (item : DeviceRejoinItem)
  | checkIn (timeStamp : String)
  | attributeReport (item : DeviceAttributeItem)
  | iasNotifySensorDelay (delayQS : UInt16)
  | magneticStrengthReport (valueString : String)
  deriving DecidableEq

structure DeviceStatHolder where
  attributeReportList : List DeviceAttributeItem
  detailRejoinList : List DeviceRejoinItem
  checkInList : List String
  magneticStrength : Option String
  eventCounters : DeviceEventCounterItem
  previousSeqNum : UInt32
  deriving DecidableEq

def noEvents : DeviceEventCounterItem := ⟨0, 0, 0, 0, 0, 0⟩

/-- No sequence number equals the default. -/
def createDeviceStatHolder : DeviceStatHolder := ⟨[], [], [], none, noEvents, 0xffffffff⟩

/-- The new event stands first in its list, and the last one of a full list is removed. -/
def addEventInfoToDeviceStatHolderList (holder : DeviceStatHolder) : StatEvent → Bool × DeviceStatHolder
  | .attributeReport item => (true, { holder with
      attributeReportList := Windows.push maxNumberOfAttributeReports item holder.attributeReportList })
  | .detailedRejoin item => (true, { holder with
      detailRejoinList := Windows.push maxNumberOfRejoins item holder.detailRejoinList })
  | .checkIn timeStamp => (true, { holder with
      checkInList := Windows.push maxNumberOfCheckIns timeStamp holder.checkInList })
  | _ => (false, holder)

def addEventCounterInfoToDeviceStatHolder (holder : DeviceStatHolder) : StatEvent → Bool × DeviceStatHolder
  | .basicRejoinCheckIn isSecure =>
      let counters := holder.eventCounters
      let counted :=
        if isSecure then { counters with totalSecureRejoinEvents := counters.totalSecureRejoinEvents + 1 }
        else { counters with totalUnSecureRejoinEvents := counters.totalUnSecureRejoinEvents + 1 }
      (true, { holder with
        eventCounters := { counted with totalRejoinEvents := counted.totalRejoinEvents + 1 } })
  | .apsAckFailure =>
      (true, { holder with eventCounters := { holder.eventCounters with
        totalApsAckFailureEvents := holder.eventCounters.totalApsAckFailureEvents + 1 } })
  | .duplicateSeqNum newSeqNum =>
      if newSeqNum.toUInt32 = holder.previousSeqNum then
        (true, { holder with eventCounters := { holder.eventCounters with
          totalDuplicateSeqNumEvents := holder.eventCounters.totalDuplicateSeqNumEvents + 1 } })
      else (true, { holder with previousSeqNum := newSeqNum.toUInt32 })
  | .iasNotifySensorDelay delayQS =>
      (true, { holder with eventCounters := { holder.eventCounters with
        cumulativeSensorDelayQS := holder.eventCounters.cumulativeSensorDelayQS + delayQS.toUInt32 } })
  | _ => (false, holder)

/-- The switch over the type of the event. A magnetic strength is stored without success. -/
def addEvent (holder : DeviceStatHolder) : StatEvent → Bool × DeviceStatHolder
  | .magneticStrengthReport valueString => (false, { holder with magneticStrength := some valueString })
  | .detailedRejoin item => addEventInfoToDeviceStatHolderList holder (.detailedRejoin item)
  | .checkIn timeStamp => addEventInfoToDeviceStatHolderList holder (.checkIn timeStamp)
  | .attributeReport item => addEventInfoToDeviceStatHolderList holder (.attributeReport item)
  | event => addEventCounterInfoToDeviceStatHolder holder event

end Holders

section Accesses

/-- The mutex protects these collections and flags. A collection is missing before the start and after the end. -/
structure Tracker where
  numberOfDeviceUpgSuccess : Int32
  deviceUpgradeFailures : Option (List DeviceUpgFailureItem)
  channelCollection : Option (List ChannelEnergyScanDataItem)
  deviceCollection : Option (Table String DeviceStatHolder)
  reportEventCollectingTurnedOn : Bool
  channelEventCollectingTurnedOn : Bool

def Tracker.initial : Tracker := ⟨0, none, none, none, true, false⟩

/-- These parts of the functions hold the mutex. -/
inductive Access where
  | isReportCollectingTurnedOn
  | isChannelCollectingTurnedOn
  | locateAndAddEventToCollection (type : StatEvent) (deviceId : String)
  | addUpgradeSuccess
  | addUpgradeFailure (item : DeviceUpgFailureItem)
  | collectAttributeReports (deviceId : String)
  | collectRejoins (deviceId : String)
  | collectCheckIns (deviceId : String)
  | collectMagneticStrength (deviceId : String)
  | collectEventCounters (deviceId : String)
  | collectUpgradeSuccesses
  | collectUpgradeFailures
  | collectChannelEnergyScans
  | resetSensorDelayCounters (deviceId : String)
  | storeScan (item : ChannelEnergyScanDataItem)
  | turnReportCollecting (on : Bool)
  | turnChannelCollecting (on : Bool)
  | initEventTracker (reports channels : Bool)
  | shutDownEventTracker
  deriving DecidableEq

/-- The mutex is released with one of these results. -/
inductive Answer where
  | done (success : Bool)
  | attributeReports (items : Option (List DeviceAttributeItem))
  | rejoins (items : Option (List DeviceRejoinItem))
  | checkIns (items : Option (List String))
  | magneticStrength (value : Option String)
  | eventCounters (counters : DeviceEventCounterItem)
  | upgradeSuccesses (number : Int32)
  | upgradeFailures (items : Option (List DeviceUpgFailureItem))
  | channelEnergyScans (items : Option (List ChannelEnergyScanDataItem))
  deriving DecidableEq

variable (tracker : Tracker)

/-- The holder of a device is created with its first event. -/
def locateAndAddEventToCollection (type : StatEvent) (deviceId : String) : Answer × Tracker :=
  match tracker.deviceCollection with
  | none => (.done false, tracker)
  | some deviceCollection =>
      let (added, holder) := addEvent ((deviceCollection.lookup deviceId).getD createDeviceStatHolder) type
      (.done added, { tracker with deviceCollection := some (AList.insert deviceId holder deviceCollection) })

def Tracker.holder (deviceId : String) : Option DeviceStatHolder :=
  tracker.deviceCollection.bind fun deviceCollection => deviceCollection.lookup deviceId

def resetSensorDelayCounters (deviceId : String) : Answer × Tracker :=
  match tracker.deviceCollection with
  | none => (.done true, tracker)
  | some deviceCollection =>
      match deviceCollection.lookup deviceId with
      | none => (.done true, tracker)
      | some holder => (.done true, { tracker with deviceCollection := some (AList.insert deviceId { holder with
          eventCounters := { holder.eventCounters with cumulativeSensorDelayQS := 0 } } deviceCollection) })

/-- The list is read at the number of the channel, and a missing element is added at its end. -/
def storeScan (item : ChannelEnergyScanDataItem) (channelCollection : List ChannelEnergyScanDataItem) :
    List ChannelEnergyScanDataItem :=
  if item.channel.toNat < channelCollection.length then channelCollection.set item.channel.toNat item
  else channelCollection ++ [item]

def Tracker.perform : Access → Answer × Tracker
  | .isReportCollectingTurnedOn => (.done tracker.reportEventCollectingTurnedOn, tracker)
  | .isChannelCollectingTurnedOn => (.done tracker.channelEventCollectingTurnedOn, tracker)
  | .locateAndAddEventToCollection type deviceId => locateAndAddEventToCollection tracker type deviceId
  | .addUpgradeSuccess =>
      (.done true, { tracker with numberOfDeviceUpgSuccess := tracker.numberOfDeviceUpgSuccess + 1 })
  | .addUpgradeFailure item => (.done tracker.deviceUpgradeFailures.isSome, { tracker with
      deviceUpgradeFailures := tracker.deviceUpgradeFailures.map fun items => items ++ [item] })
  | .collectAttributeReports deviceId =>
      (.attributeReports ((tracker.holder deviceId).map DeviceStatHolder.attributeReportList), tracker)
  | .collectRejoins deviceId => (.rejoins ((tracker.holder deviceId).map DeviceStatHolder.detailRejoinList), tracker)
  | .collectCheckIns deviceId => (.checkIns ((tracker.holder deviceId).map DeviceStatHolder.checkInList), tracker)
  | .collectMagneticStrength deviceId =>
      (.magneticStrength ((tracker.holder deviceId).bind DeviceStatHolder.magneticStrength), tracker)
  | .collectEventCounters deviceId =>
      (.eventCounters (((tracker.holder deviceId).map DeviceStatHolder.eventCounters).getD noEvents), tracker)
  | .collectUpgradeSuccesses =>
      (.upgradeSuccesses tracker.numberOfDeviceUpgSuccess, { tracker with numberOfDeviceUpgSuccess := 0 })
  | .collectUpgradeFailures => (.upgradeFailures tracker.deviceUpgradeFailures, { tracker with
      deviceUpgradeFailures := tracker.deviceUpgradeFailures.map fun _ => [] })
  | .collectChannelEnergyScans => (.channelEnergyScans tracker.channelCollection, tracker)
  | .resetSensorDelayCounters deviceId => resetSensorDelayCounters tracker deviceId
  | .storeScan item =>
      (.done true, { tracker with channelCollection := tracker.channelCollection.map (storeScan item) })
  | .turnReportCollecting on => (.done true, { tracker with reportEventCollectingTurnedOn := on })
  | .turnChannelCollecting on => (.done true, { tracker with channelEventCollectingTurnedOn := on })
  | .initEventTracker reports channels => (.done true, { tracker with
      deviceCollection := some ∅
      deviceUpgradeFailures := some []
      channelCollection := some []
      reportEventCollectingTurnedOn := reports
      channelEventCollectingTurnedOn := channels })
  | .shutDownEventTracker => (.done true, { tracker with
      deviceCollection := none
      deviceUpgradeFailures := none
      channelCollection := none })

end Accesses

section Functions

/-- The report of a sensor and of an unknown device is left out. -/
def zigbeeEventTrackerAddAttributeReportEvent (deviceClass : Option String) (time : ℤ)
    (report : ReceivedAttributeReport) : List Access :=
  .isReportCollectingTurnedOn ::
    if deviceClass.any fun name => ¬DescriptorHandler.equalIgnoringCase name "sensor" then
      [.locateAndAddEventToCollection (.attributeReport (createDeviceAttributeItem time report))
        (DeviceDetails.zigbeeSubsystemEui64ToId report.eui64)]
    else []

def zigbeeEventTrackerAddRejoinEvent (time : ℤ) (eui64 : UInt64) (wasSecure : Bool) : List Access :=
  let uuid := DeviceDetails.zigbeeSubsystemEui64ToId eui64
  [.isReportCollectingTurnedOn, .locateAndAddEventToCollection (.basicRejoinCheckIn wasSecure) uuid,
    .locateAndAddEventToCollection (.detailedRejoin (createDeviceRejoinItem time wasSecure)) uuid]

/-- These commands are check-ins. -/
def isCheckIn (command : ReceivedClusterCommand) : Bool :=
  (command.clusterId = 0x0020 ∧ command.commandId = 0x00) ∨
    (command.mfgSpecific ∧ command.mfgCode = 0x109d ∧ command.clusterId = 0x0500 ∧ command.commandId = 0x00)

/-- The delay of a notification follows its status, its extended status and its zone. A payload that is too short has
the delay 0. -/
def delayQS (command : ReceivedClusterCommand) : UInt16 :=
  let delay := do
    let (zio, _) ← zigbeeIOGetUint16 (zigbeeIOInit command.commandData .read)
    let (zio, _) ← zigbeeIOGetUint8 zio
    let (zio, _) ← zigbeeIOGetUint8 zio
    let (_, delay) ← zigbeeIOGetUint16 zio
    return delay
  delay.getD 0

/-- The delay of a sensor has a check of its own. -/
def zigbeeEventTrackerAddClusterCommandEvent (deviceClass : Option String) (time : ℤ)
    (command : ReceivedClusterCommand) : List Access :=
  let uuid := DeviceDetails.zigbeeSubsystemEui64ToId command.eui64
  [.isReportCollectingTurnedOn, .locateAndAddEventToCollection (.duplicateSeqNum command.seqNum) uuid] ++
    (if isCheckIn command then [.locateAndAddEventToCollection (.checkIn (toString time)) uuid] else []) ++
    if command.clusterId = 0x0500 ∧ command.commandId = 0x00 ∧
        (deviceClass.any fun name => DescriptorHandler.equalIgnoringCase name "sensor") ∧ 0 < delayQS command then
      [.isReportCollectingTurnedOn, .locateAndAddEventToCollection (.iasNotifySensorDelay (delayQS command)) uuid]
    else []

def zigbeeEventTrackerAddMagneticStrengthReport (deviceUuid valueString : String) : List Access :=
  [.isReportCollectingTurnedOn, .locateAndAddEventToCollection (.magneticStrengthReport valueString) deviceUuid]

def zigbeeEventTrackerAddApsAckFailureEvent (eui64 : UInt64) : List Access :=
  [.isReportCollectingTurnedOn,
    .locateAndAddEventToCollection .apsAckFailure (DeviceDetails.zigbeeSubsystemEui64ToId eui64)]

def zigbeeEventTrackerAddDeviceFirmwareUpgradeSuccessEvent : List Access :=
  [.isReportCollectingTurnedOn, .addUpgradeSuccess]

def zigbeeEventTrackerAddDeviceFirmwareUpgradeFailureEvent (time : ℤ) (eui64 : UInt64) : List Access :=
  [.isReportCollectingTurnedOn, .addUpgradeFailure ⟨time, DeviceDetails.zigbeeSubsystemEui64ToId eui64⟩]

/-- The collecting functions differ in what they read. -/
def collect (access : Access) : List Access := [.isReportCollectingTurnedOn, access]

def zigbeeEventTrackerCollectAttributeReportEventsForDevice (deviceId : String) : List Access :=
  collect (.collectAttributeReports deviceId)

def zigbeeEventTrackerCollectRejoinEventsForDevice (deviceId : String) : List Access :=
  collect (.collectRejoins deviceId)

def zigbeeEventTrackerCollectCheckInEventsForDevice (deviceId : String) : List Access :=
  collect (.collectCheckIns deviceId)

def zigbeeEventTrackerCollectMagneticStrengthReportsForDevice (deviceId : String) : List Access :=
  collect (.collectMagneticStrength deviceId)

def zigbeeEventTrackerCollectEventCountersForDevice (deviceId : String) : List Access :=
  collect (.collectEventCounters deviceId)

def zigbeeEventTrackerCollectFirmwareUpgradeSuccessEvents : List Access := collect .collectUpgradeSuccesses

def zigbeeEventTrackerCollectFirmwareUpgradeFailureEvents : List Access := collect .collectUpgradeFailures

def zigbeeEventTrackerCollectChannelEnergyScanStats : List Access :=
  [.isChannelCollectingTurnedOn, .collectChannelEnergyScans]

def zigbeeEventTrackerResetSensorDelayCountersForDevice (deviceId : String) : List Access :=
  [.resetSensorDelayCounters deviceId]

/-- The maximum, the minimum and the average of a scan. -/
abbrev EnergyScan := Int8 × Int8 × Int8

/-- A scan of a channel has no result if the radio does not answer. -/
def scanChannel (scan : UInt8 → Option EnergyScan) (channelNum : UInt8) : List Access :=
  .isChannelCollectingTurnedOn ::
    ((scan channelNum).map fun result => Access.storeScan ⟨channelNum, result.1, result.2.1, result.2.2⟩).toList

/-- These are the channels from `MIN_ZIGBEE_CHANNEL` to `MAX_ZIGBEE_CHANNEL`. -/
def channels : List UInt8 := (List.range' 11 15).map UInt8.ofNat

def channelEnergyDataCollectingCallback (scan : UInt8 → Option EnergyScan) : List Access :=
  channels.flatMap (scanChannel scan)

/-- The threads call these functions. The properties are read before the mutex is taken. -/
inductive Function : List Access → Prop where
  | addAttributeReportEvent (deviceClass : Option String) (time : ℤ) (report : ReceivedAttributeReport) :
      Function (zigbeeEventTrackerAddAttributeReportEvent deviceClass time report)
  | addRejoinEvent (time : ℤ) (eui64 : UInt64) (wasSecure : Bool) :
      Function (zigbeeEventTrackerAddRejoinEvent time eui64 wasSecure)
  | addClusterCommandEvent (deviceClass : Option String) (time : ℤ) (command : ReceivedClusterCommand) :
      Function (zigbeeEventTrackerAddClusterCommandEvent deviceClass time command)
  | addMagneticStrengthReport (deviceUuid valueString : String) :
      Function (zigbeeEventTrackerAddMagneticStrengthReport deviceUuid valueString)
  | addApsAckFailureEvent (eui64 : UInt64) : Function (zigbeeEventTrackerAddApsAckFailureEvent eui64)
  | addUpgradeSuccessEvent : Function zigbeeEventTrackerAddDeviceFirmwareUpgradeSuccessEvent
  | addUpgradeFailureEvent (time : ℤ) (eui64 : UInt64) :
      Function (zigbeeEventTrackerAddDeviceFirmwareUpgradeFailureEvent time eui64)
  | collectAttributeReports (deviceId : String) :
      Function (zigbeeEventTrackerCollectAttributeReportEventsForDevice deviceId)
  | collectRejoins (deviceId : String) : Function (zigbeeEventTrackerCollectRejoinEventsForDevice deviceId)
  | collectCheckIns (deviceId : String) : Function (zigbeeEventTrackerCollectCheckInEventsForDevice deviceId)
  | collectMagneticStrength (deviceId : String) :
      Function (zigbeeEventTrackerCollectMagneticStrengthReportsForDevice deviceId)
  | collectEventCounters (deviceId : String) : Function (zigbeeEventTrackerCollectEventCountersForDevice deviceId)
  | collectUpgradeSuccesses : Function zigbeeEventTrackerCollectFirmwareUpgradeSuccessEvents
  | collectUpgradeFailures : Function zigbeeEventTrackerCollectFirmwareUpgradeFailureEvents
  | collectChannelEnergyScans : Function zigbeeEventTrackerCollectChannelEnergyScanStats
  | resetSensorDelayCounters (deviceId : String) :
      Function (zigbeeEventTrackerResetSensorDelayCountersForDevice deviceId)
  | channelEnergyDataCollecting (scan : UInt8 → Option EnergyScan) :
      Function (channelEnergyDataCollectingCallback scan)
  | initEventTracker (reports channels : Bool) : Function [.initEventTracker reports channels]
  | shutDownEventTracker : Function [.turnChannelCollecting false, .shutDownEventTracker]
  | turnReportCollecting (on : Bool) : Function [.turnReportCollecting on]
  | turnChannelCollecting (on : Bool) : Function (.turnChannelCollecting on ::
      if on then [] else [.turnChannelCollecting false])

end Functions

section Threads

/-- The record of the accesses is read by no function. -/
structure Shared where
  tracker : Tracker
  log : List (Access × Answer)

def Shared.initial : Shared := ⟨.initial, []⟩

/-- A check that fails ends the function. -/
def continues : Access × Answer → Bool
  | (.isReportCollectingTurnedOn, answer) => answer = .done true
  | (.isChannelCollectingTurnedOn, answer) => answer = .done true
  | _ => true

/-- A thread holds the mutex for the next part of its function. -/
def move (shared : Shared) (thread : List Access) (_ : Unit) : Option (Shared × List Access) :=
  match thread with
  | [] => none
  | access :: rest =>
      let (answer, tracker) := shared.tracker.perform access
      some (⟨tracker, shared.log ++ [(access, answer)]⟩, if continues (access, answer) then rest else [])

def run (threads : List (List Access)) (schedule : List (Nat × Unit)) : Option (Configuration Shared (List Access)) :=
  Threads.run move ⟨.initial, threads⟩ schedule

end Threads
end Barton.EventTracker
