/-
This file contains the handling of attribute reports and cluster commands. Each datagram has its own detached
thread.
-/

import BartonCore.ToMathlib.Threads

namespace Barton.ZigbeeEvents

/-- A complete `clusterCommandReceived` event. The numbers are the `valueint` fields of the JSON, the `eui64` is
valid and the buffer is decoded. -/
structure ClusterCommandEvent where
  eui64 : UInt64
  sourceEndpoint : Int32
  profileId : Int32
  direction : Int32
  clusterId : Int32
  commandId : Int32
  mfgSpecific : Int32
  mfgCode : Int32
  seqNum : Int32
  apsSeqNum : Int32
  rssi : Int32
  lqi : Int32
  encodedBuf : List UInt8
  deriving DecidableEq

/-- A complete `attributeReport` event. The `mfgCode` is optional. -/
structure AttributeReportEvent where
  eui64 : UInt64
  sourceEndpoint : Int32
  clusterId : Int32
  encodedBuf : List UInt8
  rssi : Int32
  lqi : Int32
  mfgCode : Option Int32
  deriving DecidableEq

inductive Event where
  | clusterCommandReceived (event : ClusterCommandEvent)
  | attributeReport (event : AttributeReportEvent)
  deriving DecidableEq

structure ReceivedClusterCommand where
  eui64 : UInt64
  sourceEndpoint : UInt8
  profileId : UInt16
  fromServer : Bool
  clusterId : UInt16
  commandId : UInt8
  mfgSpecific : Bool
  mfgCode : UInt16
  seqNum : UInt8
  apsSeqNum : UInt8
  rssi : Int8
  lqi : UInt8
  commandData : List UInt8
  deriving DecidableEq

structure ReceivedAttributeReport where
  eui64 : UInt64
  sourceEndpoint : UInt8
  clusterId : UInt16
  reportData : List UInt8
  mfgId : UInt16
  rssi : Int8
  lqi : UInt8
  deriving DecidableEq

/-- A call of one of the registered callbacks. -/
inductive Callback where
  | clusterCommandReceived (command : ReceivedClusterCommand)
  | attributeReportReceived (report : ReceivedAttributeReport)
  deriving DecidableEq

section

def toUInt8 (valueint : Int32) : UInt8 := valueint.toUInt32.toUInt8

def toUInt16 (valueint : Int32) : UInt16 := valueint.toUInt32.toUInt16

/-- The command that `handleClusterCommandReceived` passes on. -/
def ClusterCommandEvent.command (event : ClusterCommandEvent) : ReceivedClusterCommand where
  eui64 := event.eui64
  sourceEndpoint := toUInt8 event.sourceEndpoint
  profileId := toUInt16 event.profileId
  fromServer := event.direction = 1
  clusterId := toUInt16 event.clusterId
  commandId := toUInt8 event.commandId
  mfgSpecific := toUInt8 event.mfgSpecific ≠ 0
  mfgCode := toUInt16 event.mfgCode
  seqNum := toUInt8 event.seqNum
  apsSeqNum := toUInt8 event.apsSeqNum
  rssi := event.rssi.toInt8
  lqi := toUInt8 event.lqi
  commandData := event.encodedBuf

/-- The report that `handleAttributeReportReceived` passes on. -/
def AttributeReportEvent.report (event : AttributeReportEvent) : ReceivedAttributeReport where
  eui64 := event.eui64
  sourceEndpoint := toUInt8 event.sourceEndpoint
  clusterId := toUInt16 event.clusterId
  reportData := event.encodedBuf
  mfgId := (event.mfgCode.map toUInt16).getD 0
  rssi := event.rssi.toInt8
  lqi := toUInt8 event.lqi

def Event.eui64 : Event → UInt64
  | .clusterCommandReceived event => event.eui64
  | .attributeReport event => event.eui64

def Callback.eui64 : Callback → UInt64
  | .clusterCommandReceived command => command.eui64
  | .attributeReportReceived report => report.eui64

/-- The callback of an event that is not dropped. -/
def Event.callback : Event → Callback
  | .clusterCommandReceived event => .clusterCommandReceived event.command
  | .attributeReport event => .attributeReportReceived event.report

end

/-- The thread of a datagram is at one of these points. -/
inductive Handler where
  /-- the thread is created -/
  | created (event : Event)
  /-- the event is to be passed to its callback -/
  | invoking (event : Event)
  | returned (event : Event)
  deriving DecidableEq

structure Shared where
  lastApsSeqNums : UInt64 → Option UInt8
  /-- every call of a callback, in order -/
  delivered : List Callback

def Shared.initial : Shared := ⟨fun _ => none, []⟩

/-- The number is stored when it differs from the last one of the device. -/
def isDuplicateApsSequenceNumber (shared : Shared) (eui64 : UInt64) (apsSeqNum : UInt8) : Bool × Shared :=
  if shared.lastApsSeqNums eui64 = some apsSeqNum then (true, shared)
  else (false, { shared with
    lastApsSeqNums := Function.update shared.lastApsSeqNums eui64 (some apsSeqNum) })

/-- The section of `lastApsSeqNumsMtx` is one move, and the call of the callback is another. -/
def move (shared : Shared) (handler : Handler) (_ : Unit) : Option (Shared × Handler) :=
  match handler with
  | .created (.clusterCommandReceived event) =>
      let checked := isDuplicateApsSequenceNumber shared event.eui64 (toUInt8 event.apsSeqNum)
      some (checked.2, if checked.1 then .returned (.clusterCommandReceived event)
        else .invoking (.clusterCommandReceived event))
  | .created (.attributeReport event) => some (shared, .invoking (.attributeReport event))
  | .invoking event =>
      some ({ shared with delivered := shared.delivered ++ [event.callback] }, .returned event)
  | .returned _ => none

/-- A run interleaves the threads of the datagrams, which are listed in the order of their arrival. -/
def run (events : List Event) (schedule : List Nat) : Option (Threads.Configuration Shared Handler) :=
  Threads.run move ⟨Shared.initial, events.map .created⟩ (schedule.map fun thread => (thread, ()))

end Barton.ZigbeeEvents
