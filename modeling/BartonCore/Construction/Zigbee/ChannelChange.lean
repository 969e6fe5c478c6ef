/-
This file contains the change of the Zigbee channel. A call that holds the channel change mutex moves through its steps,
and a restart of the service can come between any two of them.
-/

import Mathlib.Tactic
import BartonCore.ToMathlib.Runs

namespace Barton.ChannelChange

inductive ChannelChangeResponseCode where
  | success
  | failed
  | notAllowed
  | invalidChannel
  | inProgress
  | unableToCalculate
  deriving DecidableEq

structure ChannelChangeResponse where
  channelNumber : UInt8
  responseCode : ChannelChangeResponseCode
  deriving DecidableEq

section Calculation

structure EnergyScanResult where
  channel : UInt8
  score : BitVec 32

/-- The best score is a signed byte, which is widened for the comparison. -/
def calculateBestChannel (scanResults : Option (List EnergyScanResult)) : UInt8 :=
  match scanResults with
  | none => 0
  | some scanResults =>
      (scanResults.foldl (fun (best : UInt8 × BitVec 8) scanResult =>
        if best.2.signExtend 32 < scanResult.score then (scanResult.channel, scanResult.score.setWidth 8)
        else best) (0, 0)).1

end Calculation

section Watchdog

structure ChannelChangeDeviceWatchdogArg where
  deviceIdsPreviouslyInCommFail : List String
  previousChannel : UInt8
  targetedChannel : UInt8
  maxRejoinTimeoutMillis : UInt64
  /-- This history variable is the number of the change that the watchdog is for. -/
  change : Nat
  deriving DecidableEq

structure ZigbeeDevice where
  uuid : String
  dateLastContacted : UInt64

def isTimedOut (now dateOfLastContactMillis maxRejoinTimeoutMillis : UInt64) : Bool :=
  maxRejoinTimeoutMillis < now - dateOfLastContactMillis

/-- A device that was not in communication failure before the change has not joined back in time. -/
def needsToFallBack (myArg : ChannelChangeDeviceWatchdogArg) (now : UInt64) (allDevices : List ZigbeeDevice) : Bool :=
  allDevices.any fun device => !myArg.deviceIdsPreviouslyInCommFail.contains device.uuid &&
    isTimedOut now device.dateLastContacted myArg.maxRejoinTimeoutMillis

end Watchdog

/-- The step that comes next in the call that holds the channel change mutex. -/
inductive Holder where
  | free
  /-- The previous channel is recorded, and the radio is asked to change. -/
  | changing (previous channel : UInt8)
  /-- The radio has accepted, and the watchdog is started. -/
  | accepted (previous channel : UInt8)
  /-- The watchdog asks the radio to change back. -/
  | reverting (myArg : ChannelChangeDeviceWatchdogArg) (previousChannel : UInt8)
  /-- The watchdog empties the property. -/
  | clearing (myArg : ChannelChangeDeviceWatchdogArg) (fallsBack : Bool) (previousChannel : UInt8)
  /-- The watchdog ends the change in this process. -/
  | ending (myArg : ChannelChangeDeviceWatchdogArg) (fallsBack : Bool) (previousChannel : UInt8)
  deriving DecidableEq

/-- The subsystem looks for an unfinished change when it starts. -/
inductive Startup where
  | initializing
  | resuming (previousChannel : UInt8)
  | started
  deriving DecidableEq

/-- A change that the radio accepted has the channel in use just before. -/
structure Change where
  before : UInt8
  channel : UInt8
  deriving DecidableEq

/-- The property and the channel of the radio outlive a restart. The last two fields are history variables: the changes
that the radio accepted, and the numbers of those that wait for their watchdog. -/
structure State where
  previousChannelProperty : String
  radioChannel : UInt8
  isChannelChangeInProgress : Bool
  tasks : List ChannelChangeDeviceWatchdogArg
  holder : Holder
  startup : Startup
  changes : List Change
  waiting : List Nat
  deriving DecidableEq

/-- The calls return a response, send a command to the radio to change back, or send an event. -/
inductive Output where
  | silent
  | response (response : ChannelChangeResponse)
  | reverted (change : Nat) (channel : UInt8)
  | channelChanged (success : Bool) (currentChannel targetedChannel : UInt8)
  deriving DecidableEq

/-- A request with what the properties, the panel and the radio answer. -/
structure Request where
  channel : UInt8
  dryRun : Bool
  enabled : Bool
  panelDenies : Bool
  scanResults : Option (List EnergyScanResult)
  statusRead : Bool

/-- The network keeps its channel when a change has the channel 0. -/
def networkChange (channel radioChannel : UInt8) : UInt8 := if channel = 0 then radioChannel else channel

section Steps
variable (stringToUint8 : String → Option UInt8)

/-- The property names a channel unless it is empty. -/
def recordedChannel (property : String) : Option UInt8 := if property = "" then none else stringToUint8 property

/-- This is `zigbeeSubsystemChangeChannel` until it returns or records the previous channel. -/
def changeChannel (request : Request) (state : State) : State × Output :=
  let respond (channelNumber : UInt8) (responseCode : ChannelChangeResponseCode) :=
    (state, Output.response ⟨channelNumber, responseCode⟩)
  if ¬request.enabled then respond 0 .notAllowed
  else if request.panelDenies then respond 0 .notAllowed
  else if state.isChannelChangeInProgress then respond 0 .inProgress
  else if request.channel ≠ 0 ∧ (request.channel < 11 ∨ 26 < request.channel) then
    respond request.channel .invalidChannel
  else
    let channel := if request.channel = 0 then calculateBestChannel request.scanResults else request.channel
    if channel = 0 then respond channel .unableToCalculate
    else if ¬request.statusRead then respond channel .failed
    else if state.radioChannel = channel then respond channel .success
    else if request.dryRun then respond channel .success
    else ({ state with
      previousChannelProperty := toString state.radioChannel.toNat
      holder := .changing state.radioChannel channel }, .silent)

/-- The radio answers the command to change. -/
def radioAnswers (accepts : Bool) (state : State) : Option (State × Output) :=
  match state.holder with
  | .changing previous channel =>
      if accepts then some ({ state with
        radioChannel := networkChange channel state.radioChannel
        holder := .accepted previous channel
        changes := state.changes ++ [⟨state.radioChannel, channel⟩]
        waiting := state.waiting ++ [state.changes.length] }, .silent)
      else some ({ state with holder := .free }, .response ⟨channel, .failed⟩)
  | _ => none

def startChannelChangeDeviceWatchdog (deviceIdsInCommFail : List String) (rejoinTimeoutMinutes : UInt32)
    (previousChannel targetedChannel : UInt8) (state : State) : State :=
  { state with tasks := state.tasks ++ [{
    deviceIdsPreviouslyInCommFail := deviceIdsInCommFail
    previousChannel
    targetedChannel
    maxRejoinTimeoutMillis := rejoinTimeoutMinutes.toUInt64 * 60 * 1000
    change := state.changes.length - 1 }] }

/-- The accepted change is in progress and its watchdog is started. -/
def startsWatchdog (deviceIdsInCommFail : List String) (rejoinTimeoutMinutes : UInt32) (state : State) :
    Option (State × Output) :=
  match state.holder with
  | .accepted previous channel =>
      some (startChannelChangeDeviceWatchdog deviceIdsInCommFail rejoinTimeoutMinutes previous channel
        { state with isChannelChangeInProgress := true, holder := .free }, .response ⟨channel, .success⟩)
  | _ => none

/-- A scheduled `channelChangeDeviceWatchdogTask` takes the mutex, looks at the devices and reads the property. -/
def watchdogTask (task : Nat) (now : UInt64) (allDevices : List ZigbeeDevice) (state : State) :
    Option (State × Output) :=
  match state.holder, state.tasks[task]? with
  | .free, some myArg =>
      let state := { state with tasks := state.tasks.eraseIdx task }
      if needsToFallBack myArg now allDevices then
        match recordedChannel stringToUint8 state.previousChannelProperty with
        | some previousChannel => some ({ state with holder := .reverting myArg previousChannel }, .silent)
        | none => some ({ state with holder := .clearing myArg true 0 }, .silent)
      else some ({ state with holder := .clearing myArg false 0 }, .silent)
  | _, _ => none

/-- The radio answers the command to change back. -/
def radioReverts (accepts : Bool) (state : State) : Option (State × Output) :=
  match state.holder with
  | .reverting myArg previousChannel =>
      some ({ state with
        radioChannel := if accepts then networkChange previousChannel state.radioChannel else state.radioChannel
        holder := .clearing myArg true previousChannel }, .reverted myArg.change previousChannel)
  | _ => none

def clearsProperty (state : State) : Option (State × Output) :=
  match state.holder with
  | .clearing myArg fallsBack previousChannel =>
      some ({ state with
        previousChannelProperty := ""
        holder := .ending myArg fallsBack previousChannel
        waiting := state.waiting.erase myArg.change }, .silent)
  | _ => none

def endsChange (state : State) : Option (State × Output) :=
  match state.holder with
  | .ending myArg fallsBack previousChannel =>
      some ({ state with isChannelChangeInProgress := false, holder := .free },
        .channelChanged (!fallsBack) (if fallsBack then previousChannel else myArg.targetedChannel)
          myArg.targetedChannel)
  | _ => none

/-- A restart loses the memory of the process. -/
def restart (state : State) : State :=
  { state with isChannelChangeInProgress := false, tasks := [], holder := .free, startup := .initializing }

/-- This is `restartChannelChangeDeviceWatchdogIfRequired` until it asks the radio. It does not take the mutex. -/
def readsProperty (state : State) : Option (State × Output) :=
  match state.startup with
  | .initializing =>
      match recordedChannel stringToUint8 state.previousChannelProperty with
      | some previousChannel => some ({ state with startup := .resuming previousChannel }, .silent)
      | none => some ({ state with startup := .started }, .silent)
  | _ => none

/-- The watchdog is started again if the status of the radio can be read. -/
def resumes (statusRead : Bool) (deviceIdsInCommFail : List String) (rejoinTimeoutMinutes : UInt32) (state : State) :
    Option (State × Output) :=
  match state.startup with
  | .resuming previousChannel =>
      let state := { state with startup := .started }
      if statusRead then
        some (startChannelChangeDeviceWatchdog deviceIdsInCommFail rejoinTimeoutMinutes previousChannel
          state.radioChannel state, .silent)
      else some (state, .silent)
  | _ => none

inductive Event where
  | request (request : Request)
  | radioAnswers (accepts : Bool)
  | startsWatchdog (deviceIdsInCommFail : List String) (rejoinTimeoutMinutes : UInt32)
  | watchdogTask (task : Nat) (now : UInt64) (allDevices : List ZigbeeDevice)
  | radioReverts (accepts : Bool)
  | clearsProperty
  | endsChange
  | restart
  | readsProperty
  | resumes (statusRead : Bool) (deviceIdsInCommFail : List String) (rejoinTimeoutMinutes : UInt32)

/-- A request waits until the mutex is free. -/
def step (state : State) : Event → Option (State × Output)
  | .request request => if state.holder = .free then some (changeChannel request state) else none
  | .radioAnswers accepts => radioAnswers accepts state
  | .startsWatchdog deviceIdsInCommFail rejoinTimeoutMinutes =>
      startsWatchdog deviceIdsInCommFail rejoinTimeoutMinutes state
  | .watchdogTask task now allDevices => watchdogTask stringToUint8 task now allDevices state
  | .radioReverts accepts => radioReverts accepts state
  | .clearsProperty => clearsProperty state
  | .endsChange => endsChange state
  | .restart => some (restart state, .silent)
  | .readsProperty => readsProperty stringToUint8 state
  | .resumes statusRead deviceIdsInCommFail rejoinTimeoutMinutes =>
      resumes statusRead deviceIdsInCommFail rejoinTimeoutMinutes state

def next (state : State) (event : Event) : Option State := (step stringToUint8 state event).map Prod.fst

end Steps

/-- Before the first change no channel is recorded. -/
def State.first (radioChannel : UInt8) : State where
  previousChannelProperty := ""
  radioChannel
  isChannelChangeInProgress := false
  tasks := []
  holder := .free
  startup := .initializing
  changes := []
  waiting := []

end Barton.ChannelChange
