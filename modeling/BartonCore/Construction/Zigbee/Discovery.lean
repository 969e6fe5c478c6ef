/-
This file contains the discovery of devices by the Zigbee subsystem. Starts and stops, arriving messages, lookups of
premature cluster commands and the handling of discovered devices run on different threads. Each critical section and
each call is one move of its thread.
-/

import BartonCore.Construction.Zigbee.Events
import BartonCore.Construction.Zigbee.Joining

namespace Barton.ZigbeeDiscovery
open ZigbeeEvents

section Commands

/-- The pointer `prematureClusterCommands` is NULL, or it points to a map or to a destroyed map. -/
inductive CommandMap where
  | null
  | live (commands : UInt64 → Option (List ReceivedClusterCommand))
  | destroyed

/-- This is a map that `hashMapCreate` returns. -/
def CommandMap.create : CommandMap := .live fun _ => none

/-- A lookup in a NULL map finds nothing. -/
def CommandMap.get (map : CommandMap) (eui64 : UInt64) : Option (List ReceivedClusterCommand) :=
  match map with
  | .live commands => commands eui64
  | _ => none

def CommandMap.set (map : CommandMap) (eui64 : UInt64) (list : Option (List ReceivedClusterCommand)) : CommandMap :=
  match map with
  | .live commands => .live (Function.update commands eui64 list)
  | other => other

/-- This is the section of `zigbeeSubsystemAddPrematureClusterCommand`. -/
def addPrematureClusterCommand (map : CommandMap) (command : ReceivedClusterCommand) : CommandMap :=
  let created : CommandMap := match map with
    | .null => .create
    | other => other
  created.set command.eui64 (some ((created.get command.eui64).getD [] ++ [command]))

/-- This is the section of `zigbeeSubsystemGetPrematureClusterCommands`. -/
def getPrematureClusterCommands (map : CommandMap) (eui64 : UInt64) :
    Option (List ReceivedClusterCommand) × CommandMap :=
  (map.get eui64, map.set eui64 none)

/-- This is the section of `zigbeeSubsystemDestroyPrematureClusterCommands`. -/
def destroyPrematureClusterCommands (map : CommandMap) (eui64 : UInt64) : CommandMap :=
  match map.get eui64 with
  | none => map
  | some _ => map.set eui64 none

/-- This is one look of `zigbeeSubsystemGetPrematureClusterCommand`. -/
def findPrematureClusterCommand (map : CommandMap) (eui64 : UInt64) (commandId : UInt8) :
    Option ReceivedClusterCommand :=
  (map.get eui64).bind fun list => list.find? fun command => command.commandId = commandId

/-- This is the section of `zigbeeSubsystemRemovePrematureClusterCommand`. A list that becomes empty is deleted. -/
def removePrematureClusterCommand (map : CommandMap) (eui64 : UInt64) (commandId : UInt8) : CommandMap :=
  match map.get eui64 with
  | none => map
  | some list =>
      let rest := list.filter fun command => command.commandId ≠ commandId
      map.set eui64 (if rest = [] then none else some rest)

/-- A section in which commands are saved, looked up or removed, or in which a discovery starts at a count of zero. -/
inductive Section where
  | discoveryStarted
  | saved (command : ReceivedClusterCommand)
  | taken (eui64 : UInt64) (answer : Option (List ReceivedClusterCommand))
  | destroyed (eui64 : UInt64)
  | looked (eui64 : UInt64) (commandId : UInt8) (answer : Option ReceivedClusterCommand)
  | removed (eui64 : UInt64) (commandId : UInt8)
  deriving DecidableEq

end Commands

/-- The state of the subsystem with the permission of the radio, the devices that the database knows, the sections and
the requests so far, and whether a destroyed map was used. The maps `devicesInDiscovery` and `unclaimedDevices` are
NULL when they are empty. -/
structure Shared where
  discoveringRefCount : ℤ
  joinEnabled : Bool
  eventHandler : ZigbeeJoining.EventHandler
  prematureClusterCommands : CommandMap
  devicesInDiscovery : Finset UInt64
  unclaimedDevices : List UInt64
  knownDevices : Finset UInt64
  leaveRequests : List UInt64
  sections : List Section
  destroyedUsed : Bool

/-- What the radio, the device service and the drivers answer. -/
structure Answers where
  enabled : Bool
  readyForPairing : Bool
  rejectEnabled : Bool
  deviceFound : Bool
  repairing : Bool
  claimed : Bool
  failedToPair : Bool
  deriving DecidableEq

/-- The points of `zigbeeSubsystemStartDiscoveringDevices`. -/
inductive StartPoint where
  | created
  | discoveryRunning
  | createCommands
  | enableJoin
  | rollBack
  | destroyProcessed
  | clearAnnounced
  | destroyCommands
  deriving DecidableEq

/-- The points of `zigbeeSubsystemStopDiscoveringDevices`. -/
inductive StopPoint where
  | created
  | disableJoin
  | requestLeave
  | destroyProcessed
  | clearAnnounced
  deriving DecidableEq

/-- The points of `zigbeeSubsystemAttributeReportReceived` and `zigbeeSubsystemClusterCommandReceived`. -/
inductive MessagePoint where
  | created
  | properties (discovering : Bool)
  | devicesInDiscovery
  | isDeviceKnown
  | requestLeave
  | accepted (discovering : Bool)
  deriving DecidableEq

/-- The points of `zigbeeSubsystemDeviceDiscovered`. -/
inductive DiscoveredPoint where
  | created
  | claim
  | remove (claimed : Bool)
  | noteUnclaimed
  deriving DecidableEq

inductive Thread where
  | start (point : StartPoint)
  | startReturned (succeeded : Bool)
  | stop (point : StopPoint)
  | stopReturned
  | message (callback : Callback) (point : MessagePoint)
  | addCommand (command : ReceivedClusterCommand)
  | getCommands (eui64 : UInt64)
  | destroyCommands (eui64 : UInt64)
  | getCommand (eui64 : UInt64) (commandId : UInt8) (timeoutSeconds : Nat)
  | removeCommand (eui64 : UInt64) (commandId : UInt8)
  | deviceDiscovered (eui64 : UInt64) (point : DiscoveredPoint)
  | returned
  deriving DecidableEq

section Moves
variable (shared : Shared)

/-- A section uses the map. What follows the use of a destroyed map is undefined, and only the use is recorded. -/
def Shared.useCommands (map : CommandMap) (entry : Section) : Shared :=
  match shared.prematureClusterCommands with
  | .destroyed => { shared with destroyedUsed := true }
  | _ => { shared with prematureClusterCommands := map, sections := shared.sections ++ [entry] }

/-- A call of `hashMapDestroy` leaves a NULL pointer alone. -/
def Shared.destroyCommands (pointer : CommandMap) : Shared :=
  match shared.prematureClusterCommands with
  | .null => shared
  | .live _ => { shared with prematureClusterCommands := pointer }
  | .destroyed => { shared with prematureClusterCommands := pointer, destroyedUsed := true }

def moveStart (point : StartPoint) (answers : Answers) : Shared × Thread :=
  match point with
  | .created =>
      let counted := { shared with discoveringRefCount := shared.discoveringRefCount + 1 }
      if shared.discoveringRefCount = 0 then
        ({ counted.destroyCommands .destroyed with sections := shared.sections ++ [.discoveryStarted] },
          .start .discoveryRunning)
      else (counted, .startReturned true)
  | .discoveryRunning =>
      ({ shared with eventHandler := ZigbeeJoining.startRunning shared.eventHandler }, .start .createCommands)
  | .createCommands => ({ shared with prematureClusterCommands := .create }, .start .enableJoin)
  | .enableJoin =>
      if answers.enabled then ({ shared with joinEnabled := true }, .startReturned true)
      else (shared, .start .rollBack)
  | .rollBack =>
      ({ shared with discoveringRefCount := shared.discoveringRefCount - 1 }, .start .destroyProcessed)
  | .destroyProcessed =>
      ({ shared with eventHandler := ZigbeeJoining.destroyProcessed shared.eventHandler }, .start .clearAnnounced)
  | .clearAnnounced =>
      ({ shared with eventHandler := ZigbeeJoining.clearAnnounced shared.eventHandler }, .start .destroyCommands)
  | .destroyCommands => (shared.destroyCommands .null, .startReturned false)

def moveStop (point : StopPoint) : Shared × Thread :=
  match point with
  | .created =>
      let counted := { shared with discoveringRefCount := shared.discoveringRefCount - 1 }
      (counted, if counted.discoveringRefCount = 0 then .stop .disableJoin else .stopReturned)
  | .disableJoin => ({ shared with joinEnabled := false }, .stop .requestLeave)
  | .requestLeave =>
      ({ shared with leaveRequests := shared.leaveRequests ++ shared.unclaimedDevices, unclaimedDevices := [] },
        .stop .destroyProcessed)
  | .destroyProcessed =>
      ({ shared with eventHandler := ZigbeeJoining.destroyProcessed shared.eventHandler }, .stop .clearAnnounced)
  | .clearAnnounced =>
      ({ shared with eventHandler := ZigbeeJoining.clearAnnounced shared.eventHandler }, .stopReturned)

/-- A message is passed on to the drivers. A command of a device that no driver has is saved during a discovery. -/
def passOn (callback : Callback) (discovering : Bool) (answers : Answers) : Thread :=
  match callback with
  | .attributeReportReceived _ => .returned
  | .clusterCommandReceived command =>
      if (!answers.deviceFound || answers.repairing) && discovering then .addCommand command else .returned

/-- The points up to `isDeviceKnown` are the checks of `deviceShouldBeRejected`. -/
def moveMessage (callback : Callback) (point : MessagePoint) (answers : Answers) : Shared × Thread :=
  match point with
  | .created => (shared, .message callback (.properties (0 < shared.discoveringRefCount)))
  | .properties discovering =>
      (shared, .message callback
        (if !answers.readyForPairing || !answers.rejectEnabled || discovering then .accepted discovering
        else .devicesInDiscovery))
  | .devicesInDiscovery =>
      (shared, .message callback
        (if callback.eui64 ∈ shared.devicesInDiscovery then .accepted false else .isDeviceKnown))
  | .isDeviceKnown =>
      (shared, .message callback
        (if callback.eui64 ∈ shared.knownDevices then .accepted false else .requestLeave))
  | .requestLeave => ({ shared with leaveRequests := shared.leaveRequests ++ [callback.eui64] }, .returned)
  | .accepted discovering => (shared, passOn callback discovering answers)

/-- A successful claim has made the device known before it returns. -/
def moveDiscovered (eui64 : UInt64) (point : DiscoveredPoint) (answers : Answers) : Shared × Thread :=
  match point with
  | .created =>
      ({ shared with devicesInDiscovery := insert eui64 shared.devicesInDiscovery }, .deviceDiscovered eui64 .claim)
  | .claim =>
      ({ shared with
        knownDevices := if answers.claimed then insert eui64 shared.knownDevices else shared.knownDevices },
        .deviceDiscovered eui64 (.remove answers.claimed))
  | .remove claimed =>
      ({ shared with devicesInDiscovery := shared.devicesInDiscovery.erase eui64 },
        if claimed then .returned else .deviceDiscovered eui64 .noteUnclaimed)
  | .noteUnclaimed =>
      (if answers.failedToPair then shared
      else { shared with unclaimedDevices := shared.unclaimedDevices.insert eui64 }, .returned)

/-- The looks of `zigbeeSubsystemGetPrematureClusterCommand` release the mutex between them. -/
def move (thread : Thread) (answers : Answers) : Option (Shared × Thread) :=
  match thread with
  | .start point => some (moveStart shared point answers)
  | .stop point => some (moveStop shared point)
  | .message callback point => some (moveMessage shared callback point answers)
  | .deviceDiscovered eui64 point => some (moveDiscovered shared eui64 point answers)
  | .addCommand command =>
      some (shared.useCommands (addPrematureClusterCommand shared.prematureClusterCommands command)
        (.saved command), .returned)
  | .getCommands eui64 =>
      let got := getPrematureClusterCommands shared.prematureClusterCommands eui64
      some (shared.useCommands got.2 (.taken eui64 got.1), .returned)
  | .destroyCommands eui64 =>
      some (shared.useCommands (destroyPrematureClusterCommands shared.prematureClusterCommands eui64)
        (.destroyed eui64), .returned)
  | .getCommand _ _ 0 => some (shared, .returned)
  | .getCommand eui64 commandId (timeoutSeconds + 1) =>
      let found := findPrematureClusterCommand shared.prematureClusterCommands eui64 commandId
      some (shared.useCommands shared.prematureClusterCommands (.looked eui64 commandId found),
        if found.isSome then .returned else .getCommand eui64 commandId timeoutSeconds)
  | .removeCommand eui64 commandId =>
      some (shared.useCommands (removePrematureClusterCommand shared.prematureClusterCommands eui64 commandId)
        (.removed eui64 commandId), .returned)
  | .startReturned _ => none
  | .stopReturned => none
  | .returned => none

end Moves

/-- No call has begun. -/
def initial (eventHandler : ZigbeeJoining.EventHandler) (knownDevices : Finset UInt64) : Shared where
  discoveringRefCount := 0
  joinEnabled := false
  eventHandler := eventHandler
  prematureClusterCommands := .null
  devicesInDiscovery := ∅
  unclaimedDevices := []
  knownDevices := knownDevices
  leaveRequests := []
  sections := []
  destroyedUsed := false

/-- The calls of one run are on threads of their own. -/
inductive Call where
  | start
  | stop
  | message (callback : Callback)
  | getCommands (eui64 : UInt64)
  | destroyCommands (eui64 : UInt64)
  | getCommand (eui64 : UInt64) (commandId : UInt8) (timeoutSeconds : Nat)
  | removeCommand (eui64 : UInt64) (commandId : UInt8)
  | deviceDiscovered (eui64 : UInt64)
  deriving DecidableEq

def Call.thread : Call → Thread
  | .start => .start .created
  | .stop => .stop .created
  | .message callback => .message callback .created
  | .getCommands eui64 => .getCommands eui64
  | .destroyCommands eui64 => .destroyCommands eui64
  | .getCommand eui64 commandId timeoutSeconds => .getCommand eui64 commandId timeoutSeconds
  | .removeCommand eui64 commandId => .removeCommand eui64 commandId
  | .deviceDiscovered eui64 => .deviceDiscovered eui64 .created

def calls (eventHandler : ZigbeeJoining.EventHandler) (knownDevices : Finset UInt64) (threads : List Call) :
    Threads.Configuration Shared Thread :=
  ⟨initial eventHandler knownDevices, threads.map Call.thread⟩

/-- A run interleaves the moves of the calls. -/
def run (eventHandler : ZigbeeJoining.EventHandler) (knownDevices : Finset UInt64) (threads : List Call)
    (schedule : List (Nat × Answers)) : Option (Threads.Configuration Shared Thread) :=
  Threads.run move (calls eventHandler knownDevices threads) schedule

end Barton.ZigbeeDiscovery
