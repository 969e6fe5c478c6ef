/-
This file contains the results of driver scripts and the effects that the driver derives from them.
-/

import Mathlib.Tactic

namespace Barton.Sbmd

/-- A handler is a script function, and a handle is any other script value. -/
abbrev Handler := Nat

/-- A missing callback is an empty `SafeJSValue`. -/
structure Callbacks where
  onResponse : Option Handler
  onError : Option Handler
  context : Option Nat
  deriving DecidableEq

/-- These fields are common to `sendCommand` and `requestCommand`. -/
structure CommandData where
  clusterId : UInt32
  commandId : UInt32
  tlvBase64 : String
  endpointId : Option UInt32
  timedInvokeTimeoutMs : Option UInt16
  deriving DecidableEq

/-- These fields name an attribute. -/
structure AttributeData where
  clusterId : UInt32
  attributeId : UInt32
  endpointId : Option UInt32
  deriving DecidableEq

/-- This is `ResultTerminal`. -/
inductive Terminal where
  | success (value : String)
  | error (message : String)
  | sendCommand (command : CommandData) (successValue : String)
  | writeAttribute (path : AttributeData) (tlvBase64 : String)
  | requestCommand (command : CommandData) (responseCommandId : UInt32) (callbacks : Callbacks)
      (timeoutMs : Option UInt32)
  | readAttribute (path : AttributeData) (callbacks : Callbacks) (timeoutMs : Option UInt32)
  deriving DecidableEq

/-- The device and the SDK give these answers while the driver executes one terminal. -/
structure Device where
  /-- `pending.device.lock()` -/
  alive : Bool
  /-- `pending.sessionHandle.Get().HasValue()` -/
  sessionValid : Bool
  resolveEndpoint : UInt32 → Option UInt32 → Option UInt16
  decodeBase64Tlv : String → Option (List UInt8)
  /-- the command steps before `SendCommandRequest` -/
  prepareCommand : UInt16 → CommandData → List UInt8 → Bool
  sendCommandRequest : Bool
  /-- the write steps before `SendWriteRequest` -/
  prepareWrite : UInt16 → AttributeData → List UInt8 → Bool
  sendWriteRequest : Bool
  getCachedAttributeData : UInt16 → UInt32 → UInt32 → Option (List UInt8)
  encodeTlvElementToBase64 : List UInt8 → Nat → Option String

/-- A handler invocation ends with a parsed result or without one. The device answers while the
driver executes the result. -/
structure Reply where
  result : Option Terminal
  device : Device

/-- The invocations of one step get these replies in order. -/
abbrev Script := Nat → Reply

/-- A handler gets these arguments. -/
inductive Arguments where
  | resource (opType : String)
  | commandResponse (clusterId commandId : UInt32) (tlvBase64 : String) (context : Option Nat)
  | attributeReadResponse (clusterId attributeId : UInt32) (tlvBase64 : String) (context : Option Nat)
  | error (type message : String) (code : ℤ) (context : Option Nat)
  deriving DecidableEq

/-- A resource operation has at most one slot for its result. -/
structure Operation where
  /-- the `ConnectAndExecute` call that owns the promises and the slots -/
  call : Nat
  readValue : Bool
  executeResponse : Bool
  deriving DecidableEq

/-- This is `PendingOperation::MAX_DEFERRAL_DEPTH`. -/
def maxDeferralDepth : Nat := 10

/-- This is `PendingOperation::DEFAULT_OVERALL_TIMEOUT_MS`. -/
def defaultOverallTimeoutMs : UInt32 := 30000

/-- This is `PendingOperation`. -/
structure PendingOperation where
  id : Nat
  parkingPromise : Nat
  operation : Operation
  onResponse : Option Handler
  onError : Option Handler
  context : Option Nat
  overallDeadline : Nat
  deferralDepth : Nat
  deriving DecidableEq

/-- A `requestCommand` registers this data before it sends its command. -/
structure Request where
  operation : Operation
  callbacks : Callbacks
  overallDeadline : Nat
  /-- the result of `SendCommandWithCallbacks` -/
  sent : Bool
  deriving DecidableEq

/-- The slot of an operation. -/
inductive Slot where
  | readValue
  | executeResponse
  deriving DecidableEq

/-- The Matter thread has these effects while it handles one event. -/
inductive Action where
  | invoke (handler : Handler) (arguments : Arguments)
  | writeSlot (slot : Slot) (text : String)
  /-- `FailOperation(promises)` -/
  | failOperation
  /-- a promise that is already true -/
  | readyPromise
  /-- `SendCommandFromTlv` with the promises of the call, and whether the request was sent -/
  | sendCommand (sent : Bool)
  /-- `WriteAttributeFromTlv` with the promises of the call, and whether the request was sent -/
  | sendWrite (sent : Bool)
  /-- `SendCommandFromTlv` with a temporary list of promises -/
  | chainedCommand
  /-- `WriteAttributeFromTlv` with a temporary list of promises -/
  | chainedWrite
  | park (request : Request)
  /-- the updated operation, whose next command was sent -/
  | rearm (pending : PendingOperation)
  /-- `CompletePendingOperation(id, success)` -/
  | complete (id : Nat) (success : Bool)
  deriving DecidableEq

end Barton.Sbmd
