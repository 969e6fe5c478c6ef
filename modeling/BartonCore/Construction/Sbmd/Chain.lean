/-
This file contains the execution of handler results before and after an operation is parked.
Each function returns its effects in order.
-/

import BartonCore.Construction.Sbmd.Script

namespace Barton.Sbmd

/-- A result that is not empty goes to the response slot, or to the value slot. -/
def storeResult (operation : Operation) (value : String) : List Action :=
  if value = "" then []
  else if operation.executeResponse then [.writeSlot .executeResponse value]
  else if operation.readValue then [.writeSlot .readValue value]
  else []

/-- The response value is set before the command is complete. -/
def storeOptimistically (operation : Operation) (successValue : String) : List Action :=
  if successValue ≠ "" ∧ operation.executeResponse then [.writeSlot .executeResponse successValue] else []

section Unparked
variable (defaultTimeoutMs : Option UInt32) (now : Nat) (operation : Operation)

/-- The `sendCommand` branch of `ExecuteTerminal`. -/
def executeSendCommand (device : Device) (command : CommandData) (successValue : String) : List Action :=
  match device.resolveEndpoint command.clusterId command.endpointId with
  | none => [.failOperation]
  | some endpoint =>
      match device.decodeBase64Tlv command.tlvBase64 with
      | none => [.failOperation]
      | some tlv =>
          if ¬device.prepareCommand endpoint command tlv then [.failOperation]
          else if ¬device.sendCommandRequest then [.sendCommand false, .failOperation]
          else .sendCommand true :: storeOptimistically operation successValue

/-- The `writeAttribute` branch of `ExecuteTerminal`. -/
def executeWriteAttribute (device : Device) (path : AttributeData) (tlvBase64 : String) :
    List Action :=
  match device.resolveEndpoint path.clusterId path.endpointId with
  | none => [.failOperation]
  | some endpoint =>
      if tlvBase64 = "" then [.failOperation]
      else
        match device.decodeBase64Tlv tlvBase64 with
        | none => [.failOperation]
        | some tlv =>
            if ¬device.prepareWrite endpoint path tlv then [.failOperation]
            else if ¬device.sendWriteRequest then [.sendWrite false, .failOperation]
            else [.sendWrite true]

/-- The timeout of the terminal comes before the timeout of the driver and the default. -/
def overallDeadline (timeoutMs : Option UInt32) : Nat :=
  now + (timeoutMs.getD (defaultTimeoutMs.getD defaultOverallTimeoutMs)).toNat

def executeRequestCommand (device : Device) (command : CommandData) (callbacks : Callbacks)
    (timeoutMs : Option UInt32) : List Action :=
  match device.resolveEndpoint command.clusterId command.endpointId with
  | none => [.failOperation]
  | some endpoint =>
      match device.decodeBase64Tlv command.tlvBase64 with
      | none => [.failOperation]
      | some tlv =>
          [.park {
            operation := operation
            callbacks := callbacks
            overallDeadline := overallDeadline defaultTimeoutMs now timeoutMs
            sent := device.prepareCommand endpoint command tlv && device.sendCommandRequest }]

/-- A cached read selects a callback and its arguments. The result `none` fails the operation. -/
def cachedRead (device : Device) (path : AttributeData) (endpoint : UInt16) (callbacks : Callbacks) :
    Option (Handler × Arguments) :=
  match device.getCachedAttributeData endpoint path.clusterId path.attributeId with
  | none => callbacks.onError.map fun handler =>
      (handler, .error "readFailed" "Attribute not in cache" (-1) callbacks.context)
  | some data => (device.encodeTlvElementToBase64 data 256).bind fun tlvBase64 =>
      callbacks.onResponse.map fun handler =>
        (handler, .attributeReadResponse path.clusterId path.attributeId tlvBase64
          callbacks.context)

/-- This is `ExecuteTerminal` with `ExecuteReadAttribute`. Only a cached read executes another terminal. -/
def executeTerminal (script : Script) (fuel index : Nat) (terminal : Terminal) (device : Device) :
    Option (List Action) :=
  match terminal with
  | .success value => some (storeResult operation value)
  | .error _ => some [.failOperation]
  | .sendCommand command successValue => some (executeSendCommand operation device command successValue)
  | .writeAttribute path tlvBase64 => some (executeWriteAttribute device path tlvBase64)
  | .requestCommand command _ callbacks timeoutMs =>
      some (executeRequestCommand defaultTimeoutMs now operation device command callbacks timeoutMs)
  | .readAttribute path callbacks _ =>
      match device.resolveEndpoint path.clusterId path.endpointId with
      | none => some [.failOperation]
      | some endpoint =>
          match cachedRead device path endpoint callbacks with
          | none => some [.failOperation]
          | some (handler, arguments) =>
              match (script index).result with
              | none => some [.invoke handler arguments, .failOperation]
              | some next =>
                  match fuel with
                  | 0 => none
                  | fuel + 1 =>
                      (executeTerminal script fuel (index + 1) next (script index).device).map
                        (.invoke handler arguments :: ·)

/-- The registration selects a handler for a resource. -/
inductive ResourceHandler where
  | deviceMissing
  | resourceMissing
  | noHandler (value : Option String)
  | handler (function : Handler)

/-- This is `HandleResourceOp`. -/
def handleResourceOp (script : Script) (fuel : Nat) (opType : String) : ResourceHandler →
    Option (List Action)
  | .deviceMissing => some [.failOperation]
  | .resourceMissing => some [.failOperation]
  | .noHandler value =>
      if opType = "read" then
        some ((match value with
          | some text => if operation.readValue then [.writeSlot .readValue text] else []
          | none => []) ++ [.readyPromise])
      else some [.failOperation]
  | .handler function =>
      match (script 0).result with
      | none => some [.invoke function (.resource opType), .failOperation]
      | some terminal =>
          (executeTerminal defaultTimeoutMs now operation script fuel 1 terminal (script 0).device).map
            (.invoke function (.resource opType) :: ·)

end Unparked

section Parked

/-- The `sendCommand` branch of `ContinueDeferredChain`. -/
def continueSendCommand (pending : PendingOperation) (device : Device) (command : CommandData)
    (successValue : String) : List Action :=
  match device.resolveEndpoint command.clusterId command.endpointId with
  | none => [.complete pending.id false]
  | some endpoint =>
      match device.decodeBase64Tlv command.tlvBase64 with
      | none => [.complete pending.id false]
      | some tlv =>
          if ¬device.sessionValid then [.complete pending.id false]
          else if ¬(device.prepareCommand endpoint command tlv ∧ device.sendCommandRequest) then
            [.complete pending.id false]
          else .chainedCommand :: storeOptimistically pending.operation successValue ++
            [.complete pending.id true]

/-- The `writeAttribute` branch of `ContinueDeferredChain`. -/
def continueWriteAttribute (pending : PendingOperation) (device : Device) (path : AttributeData)
    (tlvBase64 : String) : List Action :=
  match device.resolveEndpoint path.clusterId path.endpointId with
  | none => [.complete pending.id false]
  | some endpoint =>
      if tlvBase64 = "" then [.complete pending.id false]
      else
        match device.decodeBase64Tlv tlvBase64 with
        | none => [.complete pending.id false]
        | some tlv =>
            if ¬device.sessionValid then [.complete pending.id false]
            else if ¬(device.prepareWrite endpoint path tlv ∧ device.sendWriteRequest) then
              [.complete pending.id false]
            else [.chainedWrite, .complete pending.id true]

/-- A deferral replaces the callbacks and keeps the first context. -/
def PendingOperation.rearmed (pending : PendingOperation) (callbacks : Callbacks) : PendingOperation :=
  { pending with
    onResponse := callbacks.onResponse
    onError := callbacks.onError
    deferralDepth := pending.deferralDepth + 1 }

/-- The `requestCommand` branch of `ContinueDeferredChain`. -/
def continueRequestCommand (pending : PendingOperation) (device : Device) (command : CommandData)
    (callbacks : Callbacks) : List Action :=
  match device.resolveEndpoint command.clusterId command.endpointId with
  | none => [.complete pending.id false]
  | some endpoint =>
      match device.decodeBase64Tlv command.tlvBase64 with
      | none => [.complete pending.id false]
      | some tlv =>
          if ¬device.sessionValid then [.complete pending.id false]
          else if ¬(device.prepareCommand endpoint command tlv ∧ device.sendCommandRequest) then
            [.complete pending.id false]
          else [.rearm (pending.rearmed callbacks)]

/-- This is `ContinueDeferredChain`. -/
def continueDeferredChain (script : Script) (fuel index : Nat) (pending : PendingOperation)
    (terminal : Terminal) (device : Device) : Option (List Action) :=
  if maxDeferralDepth ≤ pending.deferralDepth then some [.complete pending.id false]
  else
    match terminal with
    | .success value => some (storeResult pending.operation value ++ [.complete pending.id true])
    | .error _ => some [.complete pending.id false]
    | .sendCommand command successValue =>
        if ¬device.alive then some [.complete pending.id false]
        else some (continueSendCommand pending device command successValue)
    | .writeAttribute path tlvBase64 =>
        if ¬device.alive then some [.complete pending.id false]
        else some (continueWriteAttribute pending device path tlvBase64)
    | .requestCommand command _ callbacks _ =>
        if ¬device.alive then some [.complete pending.id false]
        else some (continueRequestCommand pending device command callbacks)
    | .readAttribute path callbacks _ =>
        if ¬device.alive then some [.complete pending.id false]
        else
          match device.resolveEndpoint path.clusterId path.endpointId with
          | none => some [.complete pending.id false]
          | some endpoint =>
              match cachedRead device path endpoint { callbacks with context := pending.context } with
              | none => some [.complete pending.id false]
              | some (handler, arguments) =>
                  match (script index).result with
                  | none => some [.invoke handler arguments, .complete pending.id false]
                  | some next =>
                      match fuel with
                      | 0 => none
                      | fuel + 1 =>
                          (continueDeferredChain script fuel (index + 1) (pending.rearmed callbacks) next
                            (script index).device).map (.invoke handler arguments :: ·)

/-- A command response has a path and the base64 text of its data. -/
structure ResponseData where
  clusterId : UInt32
  commandId : UInt32
  tlvBase64 : String

/-- This is `HandleDeferredCommandResponse` for a known operation. -/
def handleDeferredCommandResponse (script : Script) (fuel now : Nat) (pending : PendingOperation)
    (response : ResponseData) : Option (List Action) :=
  if pending.overallDeadline < now then
    match pending.onError with
    | some handler => some [.invoke handler (.error "timeout" "Overall operation deadline exceeded" (-1)
        pending.context), .complete pending.id false]
    | none => some [.complete pending.id false]
  else
    match pending.onResponse with
    | none => some [.complete pending.id false]
    | some handler =>
        let arguments : Arguments :=
          .commandResponse response.clusterId response.commandId response.tlvBase64 pending.context
        match (script 0).result with
        | none => some [.invoke handler arguments, .complete pending.id false]
        | some terminal =>
            (continueDeferredChain script fuel 1 pending terminal (script 0).device).map
              (.invoke handler arguments :: ·)

/-- An error has a text and a number. -/
structure ErrorData where
  message : String
  code : ℤ

/-- A result other than an error recovers the chain. -/
def Terminal.isError : Terminal → Bool
  | .error _ => true
  | _ => false

/-- This is `HandleDeferredCommandError` for a known operation. -/
def handleDeferredCommandError (script : Script) (fuel : Nat) (pending : PendingOperation)
    (error : ErrorData) : Option (List Action) :=
  match pending.onError with
  | none => some [.complete pending.id false]
  | some handler =>
      let arguments : Arguments := .error "commandFailed" error.message error.code pending.context
      match (script 0).result with
      | none => some [.invoke handler arguments, .complete pending.id false]
      | some terminal =>
          if terminal.isError then some [.invoke handler arguments, .complete pending.id false]
          else (continueDeferredChain script fuel 1 pending terminal (script 0).device).map
            (.invoke handler arguments :: ·)

end Parked
end Barton.Sbmd
