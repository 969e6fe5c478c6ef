/-
This file contains the typed reads and writes of a Zigbee payload.
-/

import BartonCore.ToMathlib.LittleEndian

namespace Barton.ZigbeeIO
open LittleEndian

inductive ZigbeeIOMode where
  | read
  | write
  deriving DecidableEq

/-- Only the functions of this file change `errno`. -/
inductive Errno where
  | ok
  | espipe
  | eperm
  | einval
  deriving DecidableEq

/-- The payload ends at its length, and the position is lost after an error. -/
structure ZigbeeIOContext where
  payload : List UInt8
  cur : Option Nat
  mode : ZigbeeIOMode
  errno : Errno

def zigbeeIOInit (payload : List UInt8) (mode : ZigbeeIOMode) : ZigbeeIOContext :=
  ⟨if mode = .write then List.replicate payload.length 0 else payload, some 0, mode, .ok⟩

section Private

def checkEnd (ctx : ZigbeeIOContext) (size : Nat) : ZigbeeIOContext :=
  if ctx.cur.any fun cur => cur + size ≤ ctx.payload.length then ctx
  else { ctx with cur := none, errno := .espipe }

/-- The operation is allowed if there is no error after the checks. -/
def canPerformOperation (ctx : ZigbeeIOContext) (size : Nat) (mode : ZigbeeIOMode) : ZigbeeIOContext × Bool :=
  let checked :=
    if ctx.mode ≠ mode then { ctx with cur := none, errno := .eperm }
    else if ctx.errno = .ok then checkEnd ctx size
    else ctx
  (checked, checked.errno = .ok)

/-- Bytes are read at the position. A read outside the payload is undefined. -/
def load (ctx : ZigbeeIOContext) (size : Nat) : Option (List UInt8) :=
  ctx.cur.bind fun cur =>
    if cur + size ≤ ctx.payload.length then some ((ctx.payload.drop cur).take size) else none

/-- Bytes are written at the position. A write of some byte outside the payload is undefined. -/
def copy (ctx : ZigbeeIOContext) (bytes : List UInt8) : Option ZigbeeIOContext :=
  if bytes = [] then some ctx
  else ctx.cur.bind fun cur =>
    if cur + bytes.length ≤ ctx.payload.length then
      some { ctx with payload := ctx.payload.take cur ++ bytes ++ ctx.payload.drop (cur + bytes.length) }
    else none

def advance (ctx : ZigbeeIOContext) (size : Nat) : ZigbeeIOContext :=
  { ctx with cur := ctx.cur.map fun cur => cur + size }

/-- The value is 0 where nothing is read. -/
def readVal (ctx : ZigbeeIOContext) (size : Nat) : Option (ZigbeeIOContext × Nat) :=
  let (checked, allowed) := canPerformOperation ctx size .read
  if allowed then (load checked size).map fun bytes => (advance checked size, decode bytes)
  else some (checked, 0)

def writeVal (ctx : ZigbeeIOContext) (value size : Nat) : Option ZigbeeIOContext :=
  let (checked, allowed) := canPerformOperation ctx size .write
  if allowed then (copy checked (encode size value)).map fun written => advance written size
  else some checked

end Private

section Integers

def zigbeeIOGetUint8 (ctx : ZigbeeIOContext) : Option (ZigbeeIOContext × UInt8) :=
  (readVal ctx 1).map fun result => (result.1, UInt8.ofNat result.2)

def zigbeeIOGetInt8 (ctx : ZigbeeIOContext) : Option (ZigbeeIOContext × Int8) :=
  (readVal ctx 1).map fun result => (result.1, (UInt8.ofNat result.2).toInt8)

def zigbeeIOGetUint16 (ctx : ZigbeeIOContext) : Option (ZigbeeIOContext × UInt16) :=
  (readVal ctx 2).map fun result => (result.1, UInt16.ofNat result.2)

def zigbeeIOGetInt16 (ctx : ZigbeeIOContext) : Option (ZigbeeIOContext × Int16) :=
  (readVal ctx 2).map fun result => (result.1, (UInt16.ofNat result.2).toInt16)

def zigbeeIOGetUint32 (ctx : ZigbeeIOContext) : Option (ZigbeeIOContext × UInt32) :=
  (readVal ctx 4).map fun result => (result.1, UInt32.ofNat result.2)

def zigbeeIOGetInt32 (ctx : ZigbeeIOContext) : Option (ZigbeeIOContext × Int32) :=
  (readVal ctx 4).map fun result => (result.1, (UInt32.ofNat result.2).toInt32)

def zigbeeIOPutUint8 (ctx : ZigbeeIOContext) (val : UInt8) : Option ZigbeeIOContext := writeVal ctx val.toNat 1

def zigbeeIOPutInt8 (ctx : ZigbeeIOContext) (val : Int8) : Option ZigbeeIOContext := writeVal ctx val.toUInt8.toNat 1

def zigbeeIOPutUint16 (ctx : ZigbeeIOContext) (val : UInt16) : Option ZigbeeIOContext := writeVal ctx val.toNat 2

def zigbeeIOPutInt16 (ctx : ZigbeeIOContext) (val : Int16) : Option ZigbeeIOContext :=
  writeVal ctx val.toUInt16.toNat 2

def zigbeeIOPutUint32 (ctx : ZigbeeIOContext) (val : UInt32) : Option ZigbeeIOContext := writeVal ctx val.toNat 4

def zigbeeIOPutInt32 (ctx : ZigbeeIOContext) (val : Int32) : Option ZigbeeIOContext :=
  writeVal ctx val.toUInt32.toNat 4

end Integers

section Bytes

/-- The result is a string, so it ends before a zero. -/
def zigbeeIOGetString (ctx : ZigbeeIOContext) : Option (ZigbeeIOContext × Option (List UInt8)) :=
  (zigbeeIOGetUint8 ctx).bind fun (started, strlen) =>
    let (checked, allowed) := canPerformOperation started strlen.toNat .read
    if allowed then
      (load checked strlen.toNat).map fun bytes =>
        (advance checked strlen.toNat, some (bytes.takeWhile fun byte => byte ≠ 0))
    else some (checked, none)

/-- The buffer of the caller is filled, or it is left as it is. -/
def zigbeeIOGetBytes (ctx : ZigbeeIOContext) (len : UInt8) : Option (ZigbeeIOContext × Option (List UInt8)) :=
  let (checked, allowed) := canPerformOperation ctx len.toNat .read
  if allowed then (load checked len.toNat).map fun bytes => (advance checked len.toNat, some bytes)
  else some (checked, none)

/-- The first byte of a `size_t` in memory is its lowest or its highest byte. -/
def firstByte (bigEndian : Bool) (len : Nat) : Nat := if bigEndian then len / 256 ^ 7 else len % 256

/-- The position stays behind the length byte. -/
def zigbeeIOPutString (bigEndian : Bool) (ctx : ZigbeeIOContext) (str : List UInt8) : Option ZigbeeIOContext :=
  if str.length > 255 then some { ctx with cur := none, errno := .einval }
  else (writeVal ctx (firstByte bigEndian str.length) 1).bind fun written => copy written str

def zigbeeIOPutBytes (ctx : ZigbeeIOContext) (buf : List UInt8) : Option ZigbeeIOContext :=
  let (checked, allowed) := canPerformOperation ctx buf.length .write
  if allowed then (copy checked buf).map fun written => advance written buf.length
  else some checked

end Bytes

section Operations

inductive Typed where
  | uint8 (val : UInt8)
  | int8 (val : Int8)
  | uint16 (val : UInt16)
  | int16 (val : Int16)
  | uint32 (val : UInt32)
  | int32 (val : Int32)
  | bytes (buf : List UInt8)
  | string (str : List UInt8)
  deriving DecidableEq

/-- The length of raw bytes is an 8-bit argument. -/
inductive Kind where
  | uint8
  | int8
  | uint16
  | int16
  | uint32
  | int32
  | bytes (len : UInt8)
  | string
  deriving DecidableEq

/-- Raw bytes have an 8-bit length, and a string has no zero. -/
def Typed.WellTyped : Typed → Prop
  | .bytes buf => buf.length ≤ 255
  | .string str => ∀ byte ∈ str, byte ≠ 0
  | _ => True

/-- A value that can be given to a put function. -/
structure Put where
  value : Typed
  wellTyped : value.WellTyped

inductive Operation where
  | put (put : Put)
  | get (kind : Kind)

/-- This calls the put function of the type. -/
def putValue (bigEndian : Bool) (ctx : ZigbeeIOContext) : Typed → Option ZigbeeIOContext
  | .uint8 val => zigbeeIOPutUint8 ctx val
  | .int8 val => zigbeeIOPutInt8 ctx val
  | .uint16 val => zigbeeIOPutUint16 ctx val
  | .int16 val => zigbeeIOPutInt16 ctx val
  | .uint32 val => zigbeeIOPutUint32 ctx val
  | .int32 val => zigbeeIOPutInt32 ctx val
  | .bytes buf => zigbeeIOPutBytes ctx buf
  | .string str => zigbeeIOPutString bigEndian ctx str

/-- This calls the get function of the type. -/
def getValue (ctx : ZigbeeIOContext) : Kind → Option (ZigbeeIOContext × Option Typed)
  | .uint8 => (zigbeeIOGetUint8 ctx).map (Prod.map id fun val => some (.uint8 val))
  | .int8 => (zigbeeIOGetInt8 ctx).map (Prod.map id fun val => some (.int8 val))
  | .uint16 => (zigbeeIOGetUint16 ctx).map (Prod.map id fun val => some (.uint16 val))
  | .int16 => (zigbeeIOGetInt16 ctx).map (Prod.map id fun val => some (.int16 val))
  | .uint32 => (zigbeeIOGetUint32 ctx).map (Prod.map id fun val => some (.uint32 val))
  | .int32 => (zigbeeIOGetInt32 ctx).map (Prod.map id fun val => some (.int32 val))
  | .bytes len => (zigbeeIOGetBytes ctx len).map (Prod.map id (Option.map .bytes))
  | .string => (zigbeeIOGetString ctx).map (Prod.map id (Option.map .string))

/-- A put returns nothing. -/
def perform (bigEndian : Bool) (ctx : ZigbeeIOContext) : Operation → Option (ZigbeeIOContext × Option Typed)
  | .put put => (putValue bigEndian ctx put.value).map fun next => (next, none)
  | .get kind => getValue ctx kind

/-- A run returns the results in order. -/
def run (bigEndian : Bool) (ctx : ZigbeeIOContext) : List Operation → Option (ZigbeeIOContext × List (Option Typed))
  | [] => some (ctx, [])
  | operation :: rest =>
      (perform bigEndian ctx operation).bind fun (next, result) =>
        (run bigEndian next rest).map fun (last, results) => (last, result :: results)

end Operations
end Barton.ZigbeeIO
