/-
This file contains the reads and writes of Zigbee attributes.
-/

import BartonCore.ToMathlib.LittleEndian

namespace Barton.Attributes

section Zhal

structure ZhalAttributeData where
  id : UInt16
  type : UInt8
  data : List UInt8
  dataLen : UInt16
  deriving DecidableEq

/-- A response to a read comes with the length of the data that was received for each attribute. -/
structure Response (count : Nat) where
  result : Int32
  attributeData : Vector ZhalAttributeData count
  received : ∀ entry ∈ attributeData.toList, entry.dataLen.toNat = entry.data.length

/-- The attributes of one cluster are read and written together. -/
structure Target where
  eui64 : UInt64
  endpointId : UInt8
  clusterId : UInt16
  isMfgSpecific : Bool
  mfgId : UInt16
  toServer : Bool

/-- The device on the other side decides every response. -/
structure Zhal where
  zhalAttributesRead : (eui64 : UInt64) → (endpointId : UInt8) → (clusterId : UInt16) → (toServer : Bool) →
    (attributeIds : List UInt16) → Response attributeIds.length
  zhalAttributesReadMfgSpecific : (eui64 : UInt64) → (endpointId : UInt8) → (clusterId mfgId : UInt16) →
    (toServer : Bool) → (attributeIds : List UInt16) → Response attributeIds.length
  zhalAttributesWrite : (eui64 : UInt64) → (endpointId : UInt8) → (clusterId : UInt16) → (toServer : Bool) →
    List ZhalAttributeData → Int32
  zhalAttributesWriteMfgSpecific : (eui64 : UInt64) → (endpointId : UInt8) → (clusterId mfgId : UInt16) →
    (toServer : Bool) → List ZhalAttributeData → Int32

variable (zhal : Zhal) (target : Target)

def attributesRead (attributeIds : List UInt16) : Response attributeIds.length :=
  if target.isMfgSpecific then
    zhal.zhalAttributesReadMfgSpecific target.eui64 target.endpointId target.clusterId target.mfgId target.toServer
      attributeIds
  else zhal.zhalAttributesRead target.eui64 target.endpointId target.clusterId target.toServer attributeIds

def attributesWrite (attributeData : List ZhalAttributeData) : Int32 :=
  if target.isMfgSpecific then
    zhal.zhalAttributesWriteMfgSpecific target.eui64 target.endpointId target.clusterId target.mfgId target.toServer
      attributeData
  else zhal.zhalAttributesWrite target.eui64 target.endpointId target.clusterId target.toServer attributeData

end Zhal

section Read
variable (zhal : Zhal) (target : Target)

/-- These bytes are copied from the data. A read outside the data is undefined. -/
def copied (data : List UInt8) (start size : Nat) : Option (List UInt8) :=
  if start + size ≤ data.length then some ((data.drop start).take size) else none

/-- The value is the allocated buffer, and it is not written on a failure. -/
structure StringResult where
  result : Int32
  value : Option (List UInt8)
  deriving DecidableEq

def readString (attributeId : UInt16) : Option StringResult :=
  if target.toServer then
    let response := attributesRead zhal target [attributeId]
    let entry := response.attributeData[0]
    if response.result = 0 ∧ 0 < entry.dataLen then
      entry.data[0]?.bind fun length =>
        (copied entry.data 1 length.toNat).map fun bytes => ⟨0, some (bytes ++ [0])⟩
    else some ⟨-1, none⟩
  else some ⟨-1, none⟩

/-- The loop adds the bytes from this index on. A byte outside the data is undefined. -/
def addBytes (data : List UInt8) (value : UInt64) (index : Nat) : (count : Nat) → Option UInt64
  | 0 => some value
  | count + 1 => data[index]?.bind fun byte =>
      addBytes data (value + (byte.toUInt64 <<< UInt64.ofNat (index * 8))) (index + 1) count

/-- The value of an attribute is 0 at first. -/
def readNumberData (entry : ZhalAttributeData) : Option (UInt64 × Bool) :=
  if 0 < entry.dataLen ∧ entry.dataLen ≤ 8 then
    (addBytes entry.data 0 0 entry.dataLen.toNat).map fun value => (value, true)
  else some (0, false)

structure NumbersResult where
  result : Int32
  values : List UInt64
  readSuccesses : List Bool
  deriving DecidableEq

/-- The flags of the caller stay as they are if no attribute is read. -/
def readNumbers (attributeIds : List UInt16) (readSuccesses : List Bool) : Option NumbersResult :=
  let response := attributesRead zhal target attributeIds
  if response.result = 0 then
    (response.attributeData.toList.mapM readNumberData).map fun numbers =>
      ⟨response.result, numbers.map Prod.fst, numbers.map Prod.snd⟩
  else some ⟨response.result, List.replicate attributeIds.length 0, readSuccesses⟩

/-- The flag of the caller has any value before the call. -/
def zigbeeSubsystemReadNumber (attributeId : UInt16) (readSuccess : Bool) : Option (Int32 × List UInt64) :=
  (readNumbers zhal target [attributeId] [readSuccess]).map fun numbers =>
    (if numbers.result = 0 ∧ numbers.readSuccesses[0]? = some true then 0 else 1, numbers.values)

end Read

section Write
variable (zhal : Zhal) (target : Target)

/-- The loop writes the bytes from this index on. A shift by 64 bits is undefined. -/
def numberBytes (value : UInt64) (index : Nat) : (count : Nat) → Option (List UInt8)
  | 0 => some []
  | count + 1 =>
      if 8 * index < 64 then
        (numberBytes value (index + 1) count).map fun rest =>
          ((value >>> UInt64.ofNat (8 * index)) &&& 0xff).toUInt8 :: rest
      else none

def writeNumberData (attributeId : UInt16) (attributeType : UInt8) (value : UInt64) (numBytes : UInt8) :
    Option ZhalAttributeData :=
  (numberBytes value 0 numBytes.toNat).map fun data => ⟨attributeId, attributeType, data, numBytes.toUInt16⟩

def writeNumber (attributeId : UInt16) (attributeType : UInt8) (value : UInt64) (numBytes : UInt8) : Option Int32 :=
  (writeNumberData attributeId attributeType value numBytes).map fun attributeData =>
    attributesWrite zhal target [attributeData]

end Write
end Barton.Attributes
