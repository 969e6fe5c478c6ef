/-
This file contains the endpoint map of a Matter device and the cached clusters that it is made from.
-/

import BartonCore.ToMathlib.Registry

namespace Barton.Endpoints

open Registry

abbrev EndpointId := UInt16
abbrev ClusterId := UInt32
abbrev DeviceTypeId := UInt32

/-- This is `chip::app::Clusters::Descriptor::Id`. -/
def descriptor : ClusterId := 0x001D

/-- These are the attributes of a cached cluster that the endpoint resolution reads. An attribute is absent
where the cache has no data for it or the data does not decode. -/
structure ClusterState where
  partsList : Option (List EndpointId)
  deviceTypeList : Option (List DeviceTypeId)

/-- The cache holds the server clusters of every endpoint. -/
abbrev ClusterStateCache := EndpointId → Table ClusterId ClusterState

structure DeviceDataCache where
  clusterStateCache : Option ClusterStateCache

def DeviceDataCache.endpointHasServerCluster (deviceDataCache : DeviceDataCache) (endpointId : EndpointId)
    (clusterId : ClusterId) : Bool :=
  match deviceDataCache.clusterStateCache with
  | none => false
  | some cache => (cache endpointId).keys.any (· == clusterId)

/-- The id of each device type is narrowed to 16 bits. -/
def DeviceDataCache.getDeviceTypes (deviceDataCache : DeviceDataCache) (endpointId : EndpointId) :
    Option (List UInt16) :=
  if deviceDataCache.endpointHasServerCluster endpointId descriptor then do
    let cache ← deviceDataCache.clusterStateCache
    let cluster ← (cache endpointId).lookup descriptor
    let deviceTypeList ← cluster.deviceTypeList
    pure (deviceTypeList.map UInt32.toUInt16)
  else none

def DeviceDataCache.getEndpointIds (deviceDataCache : DeviceDataCache) : List EndpointId :=
  match deviceDataCache.clusterStateCache with
  | none => []
  | some cache =>
      match ((cache 0).lookup descriptor).bind ClusterState.partsList with
      | none => []
      | some partsList => 0 :: partsList

structure MatterDevice where
  deviceDataCache : Option DeviceDataCache
  sbmdEndpointMap : Table UInt32 EndpointId

def MatterDevice.getEndpointForCluster (device : MatterDevice) (clusterId : ClusterId) : Option EndpointId :=
  match device.deviceDataCache with
  | none => none
  | some deviceDataCache =>
      deviceDataCache.getEndpointIds.find? (deviceDataCache.endpointHasServerCluster · clusterId)

def MatterDevice.getEndpointForSbmdIndex (device : MatterDevice) (sbmdIndex : UInt32) : Option EndpointId :=
  device.sbmdEndpointMap.lookup sbmdIndex

def MatterDevice.resolveEndpointForCluster (device : MatterDevice) (clusterId : ClusterId)
    (sbmdEndpointIndex : Option UInt32) : Option EndpointId :=
  match device.deviceDataCache with
  | none => none
  | some deviceDataCache =>
      match sbmdEndpointIndex with
      | none => device.getEndpointForCluster clusterId
      | some sbmdIndex =>
          match device.getEndpointForSbmdIndex sbmdIndex with
          | none => none
          | some endpointId =>
              if deviceDataCache.endpointHasServerCluster endpointId clusterId then some endpointId
              else device.getEndpointForCluster clusterId

/-- The loop keeps the next index and the map. -/
def resolveEndpoints (deviceDataCache : DeviceDataCache) (driverSupportedDeviceTypes : List UInt16) :
    List EndpointId → UInt32 → Table UInt32 EndpointId → Table UInt32 EndpointId
  | [], _, sbmdEndpointMap => sbmdEndpointMap
  | endpointId :: rest, sbmdIndex, sbmdEndpointMap =>
      if endpointId = 0 then
        resolveEndpoints deviceDataCache driverSupportedDeviceTypes rest sbmdIndex sbmdEndpointMap
      else
        match deviceDataCache.getDeviceTypes endpointId with
        | none => resolveEndpoints deviceDataCache driverSupportedDeviceTypes rest sbmdIndex sbmdEndpointMap
        | some endpointDeviceTypes =>
            if endpointDeviceTypes.any driverSupportedDeviceTypes.contains then
              resolveEndpoints deviceDataCache driverSupportedDeviceTypes rest (sbmdIndex + 1)
                (sbmdEndpointMap.insert sbmdIndex endpointId)
            else
              resolveEndpoints deviceDataCache driverSupportedDeviceTypes rest sbmdIndex sbmdEndpointMap

/-- An empty list of device types leaves the old map in place. -/
def MatterDevice.resolveEndpointMap (device : MatterDevice) (driverSupportedDeviceTypes : List UInt16) :
    Bool × MatterDevice :=
  match device.deviceDataCache with
  | none => (false, device)
  | some deviceDataCache =>
      if driverSupportedDeviceTypes.isEmpty then (false, device)
      else
        let sbmdEndpointMap :=
          resolveEndpoints deviceDataCache driverSupportedDeviceTypes deviceDataCache.getEndpointIds 0 ∅
        (!sbmdEndpointMap.keys.isEmpty, { device with sbmdEndpointMap })

end Barton.Endpoints
