/-
This file contains the check of the prerequisites of a resource.
-/

import BartonCore.Construction.Matter.Endpoints
import BartonCore.Construction.Sbmd.Dispatch
import BartonCore.ToMathlib.Strtol

namespace Barton.Prerequisites

open Endpoints Strtol

structure SbmdResource where
  prerequisites : List Text

/-- The inner loop stops at the first endpoint with the cluster. -/
def clusterFound (cache : DeviceDataCache) (clusterId : ClusterId) : List EndpointId → Bool
  | [] => false
  | endpointId :: rest =>
      if cache.endpointHasServerCluster endpointId clusterId then true else clusterFound cache clusterId rest

/-- The loop skips what is not a numeral. -/
def checkEach (cache : DeviceDataCache) (endpointIds : List EndpointId) : List Text → Bool
  | [] => true
  | prereqAlias :: rest =>
      let (parsed, endPtr) := strtoul prereqAlias
      if endPtr = prereqAlias ∨ endPtr ≠ [] then checkEach cache endpointIds rest
      else if clusterFound cache parsed.toUInt32 endpointIds then checkEach cache endpointIds rest
      else false

def checkPrerequisites (resource : SbmdResource) (device : MatterDevice) : Bool :=
  if resource.prerequisites.isEmpty then true
  else
    match device.deviceDataCache with
    | none => false
    | some cache => checkEach cache cache.getEndpointIds resource.prerequisites

end Barton.Prerequisites
