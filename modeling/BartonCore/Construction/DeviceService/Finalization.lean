/-
This file contains the write of the time zone to a device that is being finalized.
-/

import BartonCore.Construction.DeviceService.Lifecycle
import BartonCore.Construction.DeviceService.UriPatterns

namespace Barton.Finalization
open Database Lifecycle UriPatterns

/-- This is `COMMON_DEVICE_RESOURCE_TIMEZONE`. -/
def timezone : String := "timezone"

/-- The first resource of the root device with the id. A NULL id faults in `strcmp`. -/
def deviceServiceFindDeviceResourceById (resourceId : String) : List DeviceResource → Option (Option DeviceResource)
  | [] => some none
  | resource :: rest => resource.id.bind fun id =>
      if id = resourceId then some (some resource) else deviceServiceFindDeviceResourceById resourceId rest

/-- This is the part of `finalizeNewDevice` before the device is stored. There is no write when the device has no
time zone resource or when the property `POSIX_TZ` is not set. -/
def writeTimeZone (drivers : DriverManager) (other : String → Option Regex) (db : JsonDatabase) (deviceUuid : String)
    (device : DeviceRecord) (posixTZ : Option String) : Option (Option WriteOutcome) :=
  (deviceServiceFindDeviceResourceById timezone (setUris deviceUuid device).resources).bind fun tzResource =>
    match tzResource, posixTZ with
    | some tzResource, some posixTZ =>
        (deviceServiceWriteResource drivers (some posixTZ) other db tzResource.uri).map some
    | _, _ => some none

end Barton.Finalization
