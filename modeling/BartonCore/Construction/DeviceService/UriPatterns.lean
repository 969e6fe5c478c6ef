/-
This file contains the reads and the writes of resources by a URI pattern.
A result `none` marks an access through a NULL or dangling pointer, and an inner `none` is a NULL result.
-/

import BartonCore.ToMathlib.Globs
import BartonCore.Construction.Database.Saves
import BartonCore.Construction.DeviceService.Resources

namespace Barton.UriPatterns
open Database Resources

/-- This is the bit `RESOURCE_MODE_WRITEABLE`. -/
def resourceModeWriteable : UInt8 := (1 : UInt8) <<< 1

def isUriPattern (uri : String) : Bool := uri.toList.contains '*'

def createRegexFromPattern (uri : String) : String :=
  String.ofList (uri.toList.flatMap fun letter => if letter = '*' then ['.', '*'] else [letter])

/-- A compiled expression is the answer of `regexec` for each text. -/
abbrev Regex := String → Bool

/-- The C library compiles a basic regular expression. The function `other` stands for its answer
on brackets and escapes, where NULL marks an invalid expression. -/
def regcomp (other : String → Option Regex) (text : String) : Option Regex :=
  if Globs.supported text.toList then some fun uri => (Globs.parse text.toList).search uri.toList
  else other text

/-- The loop appends what the elements give, in their order. -/
def collect {Source Item : Type} (visit : Source → Option (Option Item)) : List Source → Option (List Item)
  | [] => some []
  | source :: rest => (visit source).bind fun item => (collect visit rest).map fun items => item.toList ++ items

section
variable (other : String → Option Regex) (db : JsonDatabase)

/-- The resource behind a locator is cloned, and a locator of another type is skipped. -/
def resourceOf : Locator → Option (Option DeviceResource)
  | .resource entry _ address => (db.resourceAt entry address).map fun resource => some resource.content
  | _ => some none

/-- The items of the locators whose keys the expression finds. An invalid expression finds nothing. -/
def getItemsByUriRegex {Item : Type} (itemOf : Locator → Option (Option Item)) (uriRegex : String) :
    Option (List Item) :=
  match regcomp other uriRegex with
  | none => some []
  | some regexec =>
      collect (fun entry => if regexec entry.1 then itemOf entry.2 else some none) db.resourcesByUri.entries

def jsonDatabaseGetResourcesByUriRegex (uriRegex : String) : Option (List DeviceResource) :=
  getItemsByUriRegex other db (resourceOf db) uriRegex

def deviceServiceIsUriAccessible (uri : Option String) : Option Bool :=
  match uri with
  | none => some false
  | some uri => jsonDatabaseIsUriAccessible db uri

def deviceServiceGetResourcesByUriPatternInternal (uriPattern : Option String) :
    Option (Option (List DeviceResource)) :=
  match uriPattern with
  | none => some none
  | some uriPattern =>
      if isUriPattern uriPattern then
        (jsonDatabaseGetResourcesByUriRegex other db (createRegexFromPattern uriPattern)).map some
      else (jsonDatabaseGetResourceByUri db uriPattern).map fun resource => some resource.toList

/-- A resource that is not accessible is dropped from the result. -/
def deviceServiceGetResourcesByUriPattern (uriPattern : Option String) : Option (Option (List DeviceResource)) :=
  (deviceServiceGetResourcesByUriPatternInternal other db uriPattern).bind fun found =>
    match found with
    | none => some none
    | some resourceList =>
        (collect (fun resource => (deviceServiceIsUriAccessible db resource.uri).map fun accessible =>
          if accessible then some resource else none) resourceList).map some

/-- A resource of an endpoint may be inherited from the root device. -/
def resourceOrInherited (uri : String) : Option (Option DeviceResource) :=
  (jsonDatabaseGetResourceByUri db uri).bind fun resource =>
    match resource with
    | some resource => some (some resource)
    | none => (jsonDatabaseGetEndpointByUri db uri).bind fun endpoint =>
        match endpoint with
        | none => some none
        | some endpoint =>
            match jsonDatabaseGetDeviceById db endpoint.deviceUuid with
            | none => some none
            | some device => (inheritedUri uri endpoint device).bind (jsonDatabaseGetResourceByUri db)

def jsonDatabaseGetDeviceByUri (uri : String) : Option (Option DeviceRecord) :=
  match db.resourcesByUri.lookup uri with
  | none => some none
  | some locator => (db.entryAt locator.entry).map fun entry => some entry.device.record

def deviceServiceGetDeviceByUri (uri : String) : Option (Option DeviceRecord) :=
  (deviceServiceIsUriAccessible db (some uri)).bind fun accessible =>
    if accessible then jsonDatabaseGetDeviceByUri db uri else some none

/-- The write of a driver gets the resource, its previous value, and the new value. -/
abbrev WriteResource := JsonDatabase → DeviceResource → Option String → Option String → Option (Bool × JsonDatabase)

/-- A driver may have no function `writeResource`. -/
structure DeviceDriver where
  writeResource : Option WriteResource

/-- This is `deviceDriverManagerGetDeviceDriver`. -/
abbrev DriverManager := Option String → Option DeviceDriver

def getDeviceDriverForUri (drivers : DriverManager) (uri : String) : Option (Option DeviceDriver) :=
  (deviceServiceGetDeviceByUri db uri).map fun device =>
    device.bind fun device => drivers device.managingDeviceDriver

def deviceServiceWriteResourceNoPattern (drivers : DriverManager) (uri : String) (value : Option String) :
    Option (Bool × JsonDatabase) :=
  (resourceOrInherited db uri).bind fun found =>
    match found with
    | none => some (false, db)
    | some resource =>
        if resource.mode &&& resourceModeWriteable = 0 then some (false, db)
        else (getDeviceDriverForUri db drivers uri).bind fun driver =>
          match driver.bind DeviceDriver.writeResource with
          | none => some (false, db)
          | some writeResource => writeResource db resource resource.value value

end

/-- The outcome of a write with the URIs that it selected in their order. -/
structure WriteOutcome where
  result : Bool
  db : JsonDatabase
  selected : List String

section
variable (drivers : DriverManager) (value : Option String)

/-- The accessibility of each resource is checked when its turn comes. -/
def writeEach (outcome : WriteOutcome) : List DeviceResource → Option WriteOutcome
  | [] => some outcome
  | item :: rest =>
      (deviceServiceIsUriAccessible outcome.db item.uri).bind fun accessible =>
        if accessible then
          item.uri.bind fun uri =>
            (deviceServiceWriteResourceNoPattern outcome.db drivers uri value).bind fun written =>
              writeEach ⟨outcome.result && written.1, written.2, outcome.selected ++ [uri]⟩ rest
        else writeEach { outcome with result := false } rest

def deviceServiceWriteResource (other : String → Option Regex) (db : JsonDatabase) (uri : Option String) :
    Option WriteOutcome :=
  match uri with
  | none => some ⟨false, db, []⟩
  | some _ => (deviceServiceGetResourcesByUriPatternInternal other db uri).bind fun found =>
      match found with
      | none => some ⟨false, db, []⟩
      | some resources => writeEach drivers value ⟨true, db, []⟩ resources

end

end Barton.UriPatterns
