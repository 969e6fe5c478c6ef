/-
This file contains the property provider, which lays the properties of the client over the internal ones.
-/

import BartonCore.Construction.Database.Startup
import BartonCore.ToMathlib.Layers

namespace Barton.PropertyProvider
open Database Registry

section Interface

inductive BCorePropertyProviderError where
  | generic
  | arg
  | notFound
  | internal
  deriving DecidableEq

/-- The old value is NULL if there was none. -/
structure PropertyChanged where
  propertyName : String
  oldValue : Option String
  newValue : String
  deriving DecidableEq

/-- The result of a lookup is a value or NULL, and an error may be set. -/
abbrev Lookup := Option String × Option BCorePropertyProviderError

/-- A hook may be NULL. The client keeps the state that the hooks see. -/
structure BCorePropertyProviderInterface (State : Type) where
  getProperty : Option (State → String → Lookup)
  getAllProperties : Option (State → Table String String)
  setProperty : Option (State → String → String → (Bool × Option BCorePropertyProviderError) × State)

/-- The state of the client stands beside the database. -/
structure World (State : Type) where
  client : State
  process : Process

def World.systemProperties {State : Type} (world : World State) : SystemProperties :=
  world.process.systemProperties.getD ∅

end Interface

section Database

def jsonDatabaseGetSystemPropertyNoLock (systemProperties : SystemProperties) (key : String) : Option String :=
  systemProperties.lookup key

def jsonDatabaseGetAllSystemPropertiesNoLock (systemProperties map : SystemProperties) : SystemProperties :=
  map.putAll systemProperties.entries

end Database

section Provider
variable {State : Type} (iface : BCorePropertyProviderInterface State) (lib : Library) (world : World State)

def getInternalProperty (propertyName : String) : Lookup :=
  match jsonDatabaseGetSystemPropertyNoLock world.systemProperties propertyName with
  | some value => (some value, none)
  | none => (none, some .notFound)

/-- The hook is asked first. -/
def hookProperty (propertyName : String) : Lookup :=
  iface.getProperty.elim (none, none) fun hook => hook world.client propertyName

def bCorePropertyProviderGetProperty (propertyName : Option String) : Lookup :=
  match propertyName with
  | none => (none, some .arg)
  | some propertyName =>
      match hookProperty iface world propertyName with
      | (some value, none) => (some value, none)
      | (some value, some .notFound) => (some value, none)
      | (none, none) => getInternalProperty world propertyName
      | (none, some .notFound) => getInternalProperty world propertyName
      | (_, some error) => (none, some error)

def bCorePropertyProviderGetAllProperties : Table String String :=
  let properties := iface.getAllProperties.elim ∅ fun hook => hook world.client
  let internalProperties := jsonDatabaseGetAllSystemPropertiesNoLock world.systemProperties ∅
  properties.insertAll internalProperties.entries

/-- The change is signalled if the database takes it. -/
structure SetResult (State : Type) where
  done : Bool
  error : Option BCorePropertyProviderError
  emitted : Option PropertyChanged
  world : World State

def setInternalProperty (propertyName propertyValue : String) (stored : Bool) : SetResult State :=
  match bCorePropertyProviderGetProperty iface world (some propertyName) with
  | (oldValue, error) =>
      if error.all fun error => error = .notFound then
        let (saved, process) := jsonDatabaseSetSystemPropertyNoLock lib world.process propertyName propertyValue stored
        if saved then ⟨true, none, some ⟨propertyName, oldValue, propertyValue⟩, { world with process := process }⟩
        else ⟨false, some .internal, none, { world with process := process }⟩
      else ⟨false, error, none, world⟩

def bCorePropertyProviderSetProperty (propertyName : Option String) (propertyValue : String) (stored : Bool) :
    SetResult State :=
  match propertyName with
  | none => ⟨false, some .arg, none, world⟩
  | some propertyName =>
      match iface.setProperty with
      | some hook =>
          let ((done, error), client) := hook world.client propertyName propertyValue
          ⟨done, error, none, { world with client := client }⟩
      | none => setInternalProperty iface lib world propertyName propertyValue stored

/-- The storage decides whether it takes a property. -/
structure Setting where
  name : String
  value : String
  stored : Bool
  deriving DecidableEq

/-- These calls are made one after the other, and all of them succeed. -/
def setProperties (world : World State) : List Setting → Option (World State)
  | [] => some world
  | setting :: rest =>
      let result := bCorePropertyProviderSetProperty iface lib world (some setting.name) setting.value setting.stored
      if result.done then setProperties result.world rest else none

end Provider
end Barton.PropertyProvider
