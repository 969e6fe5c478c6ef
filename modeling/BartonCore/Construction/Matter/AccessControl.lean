/-
This file contains the access control list of the Matter subsystem.
A result `none` marks an access through a NULL pointer.
-/

import Mathlib.Logic.Function.Basic
import Mathlib.Tactic
import BartonCore.ToMathlib.Runs

namespace Barton.AccessControl

/-- These are the sizes of the arrays, the constants of the SDK, and how its objects change their delegates. -/
structure Config where
  /-- `kNumberOfFabrics * kEntriesPerFabric` -/
  maxEntries : Nat
  entryStoragePoolSize : Nat
  entryDelegatePoolSize : Nat
  entryIteratorDelegatePoolSize : Nat
  maxSubjects : Nat
  maxTargets : Nat
  undefinedFabricIndex : UInt8
  undefinedNodeId : UInt64
  kPase : UInt8
  kView : UInt8
  /-- `SetDelegate` and `ResetDelegate` of an object: from the delegate that it has and the new one, the delegates that
  are released and the one that it has then -/
  setDelegate : Option Nat → Option Nat → List Nat × Option Nat
  /-- the object releases the delegate that it had -/
  setDelegate_eq : ∀ old new, setDelegate old new = (old.toList, new)

/-- An empty target has neither a cluster nor an endpoint or a device type. -/
structure TargetStorage where
  cluster : UInt32
  deviceType : UInt32
  deriving DecidableEq

def TargetStorage.cleared : TargetStorage := ⟨0xFFFFFFFF, 0xFFFFFFFF⟩

/-- These are the fields of an entry. -/
structure Content where
  fabricIndex : UInt8
  authMode : UInt8
  privilege : UInt8
  subjects : List UInt64
  targets : List TargetStorage
  deriving DecidableEq

/-- This is `EntryStorage`. -/
structure EntryStorage where
  inUse : Bool
  content : Content
  deriving DecidableEq

/-- This is the state after `Clear`. -/
def EntryStorage.cleared (config : Config) : EntryStorage where
  inUse := false
  content := {
    fabricIndex := config.undefinedFabricIndex
    authMode := config.kPase
    privilege := config.kView
    subjects := List.replicate config.maxSubjects config.undefinedNodeId
    targets := List.replicate config.maxTargets TargetStorage.cleared }

/-- `Init` clears an unused storage. -/
def EntryStorage.init (config : Config) (storage : EntryStorage) : EntryStorage :=
  if storage.inUse then storage else { EntryStorage.cleared config with inUse := true }

/-- A pointer leads into the array `acl` or into the pool. -/
inductive StoragePointer where
  | acl (index : Nat)
  | pool (index : Nat)
  deriving DecidableEq

/-- A delegate is in use while its storage is not NULL. -/
structure EntryDelegate where
  entry : Nat
  storage : Option StoragePointer
  deriving DecidableEq

/-- The storage is NULL before the first step and the end of the array after the last one. -/
structure EntryIteratorDelegate where
  inUse : Bool
  fabric : Option UInt8
  storage : Option Nat
  deriving DecidableEq

/-- The pools are functions of the index. An `Entry` or `EntryIterator` of the SDK holds the index of its pool
delegate, or it has a delegate of its own. -/
structure State where
  acl : List EntryStorage
  pool : Nat → EntryStorage
  delegates : Nat → EntryDelegate
  iteratorDelegates : Nat → EntryIteratorDelegate
  entries : Nat → Option Nat
  iterators : Nat → Option Nat

/-- `Init` clears the array, and nothing is in use. -/
def State.init (config : Config) : State where
  acl := List.replicate config.maxEntries (EntryStorage.cleared config)
  pool := fun _ => EntryStorage.cleared config
  delegates := fun _ => ⟨0, none⟩
  iteratorDelegates := fun _ => ⟨false, none, none⟩
  entries := fun _ => none
  iterators := fun _ => none

inductive ChipError where
  | noError
  | sentinel
  | bufferTooSmall
  /-- The delegate of the object is not one of the pool. -/
  | interface
  deriving DecidableEq

/-- A creation also returns the index and the fabric of the new entry. -/
structure Outcome where
  error : ChipError
  index : Option Nat
  fabricIndex : Option UInt8
  deriving DecidableEq

def Outcome.of (error : ChipError) : Outcome := ⟨error, none, none⟩

section Storages

def findUnusedInAcl (acl : List EntryStorage) : Option Nat :=
  acl.findIdx? fun storage => !storage.inUse

inductive ConvertDirection where
  | absoluteToRelative
  | relativeToAbsolute
  deriving DecidableEq

/-- The loop counts all entries and the entries of the fabric. -/
def convertLoop (index : Nat) (fabric : UInt8) (direction : ConvertDirection) (absolute relative : Nat) :
    List EntryStorage → Option Nat
  | [] => none
  | storage :: rest =>
      if !storage.inUse then none
      else if storage.content.fabricIndex = fabric then
        match direction with
        | .absoluteToRelative =>
            if index = absolute then some relative
            else convertLoop index fabric direction (absolute + 1) (relative + 1) rest
        | .relativeToAbsolute =>
            if index = relative then some absolute
            else convertLoop index fabric direction (absolute + 1) (relative + 1) rest
      else convertLoop index fabric direction (absolute + 1) relative rest

/-- A failure is the index one past the end. -/
def convertIndex (acl : List EntryStorage) (index : Nat) (fabric : UInt8) (direction : ConvertDirection) : Nat :=
  (convertLoop index fabric direction 0 0 acl).getD acl.length

def findUsedInAcl (acl : List EntryStorage) (index : Nat) (fabric : Option UInt8) : Option Nat :=
  let absolute := match fabric with
    | none => index
    | some fabric => convertIndex acl index fabric .relativeToAbsolute
  match acl[absolute]? with
  | none => none
  | some storage => if storage.inUse then some absolute else none

variable (config : Config)

/-- A storage of the pool is preferred. -/
def findStorage (state : State) : Option StoragePointer → Option Nat
  | some (.pool index) => some index
  | _ => (List.range config.entryStoragePoolSize).find? fun index => !(state.pool index).inUse

/-- The delegate of the entry is preferred when it is in the pool. -/
def findDelegate (state : State) (entry : Nat) : Option Nat :=
  match state.entries entry with
  | some delegate => some delegate
  | none => (List.range config.entryDelegatePoolSize).find? fun delegate =>
      (state.delegates delegate).storage.isNone

def findIteratorDelegate (state : State) (iterator : Nat) : Option Nat :=
  match state.iterators iterator with
  | some delegate => some delegate
  | none => (List.range config.entryIteratorDelegatePoolSize).find? fun delegate =>
      !(state.iteratorDelegates delegate).inUse

/-- This lookup follows a pointer. -/
def State.storageAt (state : State) : StoragePointer → Option EntryStorage
  | .acl index => state.acl[index]?
  | .pool index => some (state.pool index)

/-- This update writes through a pointer. -/
def State.setStorage (state : State) (storage : EntryStorage) : StoragePointer → State
  | .acl index => { state with acl := state.acl.set index storage }
  | .pool index => { state with pool := Function.update state.pool index storage }

end Storages

section Delegates
variable (config : Config)

/-- `Release` gives a storage of the pool back. -/
def releaseDelegate (state : State) (delegate : Nat) : Option State :=
  (state.delegates delegate).storage.map fun pointer =>
    { state with
      pool := match pointer with
        | .acl _ => state.pool
        | .pool index => Function.update state.pool index { state.pool index with inUse := false }
      delegates := Function.update state.delegates delegate
        { state.delegates delegate with storage := none } }

/-- The SDK calls `Release` of a delegate before it changes the entry. -/
def setDelegate (state : State) (entry : Nat) (delegate : Option Nat) : Option State :=
  let set := config.setDelegate (state.entries entry) delegate
  (set.1.foldlM releaseDelegate state).map fun released =>
    { released with entries := Function.update released.entries entry set.2 }

/-- This is `EntryDelegate::Init`. -/
def initDelegate (state : State) (delegate entry : Nat) (pointer : StoragePointer) : Option State :=
  (setDelegate config state entry (some delegate)).bind fun set =>
    (set.storageAt pointer).map fun storage =>
      let initialized := set.setStorage (storage.init config) pointer
      { initialized with
        delegates := Function.update initialized.delegates delegate ⟨entry, some pointer⟩ }

/-- A storage of the array is copied to the pool. -/
def ensureStorageInPool (state : State) (delegate : Nat) : Option (ChipError × State) :=
  match (state.delegates delegate).storage with
  | none => none
  | some (.pool _) => some (.noError, state)
  | some (.acl index) =>
      match findStorage config state none with
      | none => some (.bufferTooSmall, state)
      | some free => state.acl[index]?.map fun storage =>
          (.noError, { state with
            pool := Function.update state.pool free storage
            delegates := Function.update state.delegates delegate
              { state.delegates delegate with storage := some (.pool free) } })

/-- A failure to copy is ignored. -/
def fixBeforeDelete (storage : Nat) (state : State) (delegate : Nat) : Option State :=
  if (state.delegates delegate).storage = some (.acl storage) then
    (ensureStorageInPool config state delegate).map Prod.snd
  else some state

/-- The pools are apart from the array, so only pointers into the array are compared. -/
def fixAfterDelete (storage : Nat) (state : State) (delegate : Nat) : Option State :=
  match (state.delegates delegate).storage with
  | some (.acl index) =>
      if index = storage then setDelegate config state (state.delegates delegate).entry none
      else if storage < index then
        some { state with
          delegates := Function.update state.delegates delegate
            { state.delegates delegate with storage := some (.acl (index - 1)) } }
      else some state
  | _ => some state

/-- An iterator before the end steps back when it stands at the storage or behind it. -/
def EntryIteratorDelegate.fixAfterDelete (size storage : Nat) (delegate : EntryIteratorDelegate) :
    EntryIteratorDelegate :=
  match delegate.storage with
  | none => delegate
  | some position =>
      if storage ≤ position ∧ position < size then
        { delegate with storage := if position = 0 then none else some (position - 1) }
      else delegate

/-- The loop of `Next` stops at the first unused storage and skips the entries of other fabrics. -/
def scan (fabric : Option UInt8) (position : Nat) : List EntryStorage → Option Nat
  | [] => none
  | storage :: rest =>
      if !storage.inUse then none
      else if fabric.any fun fabric => fabric != storage.content.fabricIndex then
        scan fabric (position + 1) rest
      else some position

/-- This is the storage that `Next` arrives at. -/
def nextPosition (acl : List EntryStorage) (delegate : EntryIteratorDelegate) : Option Nat :=
  let start := match delegate.storage with
    | none => 0
    | some position => if position < acl.length then position + 1 else position
  scan delegate.fabric start (acl.drop start)

end Delegates

section Operations
variable (config : Config)

/-- The copy of a pool delegate copies its whole storage. Any other delegate is read through its interface, and
`outside` is what it delivers. -/
def copy (state : State) (entry : Nat) (outside : Option Content) : Option (Option EntryStorage) :=
  match state.entries entry with
  | some delegate => ((state.delegates delegate).storage.bind state.storageAt).map some
  | none => some (outside.map fun content => ⟨true, content⟩)

def prepareEntry (state : State) (entry : Nat) : Option (Outcome × State) :=
  match findDelegate config state entry with
  | none => some (Outcome.of .bufferTooSmall, state)
  | some delegate =>
      match findStorage config state (state.delegates delegate).storage with
      | none => some (Outcome.of .bufferTooSmall, state)
      | some storage => (initDelegate config state delegate entry (.pool storage)).map fun next =>
          (Outcome.of .noError, next)

/-- Every setter of an entry changes a storage of the pool. -/
def setField (state : State) (entry : Nat) (change : Content → Content) : Option (Outcome × State) :=
  match state.entries entry with
  | none => some (Outcome.of .interface, state)
  | some delegate => (ensureStorageInPool config state delegate).bind fun ensured =>
      if ensured.1 = .noError then
        (ensured.2.delegates delegate).storage.bind fun pointer =>
          (ensured.2.storageAt pointer).map fun storage =>
            (Outcome.of .noError,
              ensured.2.setStorage { storage with content := change storage.content } pointer)
      else some (Outcome.of ensured.1, ensured.2)

/-- The index is relative to the fabric when the caller asks for the fabric. -/
def createEntry (state : State) (entry : Nat) (outside : Option Content) (relative : Bool) :
    Option (Outcome × State) :=
  match findUnusedInAcl state.acl with
  | none => some (Outcome.of .bufferTooSmall, state)
  | some free => (copy state entry outside).map fun
      | none => (Outcome.of .interface, state)
      | some storage =>
          let acl := state.acl.set free storage
          let fabric := storage.content.fabricIndex
          (if relative then
            ⟨.noError, some (convertIndex acl free fabric .absoluteToRelative), some fabric⟩
          else ⟨.noError, some free, none⟩, { state with acl })

def readEntry (state : State) (index entry : Nat) (fabric : Option UInt8) : Option (Outcome × State) :=
  match findUsedInAcl state.acl index fabric with
  | none => some (Outcome.of .sentinel, state)
  | some storage =>
      match findDelegate config state entry with
      | none => some (Outcome.of .bufferTooSmall, state)
      | some delegate => (initDelegate config state delegate entry (.acl storage)).map fun next =>
          (Outcome.of .noError, next)

def updateEntry (state : State) (index entry : Nat) (outside : Option Content) (fabric : Option UInt8) :
    Option (Outcome × State) :=
  match findUsedInAcl state.acl index fabric with
  | none => some (Outcome.of .sentinel, state)
  | some position => (copy state entry outside).map fun
      | none => (Outcome.of .interface, state)
      | some storage => (Outcome.of .noError, { state with acl := state.acl.set position storage })

/-- Each storage takes over the next one, and the last used one is cleared. -/
def shiftDown : List EntryStorage → List EntryStorage
  | [] => []
  | [_] => [EntryStorage.cleared config]
  | _ :: next :: rest =>
      if next.inUse then next :: shiftDown (next :: rest)
      else EntryStorage.cleared config :: next :: rest

/-- The delegates are fixed at the position `index`, whether it is absolute or relative to the fabric. -/
def deleteEntry (state : State) (index : Nat) (fabric : Option UInt8) : Option (Outcome × State) :=
  match findUsedInAcl state.acl index fabric with
  | none => some (Outcome.of .sentinel, state)
  | some storage =>
      ((List.range config.entryDelegatePoolSize).foldlM (fixBeforeDelete config storage) state).bind fun saved =>
        let shifted := { saved with
          acl := saved.acl.take storage ++ shiftDown config (saved.acl.drop storage) }
        ((List.range config.entryDelegatePoolSize).foldlM (fixAfterDelete config index) shifted).map fun fixed =>
          (Outcome.of .noError, { fixed with
            iteratorDelegates := fun delegate =>
              if delegate < config.entryIteratorDelegatePoolSize then
                (fixed.iteratorDelegates delegate).fixAfterDelete fixed.acl.length index
              else fixed.iteratorDelegates delegate })

/-- This is `EntryIteratorDelegate::Release`. -/
def releaseIterator (state : State) (delegate : Nat) : State :=
  { state with
    iteratorDelegates := Function.update state.iteratorDelegates delegate
      { state.iteratorDelegates delegate with inUse := false } }

/-- The SDK calls `Release` of a delegate before it changes the iterator. -/
def setIteratorDelegate (state : State) (iterator : Nat) (delegate : Option Nat) : State :=
  let set := config.setDelegate (state.iterators iterator) delegate
  let released := set.1.foldl releaseIterator state
  { released with iterators := Function.update released.iterators iterator set.2 }

/-- This is `AccessControlDelegate::Entries`. -/
def startIterator (state : State) (iterator : Nat) (fabric : Option UInt8) : Outcome × State :=
  match findIteratorDelegate config state iterator with
  | none => (Outcome.of .bufferTooSmall, state)
  | some delegate =>
      let set := setIteratorDelegate config state iterator (some delegate)
      (Outcome.of .noError, { set with
        iteratorDelegates := Function.update set.iteratorDelegates delegate ⟨true, fabric, none⟩ })

def resetIterator (state : State) (iterator : Nat) : State := setIteratorDelegate config state iterator none

/-- The iterator moves to a storage. -/
def State.moveIterator (state : State) (delegate position : Nat) : State :=
  { state with
    iteratorDelegates := Function.update state.iteratorDelegates delegate
      { state.iteratorDelegates delegate with storage := some position } }

/-- The iterator moves before a delegate for the entry is found. -/
def nextEntry (state : State) (iterator entry : Nat) : Option (Outcome × State) :=
  match state.iterators iterator with
  | none => some (Outcome.of .interface, state)
  | some delegate =>
      match nextPosition state.acl (state.iteratorDelegates delegate) with
      | none => some (Outcome.of .sentinel, state.moveIterator delegate state.acl.length)
      | some position =>
          let moved := state.moveIterator delegate position
          match findDelegate config moved entry with
          | none => some (Outcome.of .bufferTooSmall, moved)
          | some found => (initDelegate config moved found entry (.acl position)).map fun next =>
              (Outcome.of .noError, next)

/-- The numbers of entries and iterators name objects of the callers. -/
inductive Call where
  | prepareEntry (entry : Nat)
  | setField (entry : Nat) (change : Content → Content)
  | createEntry (entry : Nat) (outside : Option Content) (relative : Bool)
  | readEntry (index entry : Nat) (fabric : Option UInt8)
  | updateEntry (index entry : Nat) (outside : Option Content) (fabric : Option UInt8)
  | deleteEntry (index : Nat) (fabric : Option UInt8)
  | resetEntry (entry : Nat)
  | startIterator (iterator : Nat) (fabric : Option UInt8)
  | nextEntry (iterator entry : Nat)
  | resetIterator (iterator : Nat)

def perform (state : State) : Call → Option (Outcome × State)
  | .prepareEntry entry => prepareEntry config state entry
  | .setField entry change => setField config state entry change
  | .createEntry entry outside relative => createEntry state entry outside relative
  | .readEntry index entry fabric => readEntry config state index entry fabric
  | .updateEntry index entry outside fabric => updateEntry state index entry outside fabric
  | .deleteEntry index fabric => deleteEntry config state index fabric
  | .resetEntry entry => (setDelegate config state entry none).map fun next => (Outcome.of .noError, next)
  | .startIterator iterator fabric => some (startIterator config state iterator fabric)
  | .nextEntry iterator entry => nextEntry config state iterator entry
  | .resetIterator iterator => some (Outcome.of .noError, resetIterator config state iterator)

end Operations

end Barton.AccessControl
