/-
This file contains the threads that change the comm fail flag under the lock and deliver the callbacks after
the lock is released.
-/

import BartonCore.Construction.CommFail.Watchdog

namespace Barton.CommFail

/-- The device of a callback. -/
def Callback.uuid : Callback → String
  | .failed uuid => uuid
  | .restored uuid => uuid

/-- The comm fail state that a callback reports. -/
def Callback.reports : Callback → Bool
  | .failed _ => true
  | .restored _ => false

/-- The watchdog and the callbacks that were delivered so far. -/
structure Service where
  watchdog : Watchdog
  delivered : List Callback

/-- A call is before its critical section, or it delivers the callbacks that the section decided. -/
inductive Party where
  | pet (uuid : Option String)
  | force (uuid : Option String)
  | check
  | delivering (callbacks : List Callback)
  deriving DecidableEq

/-- Each critical section and each callback is one move. -/
def move (service : Service) (party : Party) (now : UInt64) : Option (Service × Party) :=
  match party with
  | .pet uuid =>
      let petted := petDevice service.watchdog now uuid
      some ({ service with watchdog := petted.1 }, .delivering petted.2.1)
  | .force uuid =>
      let forced := forceDeviceInCommFail service.watchdog uuid
      some ({ service with watchdog := forced.1 }, .delivering forced.2)
  | .check =>
      let checked := checkDevices service.watchdog now
      some ({ service with watchdog := checked.1 }, .delivering checked.2)
  | .delivering (callback :: rest) =>
      some ({ service with delivered := service.delivered ++ [callback] }, .delivering rest)
  | .delivering [] => none

/-- A run interleaves the calls, and each input names a thread and the time. -/
def serve (start : Threads.Configuration Service Party) (schedule : List (Nat × UInt64)) :
    Option (Threads.Configuration Service Party) :=
  Threads.run move start schedule

end Barton.CommFail
