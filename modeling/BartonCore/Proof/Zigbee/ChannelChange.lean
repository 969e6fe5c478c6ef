import BartonCore.Construction.Zigbee.ChannelChange

namespace Barton.ChannelChange
open Runs

section Laws

/-- A channel is recorded only while an accepted change waits, or while the radio is asked. One change waits at most. -/
structure Booked (state : State) : Prop where
  recorded : state.previousChannelProperty ≠ "" →
    state.waiting ≠ [] ∨ ∃ previous channel, state.holder = .changing previous channel
  single : state.waiting.length ≤ 1

/-- A request made while a change waits is answered so. -/
def Answered (state : State) (event : Event) (output : Output) : Prop :=
  ∀ request, event = .request request → state.waiting ≠ [] → output = .response ⟨0, .inProgress⟩

/-- The watchdog of a change reverts to the channel in use just before the change. -/
def Reverted (state : State) (output : Output) : Prop :=
  ∀ change channel, output = .reverted change channel →
    ∃ target, state.changes[change]? = some ⟨channel, target⟩

/-- The previous channel is recorded, and the radio has not answered. -/
def Holder.isChanging : Holder → Bool
  | .changing _ _ => true
  | _ => false

/-- The radio accepts. While a change waits, a request is made in the process that accepted the change and is not denied.
No restart comes between the record and the answer of the radio. A starting subsystem reads no channel that its own
process has recorded. -/
def Allowed (state : State) : Event → Prop
  | .request request => state.waiting ≠ [] →
      state.isChannelChangeInProgress = true ∧ request.enabled = true ∧ request.panelDenies = false
  | .radioAnswers accepts => accepts = true
  | .restart => state.holder.isChanging = false
  | .readsProperty =>
      state.previousChannelProperty = "" ∨ state.holder = .free ∧ state.isChannelChangeInProgress = false
  | _ => True

instance decidableAllowed (state : State) : (event : Event) → Decidable (Allowed state event)
  | .request _ => inferInstanceAs (Decidable (_ → _))
  | .radioAnswers _ => inferInstanceAs (Decidable (_ = _))
  | .restart => inferInstanceAs (Decidable (_ = _))
  | .readsProperty => inferInstanceAs (Decidable (_ ∨ _))
  | .startsWatchdog _ _ => isTrue trivial
  | .watchdogTask _ _ _ => isTrue trivial
  | .radioReverts _ => isTrue trivial
  | .clearsProperty => isTrue trivial
  | .endsChange => isTrue trivial
  | .resumes _ _ _ => isTrue trivial

end Laws

section Invariant

/-- The last accepted change waits, and the channel before it is recorded. -/
structure Waits (state : State) (before : UInt8) : Prop where
  last : ∃ channel, state.changes[state.changes.length - 1]? = some ⟨before, channel⟩
  waiting : state.waiting = [state.changes.length - 1]
  recorded : state.previousChannelProperty = toString before.toNat

/-- No change waits and no channel is recorded. -/
structure Rests (state : State) : Prop where
  waiting : state.waiting = []
  recorded : state.previousChannelProperty = ""

/-- No watchdog is scheduled or about to be. -/
structure Alone (state : State) : Prop where
  tasks : state.tasks = []
  startup : ∀ previousChannel, state.startup ≠ .resuming previousChannel

/-- Each step of the calls has its own bookkeeping. -/
inductive Sound (state : State) : Prop where
  | resting (holder : state.holder = .free) (rests : Rests state) (alone : Alone state)
      (idle : state.isChannelChangeInProgress = false)
  | waiting (before : UInt8) (holder : state.holder = .free) (waits : Waits state before)
      (single : state.tasks.length ≤ 1) (own : ∀ myArg ∈ state.tasks, myArg.change = state.changes.length - 1)
      (restarted : state.isChannelChangeInProgress = false → state.startup ≠ .started → state.tasks = [])
      (resuming : ∀ previousChannel, state.startup = .resuming previousChannel →
        state.isChannelChangeInProgress = false)
  | changing (previous channel : UInt8) (holder : state.holder = .changing previous channel)
      (waiting : state.waiting = []) (recorded : state.previousChannelProperty = toString previous.toNat)
      (radio : state.radioChannel = previous) (alone : Alone state)
  | accepted (previous channel : UInt8) (holder : state.holder = .accepted previous channel)
      (waits : Waits state previous) (alone : Alone state)
  | reverting (myArg : ChannelChangeDeviceWatchdogArg) (previousChannel : UInt8)
      (holder : state.holder = .reverting myArg previousChannel) (waits : Waits state previousChannel)
      (own : myArg.change = state.changes.length - 1) (alone : Alone state)
  | clearing (myArg : ChannelChangeDeviceWatchdogArg) (fallsBack : Bool) (previousChannel before : UInt8)
      (holder : state.holder = .clearing myArg fallsBack previousChannel) (waits : Waits state before)
      (own : myArg.change = state.changes.length - 1) (alone : Alone state)
  | ending (myArg : ChannelChangeDeviceWatchdogArg) (fallsBack : Bool) (previousChannel : UInt8)
      (holder : state.holder = .ending myArg fallsBack previousChannel) (rests : Rests state) (alone : Alone state)

theorem Waits.waiting_ne {state : State} {before : UInt8} (waits : Waits state before) : state.waiting ≠ [] := by
  rw [waits.waiting]
  exact List.cons_ne_nil _ _

theorem Sound.booked {state : State} (sound : Sound state) : Booked state := by
  cases sound with
  | resting holder rests | ending myArg fallsBack previousChannel holder rests =>
      exact ⟨fun nonempty => absurd rests.recorded nonempty, by rw [rests.waiting]; exact Nat.zero_le _⟩
  | waiting before holder waits | accepted previous channel holder waits
  | reverting myArg previousChannel holder waits | clearing myArg fallsBack previousChannel before holder waits =>
      exact ⟨fun _ => .inl waits.waiting_ne, by rw [waits.waiting]; exact Nat.le_refl _⟩
  | changing previous channel holder waiting recorded radio alone =>
      exact ⟨fun _ => .inr ⟨previous, channel, holder⟩, by rw [waiting]; exact Nat.zero_le _⟩

end Invariant

section Steps
variable {stringToUint8 : String → Option UInt8} {state after : State} {output : Output}

/-- A request is answered and changes nothing, or it records the channel of the radio. -/
inductive Requested (state : State) : State × Output → Prop
  | answered (answer : ChannelChangeResponse) : Requested state (state, .response answer)
  | recorded (channel : UInt8) : Requested state ({ state with
      previousChannelProperty := toString state.radioChannel.toNat
      holder := .changing state.radioChannel channel }, .silent)

theorem changeChannel_requested (request : Request) (state : State) :
    Requested state (changeChannel request state) := by
  unfold changeChannel
  extract_lets respond channel
  clear_value channel
  repeat' split
  all_goals first
    | exact .answered _
    | exact .recorded channel

/-- A waiting change outlives a restart. -/
theorem Waits.restart {before : UInt8} (waits : Waits state before) : Sound (restart state) :=
  .waiting before rfl ⟨waits.last, waits.waiting, waits.recorded⟩ (Nat.zero_le _) (by rintro myArg ⟨⟩)
    (fun _ _ => rfl) (fun _ _ => rfl)

theorem Rests.restart (rests : Rests state) : Sound (restart state) :=
  .resting rfl ⟨rests.waiting, rests.recorded⟩ ⟨rfl, by rintro previousChannel ⟨⟩⟩ rfl

/-- Only the watchdog sends the command to change back. -/
theorem holder_of_reverted {event : Event} {change : Nat} {channel : UInt8}
    (stepped : step stringToUint8 state event = some (after, .reverted change channel)) :
    ∃ myArg, state.holder = .reverting myArg channel ∧ myArg.change = change := by
  cases event with
  | request request =>
      rw [step] at stepped
      split at stepped
      · injection stepped with same
        have requested := changeChannel_requested request state
        rw [same] at requested
        cases requested
      · cases stepped
  | radioReverts accepts =>
      rw [step, radioReverts] at stepped
      split at stepped
      · next myArg previousChannel holder =>
          cases stepped
          exact ⟨myArg, holder, rfl⟩
      · cases stepped
  | radioAnswers accepts =>
      rw [step, radioAnswers] at stepped
      split at stepped
      · split at stepped <;> cases stepped
      · cases stepped
  | startsWatchdog devices minutes =>
      rw [step, startsWatchdog] at stepped
      split at stepped <;> cases stepped
  | watchdogTask task now devices =>
      rw [step, watchdogTask] at stepped
      split at stepped
      · dsimp only at stepped
        split at stepped
        · split at stepped <;> cases stepped
        · cases stepped
      · cases stepped
  | clearsProperty =>
      rw [step, clearsProperty] at stepped
      split at stepped <;> cases stepped
  | endsChange =>
      rw [step, endsChange] at stepped
      split at stepped <;> cases stepped
  | restart => cases stepped
  | readsProperty =>
      rw [step, readsProperty] at stepped
      split at stepped
      · split at stepped <;> cases stepped
      · cases stepped
  | resumes status devices minutes =>
      rw [step, resumes] at stepped
      split at stepped
      · dsimp only at stepped
        split at stepped <;> cases stepped
      · cases stepped

/-- The watchdog reverts to the channel in use before its change. -/
theorem Sound.reverted {event : Event} (sound : Sound state)
    (stepped : step stringToUint8 state event = some (after, output)) : Reverted state output := by
  rintro change channel rfl
  obtain ⟨myArg, reverting, rfl⟩ := holder_of_reverted stepped
  cases sound with
  | reverting other previousChannel holder waits own alone =>
      rw [holder] at reverting
      cases reverting
      rw [own]
      exact waits.last
  | resting | waiting | changing | accepted | clearing | ending =>
      rw [‹state.holder = _›] at reverting
      cases reverting

end Steps

section Runs
variable {stringToUint8 : String → Option UInt8}

end Runs

section Samples

end Samples
end Barton.ChannelChange
