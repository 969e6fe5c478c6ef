import BartonCore.Construction.Zigbee.Events

namespace Barton.ZigbeeEvents
open Threads

section Repeats

/-- The APS sequence number of a command. -/
def Event.apsSeqNum : Event → Option UInt8
  | .clusterCommandReceived event => some (toUInt8 event.apsSeqNum)
  | .attributeReport _ => none

/-- The number of the last command. -/
def lastApsSeqNum (preceding : Option UInt8) : List Event → Option UInt8
  | [] => preceding
  | event :: rest => lastApsSeqNum (event.apsSeqNum.or preceding) rest

/-- The command has the number of the preceding command. -/
def Event.repeats (preceding : Option UInt8) (event : Event) : Bool :=
  event.apsSeqNum.isSome && event.apsSeqNum = preceding

/-- Each command is dropped that has the number of the command right before it. -/
def withoutRepeats (preceding : Option UInt8) : List Event → List Event
  | [] => []
  | event :: rest =>
      if event.repeats preceding then withoutRepeats (event.apsSeqNum.or preceding) rest
      else event :: withoutRepeats (event.apsSeqNum.or preceding) rest

theorem withoutRepeats_append (preceding : Option UInt8) (first second : List Event) :
    withoutRepeats preceding (first ++ second) =
      withoutRepeats preceding first ++ withoutRepeats (lastApsSeqNum preceding first) second := by
  induction first generalizing preceding with
  | nil => rfl
  | cons event rest ih =>
      rw [List.cons_append, withoutRepeats, withoutRepeats, lastApsSeqNum, ih]
      split
      · rfl
      · rfl

theorem lastApsSeqNum_append (preceding : Option UInt8) (first second : List Event) :
    lastApsSeqNum preceding (first ++ second) = lastApsSeqNum (lastApsSeqNum preceding first) second := by
  induction first generalizing preceding with
  | nil => rfl
  | cons event rest ih => exact ih _

end Repeats

section Points

def Handler.event : Handler → Event
  | .created event => event
  | .invoking event => event
  | .returned event => event

def Handler.isCreated : Handler → Bool
  | .created _ => true
  | _ => false

def Handler.isInvoking : Handler → Bool
  | .invoking _ => true
  | _ => false

def Handler.isReturned : Handler → Bool
  | .returned _ => true
  | _ => false

/-- The threads of one device. -/
def ofDevice (eui64 : UInt64) (threads : List Handler) : List Handler :=
  threads.filter fun handler => handler.event.eui64 = eui64

/-- The calls of callbacks for one device. -/
def forDevice (eui64 : UInt64) (delivered : List Callback) : List Callback :=
  delivered.filter fun callback => callback.eui64 = eui64

/-- The events that the threads have begun to handle. -/
def begun (threads : List Handler) : List Event :=
  (threads.filter fun handler => !handler.isCreated).map Handler.event

/-- The events that the threads are about to pass on. -/
def invoking (threads : List Handler) : List Event :=
  (threads.filter Handler.isInvoking).map Handler.event

end Points

/-- A thread begins only when the threads of the earlier datagrams of its device have returned. -/
def inTurn (current : Configuration Shared Handler) (input : Nat × Unit) : Bool :=
  match current.threads[input.1]? with
  | some (.created event) => (ofDevice event.eui64 (current.threads.take input.1)).all Handler.isReturned
  | _ => true

section Turns

/-- The threads of a device return in order, and the callbacks follow the events that they have begun. -/
structure Ordered (shared : Shared) (eui64 : UInt64) (threads : List Handler) : Prop where
  turns : threads.Pairwise fun earlier later => earlier.isReturned = true ∨ later.isCreated = true
  delivered : forDevice eui64 shared.delivered ++ (invoking threads).map Event.callback =
    (withoutRepeats none (begun threads)).map Event.callback
  last : shared.lastApsSeqNums eui64 = lastApsSeqNum none (begun threads)

variable {shared next : Shared} {eui64 : UInt64}
  {before after : List Handler} {threads : List Handler} {handler : Handler}

theorem begun_created (created : ∀ handler ∈ threads, handler.isCreated = true) : begun threads = [] := by
  unfold begun
  rw [List.filter_eq_nil_iff.mpr (fun handler member => by simp [created handler member])]
  rfl

theorem begun_returned (returned : ∀ handler ∈ threads, handler.isReturned = true) :
    begun threads = threads.map Handler.event := by
  unfold begun
  rw [List.filter_eq_self.mpr]
  intro handler member
  have done := returned handler member
  cases handler <;> first | rfl | cases done

theorem invoking_returned (returned : ∀ handler ∈ threads, handler.isReturned = true) : invoking threads = [] := by
  unfold invoking
  rw [List.filter_eq_nil_iff.mpr]
  · rfl
  · intro handler member
    have done := returned handler member
    cases handler with
    | returned event => exact nofun
    | created | invoking => cases done

theorem invoking_created (created : ∀ handler ∈ threads, handler.isCreated = true) : invoking threads = [] := by
  unfold invoking
  rw [List.filter_eq_nil_iff.mpr]
  · rfl
  · intro handler member
    have start := created handler member
    cases handler with
    | created event => exact nofun
    | invoking | returned => cases start

theorem begun_append (first second : List Handler) : begun (first ++ second) = begun first ++ begun second := by
  unfold begun
  rw [List.filter_append, List.map_append]

theorem invoking_append (first second : List Handler) :
    invoking (first ++ second) = invoking first ++ invoking second := by
  unfold invoking
  rw [List.filter_append, List.map_append]

/-- The thread in the middle has begun, the earlier ones have returned and the later ones have not begun. -/
theorem begun_middle
    (returned : ∀ other ∈ before, other.isReturned = true) (created : ∀ other ∈ after, other.isCreated = true) :
    begun (before ++ handler :: after) = before.map Handler.event ++ begun [handler] ∧
      invoking (before ++ handler :: after) = invoking [handler] := by
  rw [List.append_cons, begun_append, begun_append, begun_returned returned, begun_created created,
    invoking_append, invoking_append, invoking_returned returned, invoking_created created]
  simp

/-- The turns after the thread in the middle has moved on. -/
theorem turns_middle
    (returned : ∀ other ∈ before, other.isReturned = true) (created : ∀ other ∈ after, other.isCreated = true) :
    (before ++ handler :: after).Pairwise fun earlier later =>
      earlier.isReturned = true ∨ later.isCreated = true := by
  refine List.pairwise_append.mpr ⟨?_, ?_, ?_⟩
  · exact List.pairwise_of_forall_mem_list fun earlier member _ _ => Or.inl (returned earlier member)
  · refine List.pairwise_cons.mpr ⟨fun later member => Or.inr (created later member), ?_⟩
    exact List.pairwise_of_forall_mem_list fun _ _ later member => Or.inr (created later member)
  · exact fun earlier member later _ => Or.inl (returned earlier member)

theorem Ordered.created_after
    (ordered : Ordered shared eui64 (before ++ handler :: after)) (running : handler.isReturned = false) :
    ∀ other ∈ after, other.isCreated = true := by
  intro other member
  have later := (List.pairwise_cons.mp (List.pairwise_append.mp ordered.turns).2.1).1 other member
  rw [running] at later
  exact later.resolve_left nofun

theorem Ordered.returned_before
    (ordered : Ordered shared eui64 (before ++ handler :: after)) (begins : handler.isCreated = false) :
    ∀ other ∈ before, other.isReturned = true := by
  intro other member
  have earlier := (List.pairwise_append.mp ordered.turns).2.2 other member handler List.mem_cons_self
  rw [begins] at earlier
  exact earlier.resolve_right nofun

/-- The number of a command is stored. -/
def Shared.note (shared : Shared) (event : Event) : Shared :=
  let noted := event.apsSeqNum.or (shared.lastApsSeqNums event.eui64)
  { shared with lastApsSeqNums := Function.update shared.lastApsSeqNums event.eui64 noted }

/-- The thread of a dropped command returns at once. -/
def Event.begins (preceding : Option UInt8) (event : Event) : Handler :=
  if event.repeats preceding then .returned event else .invoking event

theorem move_created (shared : Shared) (event : Event) :
    move shared (.created event) () =
      some (shared.note event, event.begins (shared.lastApsSeqNums event.eui64)) := by
  cases event with
  | attributeReport report =>
      simp [move, Shared.note, Event.begins, Event.repeats, Event.apsSeqNum, Event.eui64]
  | clusterCommandReceived command =>
      by_cases same : shared.lastApsSeqNums command.eui64 = some (toUInt8 command.apsSeqNum)
      · have kept : Function.update shared.lastApsSeqNums command.eui64 (some (toUInt8 command.apsSeqNum)) =
            shared.lastApsSeqNums := by
          rw [← same, Function.update_eq_self]
        simp [move, Shared.note, isDuplicateApsSequenceNumber, Event.begins, Event.repeats, Event.apsSeqNum,
          Event.eui64, same, kept]
      · simp [move, Shared.note, isDuplicateApsSequenceNumber, Event.begins, Event.repeats, Event.apsSeqNum,
          Event.eui64, same, Ne.symm same]

/-- The handling of one event begins. -/
theorem Ordered.begin {event : Event} (ordered : Ordered shared event.eui64 (before ++ .created event :: after))
    (returned : ∀ other ∈ before, other.isReturned = true) :
    Ordered (shared.note event) event.eui64
      (before ++ event.begins (shared.lastApsSeqNums event.eui64) :: after) := by
  have created := ordered.created_after rfl
  have delivered := ordered.delivered
  have last := ordered.last
  rw [(begun_middle returned created).1, (begun_middle returned created).2] at delivered
  rw [(begun_middle returned created).1] at last
  have unbegun : begun [.created event] = [] := rfl
  have uninvoked : invoking [.created event] = [] := rfl
  have begins : begun [event.begins (shared.lastApsSeqNums event.eui64)] = [event] := by
    unfold Event.begins
    split
    · rfl
    · rfl
  rw [unbegun, List.append_nil] at delivered last
  rw [uninvoked, List.map_nil, List.append_nil] at delivered
  refine ⟨turns_middle returned created, ?_, ?_⟩
  · rw [(begun_middle returned created).1, (begun_middle returned created).2, begins, withoutRepeats_append,
      List.map_append, ← delivered, ← last]
    unfold withoutRepeats withoutRepeats Event.begins
    split
    · rfl
    · rfl
  · rw [(begun_middle returned created).1, begins, lastApsSeqNum_append, ← last]
    exact Function.update_self ..

/-- A callback is called. -/
theorem Ordered.deliver {event : Event} (ordered : Ordered shared event.eui64 (before ++ .invoking event :: after))
    (device : event.callback.eui64 = event.eui64) :
    Ordered { shared with delivered := shared.delivered ++ [event.callback] } event.eui64
      (before ++ .returned event :: after) := by
  have created := ordered.created_after rfl
  have returned := ordered.returned_before rfl
  have delivered := ordered.delivered
  have last := ordered.last
  rw [(begun_middle returned created).1, (begun_middle returned created).2] at delivered
  rw [(begun_middle returned created).1] at last
  have begins : begun [.returned event] = begun [.invoking event] := rfl
  refine ⟨turns_middle returned created, ?_, ?_⟩
  · rw [(begun_middle returned created).1, (begun_middle returned created).2, begins, ← delivered]
    unfold forDevice
    rw [List.filter_append, List.filter_cons_of_pos (by simpa using device), List.append_assoc]
    rfl
  · rw [(begun_middle returned created).1, begins]
    exact last

theorem callback_eui64 (event : Event) : event.callback.eui64 = event.eui64 := by
  cases event <;> rfl

/-- A move for one device does not concern another device. -/
theorem Ordered.other (ordered : Ordered shared eui64 threads)
    (last : next.lastApsSeqNums eui64 = shared.lastApsSeqNums eui64)
    (delivered : forDevice eui64 next.delivered = forDevice eui64 shared.delivered) :
    Ordered next eui64 threads :=
  ⟨ordered.turns, by rw [delivered]; exact ordered.delivered, by rw [last]; exact ordered.last⟩

end Turns

section Runs
variable {current next : Configuration Shared Handler}

theorem ofDevice_same {eui64 : UInt64} (handler : Handler) (device : handler.event.eui64 = eui64)
    (before after : List Handler) : ofDevice eui64 (before ++ handler :: after) =
      ofDevice eui64 before ++ handler :: ofDevice eui64 after := by
  unfold ofDevice
  rw [List.filter_append, List.filter_cons_of_pos (by simpa using device)]

theorem ofDevice_other {eui64 : UInt64} (handler : Handler) (device : handler.event.eui64 ≠ eui64)
    (before after : List Handler) :
    ofDevice eui64 (before ++ handler :: after) = ofDevice eui64 (before ++ after) := by
  unfold ofDevice
  rw [List.filter_append, List.filter_cons_of_neg (by simpa using device), ← List.filter_append]

theorem begins_event (event : Event) (preceding : Option UInt8) : (event.begins preceding).event = event := by
  unfold Event.begins
  split
  · rfl
  · rfl

theorem step_ordered {input : Nat × Unit} (turn : inTurn current input = true)
    (stepped : Threads.step move current input = some next) (eui64 : UInt64)
    (ordered : Ordered current.shared eui64 (ofDevice eui64 current.threads)) :
    Ordered next.shared eui64 (ofDevice eui64 next.threads) ∧
      next.threads.map Handler.event = current.threads.map Handler.event := by
  obtain ⟨before, handler, after, shared, moved, split, position, moves, rfl⟩ := step_split stepped
  rw [split] at ordered ⊢
  cases handler with
  | returned event => cases moves
  | created event =>
      rw [move_created] at moves
      cases moves
      have same := begins_event event (current.shared.lastApsSeqNums event.eui64)
      refine ⟨?_, by rw [List.map_append, List.map_append, List.map_cons, List.map_cons, same]; rfl⟩
      by_cases device : event.eui64 = eui64
      · rw [ofDevice_same (.created event) device] at ordered
        rw [ofDevice_same _ (by rw [same]; exact device)]
        subst device
        refine ordered.begin ?_
        unfold inTurn at turn
        rw [split, ← position] at turn
        simpa using turn
      · rw [ofDevice_other (.created event) device] at ordered
        rw [ofDevice_other _ (by rw [same]; exact device)]
        exact ordered.other (Function.update_of_ne (Ne.symm device) ..) rfl
  | invoking event =>
      cases moves
      refine ⟨?_, by simp [Handler.event]⟩
      by_cases device : event.eui64 = eui64
      · rw [ofDevice_same (.invoking event) device] at ordered
        rw [ofDevice_same (.returned event) device]
        subst device
        exact ordered.deliver (callback_eui64 event)
      · rw [ofDevice_other (.invoking event) device] at ordered
        rw [ofDevice_other (.returned event) device]
        refine ordered.other rfl ?_
        unfold forDevice
        rw [List.filter_append, List.filter_cons_of_neg (by simpa [callback_eui64] using device)]
        exact List.append_nil _

theorem ordered_initial (events : List Event) (eui64 : UInt64) :
    Ordered Shared.initial eui64 (ofDevice eui64 (events.map .created)) := by
  have created : ∀ handler ∈ ofDevice eui64 (events.map .created), handler.isCreated = true := by
    intro handler member
    obtain ⟨event, _, rfl⟩ := List.mem_map.mp (List.mem_of_mem_filter member)
    rfl
  refine ⟨?_, ?_, ?_⟩
  · exact List.pairwise_of_forall_mem_list fun _ _ later member => Or.inr (created later member)
  · rw [begun_created created, invoking_created created]
    rfl
  · rw [begun_created created]
    rfl

/-- The events that the threads of a device have begun to handle are the first ones. -/
theorem begun_prefix {threads : List Handler}
    (turns : threads.Pairwise fun earlier later => earlier.isReturned = true ∨ later.isCreated = true) :
    begun threads <+: threads.map Handler.event := by
  induction threads with
  | nil => exact List.prefix_rfl
  | cons handler rest ih =>
      obtain ⟨first, later⟩ := List.pairwise_cons.mp turns
      cases created : handler.isCreated with
      | false =>
          have head : begun (handler :: rest) = handler.event :: begun rest := by
            unfold begun
            rw [List.filter_cons_of_pos (by rw [created]; rfl), List.map_cons]
          rw [head, List.map_cons]
          exact (List.prefix_cons_inj _).mpr (ih later)
      | true =>
          have all : ∀ other ∈ handler :: rest, other.isCreated = true := by
            intro other member
            rcases List.mem_cons.mp member with rfl | member
            · exact created
            · refine (first other member).resolve_left ?_
              cases handler with
              | created event => exact nofun
              | invoking | returned => cases created
          rw [begun_created all]
          exact List.nil_prefix

theorem withoutRepeats_prefix (preceding : Option UInt8) {first whole : List Event} (shorter : first <+: whole) :
    withoutRepeats preceding first <+: withoutRepeats preceding whole := by
  obtain ⟨rest, rfl⟩ := shorter
  rw [withoutRepeats_append]
  exact List.prefix_append _ _

/-- The events of one device in the order of their arrival. -/
def arrivals (eui64 : UInt64) (events : List Event) : List Event := events.filter fun event => event.eui64 = eui64

theorem ofDevice_events (eui64 : UInt64) (threads : List Handler) :
    (ofDevice eui64 threads).map Handler.event = arrivals eui64 (threads.map Handler.event) := by
  unfold ofDevice arrivals
  rw [List.filter_map]
  rfl

/-- The callbacks of a device are called in the order of the datagrams and without the repeated commands, when
each thread begins after the earlier ones of its device. -/
theorem run_ordered {events : List Event} {schedule : List Nat} {final : Configuration Shared Handler}
    (turns : Runs.Guarded (Threads.step move) (fun current input => inTurn current input = true)
      ⟨Shared.initial, events.map .created⟩ (schedule.map fun thread => (thread, ())))
    (reached : run events schedule = some final) (eui64 : UInt64) :
    forDevice eui64 final.shared.delivered <+:
        (withoutRepeats none (arrivals eui64 events)).map Event.callback ∧
      ((∀ handler ∈ final.threads, handler.isReturned = true) → forDevice eui64 final.shared.delivered =
        (withoutRepeats none (arrivals eui64 events)).map Event.callback) := by
  obtain ⟨ordered, same⟩ := Runs.Guarded.invariant _
    (fun current : Configuration Shared Handler =>
      Ordered current.shared eui64 (ofDevice eui64 current.threads) ∧ current.threads.map Handler.event = events)
    (fun _ _ _ kept turn stepped =>
      ⟨(step_ordered turn stepped eui64 kept.1).1, (step_ordered turn stepped eui64 kept.1).2.trans kept.2⟩)
    turns ⟨ordered_initial events eui64, by simp [Function.comp_def, Handler.event]⟩ reached
  have all := ofDevice_events eui64 final.threads
  rw [same] at all
  constructor
  · have begun := begun_prefix ordered.turns
    have shorter := withoutRepeats_prefix none begun
    rw [all] at shorter
    refine List.IsPrefix.trans ?_ (shorter.map Event.callback)
    rw [← ordered.delivered]
    exact List.prefix_append _ _
  · intro returned
    have done : ∀ handler ∈ ofDevice eui64 final.threads, handler.isReturned = true :=
      fun handler member => returned handler (List.mem_of_mem_filter member)
    have delivered := ordered.delivered
    rwa [begun_returned done, invoking_returned done, all, List.map_nil, List.append_nil] at delivered

/-- A command of the device 1. -/
def commandEvent (apsSeqNum : Int32) : Event :=
  .clusterCommandReceived ⟨1, 1, 260, 1, 6, 0, 0, 0, 1, apsSeqNum, 0, 255, []⟩

theorem run_ordered_repeated :
    ∃ final, run [commandEvent 1, commandEvent 2, commandEvent 2] [0, 0, 1, 1, 2] = some final ∧
      forDevice 1 final.shared.delivered = [(commandEvent 1).callback, (commandEvent 2).callback] := by
  have computed : (run [commandEvent 1, commandEvent 2, commandEvent 2] [0, 0, 1, 1, 2]).map
      (fun final => final.threads.all Handler.isReturned) = some true := by decide +kernel
  obtain ⟨final, reached, returned⟩ := Option.map_eq_some_iff.mp computed
  refine ⟨final, reached, ?_⟩
  rw [(run_ordered (by decide +kernel) reached 1).2 (List.all_eq_true.mp returned)]
  decide +kernel

/-- The thread of the second command overtakes the first, so the order is reversed and a repeated command is not
dropped. -/
theorem not_run_ordered :
    ∃ final, run [commandEvent 1, commandEvent 2, commandEvent 2] [1, 1, 0, 0, 2, 2] = some final ∧
      forDevice 1 final.shared.delivered =
        [(commandEvent 2).callback, (commandEvent 1).callback, (commandEvent 2).callback] ∧
      (withoutRepeats none (arrivals 1 [commandEvent 1, commandEvent 2, commandEvent 2])).map Event.callback =
        [(commandEvent 1).callback, (commandEvent 2).callback] := by
  have computed : (run [commandEvent 1, commandEvent 2, commandEvent 2] [1, 1, 0, 0, 2, 2]).map
      (fun final => forDevice 1 final.shared.delivered) =
        some [(commandEvent 2).callback, (commandEvent 1).callback, (commandEvent 2).callback] := by
    decide +kernel
  obtain ⟨final, reached, delivered⟩ := Option.map_eq_some_iff.mp computed
  exact ⟨final, reached, delivered, by decide +kernel⟩

end Runs

end Barton.ZigbeeEvents
