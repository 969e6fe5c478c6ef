import BartonCore.Proof.Zigbee.JoinPermission

namespace Barton.ZigbeeDiscovery
open Threads ZigbeeEvents

section Retained

/-- The commands of each device, in the order of their arrival. -/
abbrev Retained : Type := UInt64 → List ReceivedClusterCommand

/-- What a section does to the commands that are to be kept. -/
def Section.apply (kept : Retained) : Section → Retained
  | .discoveryStarted => fun _ => []
  | .saved command => Function.update kept command.eui64 (kept command.eui64 ++ [command])
  | .taken eui64 _ => Function.update kept eui64 []
  | .destroyed eui64 => Function.update kept eui64 []
  | .looked _ _ _ => kept
  | .removed eui64 commandId =>
      Function.update kept eui64 ((kept eui64).filter fun command => command.commandId ≠ commandId)

/-- The commands that are neither removed nor taken nor given up at a count of zero. -/
def retained (sections : List Section) : Retained := sections.foldl Section.apply fun _ => []

/-- A map has no entry for an empty list. -/
def held (list : List ReceivedClusterCommand) : Option (List ReceivedClusterCommand) :=
  if list = [] then none else some list

/-- A lookup is answered with the commands that are kept. -/
def Section.Answered (kept : Retained) : Section → Prop
  | .taken eui64 answer => answer = held (kept eui64)
  | .looked eui64 commandId answer =>
      answer = (kept eui64).find? fun command => command.commandId = commandId
  | _ => True

/-- Every lookup is answered with the commands that are kept before it. -/
def Answered (sections : List Section) : Prop :=
  ∀ first entry, first ++ [entry] <+: sections → entry.Answered (retained first)

theorem retained_concat (sections : List Section) (entry : Section) :
    retained (sections ++ [entry]) = entry.apply (retained sections) := List.foldl_concat ..

theorem answered_concat {sections : List Section} {entry : Section} (answered : Answered sections)
    (last : entry.Answered (retained sections)) : Answered (sections ++ [entry]) := by
  intro first other shorter
  rcases List.prefix_concat_iff.mp shorter with same | shorter
  · obtain ⟨rfl, rfl⟩ := List.append_singleton_inj.mp same
    exact last
  · exact answered first other shorter

/-- Where nothing is kept, only a save makes something kept. -/
theorem apply_empty {entry : Section} (unsaved : ∀ command, entry ≠ .saved command) (eui64 : UInt64) :
    entry.apply (fun _ => []) eui64 = [] := by
  cases entry with
  | saved command => exact absurd rfl (unsaved command)
  | taken | destroyed | removed => simp [Section.apply, Function.update_apply]
  | _ => rfl

/-- Only a device of which a command was saved has kept commands. -/
theorem retained_saved (sections : List Section) {eui64 : UInt64} (kept : retained sections eui64 ≠ []) :
    ∃ command, .saved command ∈ sections ∧ command.eui64 = eui64 := by
  induction sections using List.reverseRecOn with
  | nil => exact absurd rfl kept
  | append_singleton sections entry ih =>
      rw [retained_concat] at kept
      by_cases before : retained sections eui64 = []
      · by_contra none
        apply kept
        have own : ∀ command, entry = .saved command → command.eui64 ≠ eui64 := by
          rintro command rfl same
          exact none ⟨command, by simp, same⟩
        cases entry with
        | saved command =>
            rw [Section.apply, Function.update_of_ne (own command rfl).symm]
            exact before
        | taken other | destroyed other => by_cases same : eui64 = other <;> simp [Section.apply, same, before]
        | removed other commandId =>
            by_cases same : eui64 = other
            · subst same
              simp [Section.apply, before]
            · simp [Section.apply, same, before]
        | looked other commandId answer => exact before
        | discoveryStarted => rfl
      · obtain ⟨command, member, same⟩ := ih before
        exact ⟨command, List.mem_append_left _ member, same⟩

end Retained

section Maps
variable {map : CommandMap} {kept : Retained}

/-- The map holds what is kept. -/
def Reflects (map : CommandMap) (kept : Retained) : Prop := ∀ eui64, map.get eui64 = held (kept eui64)

theorem reflects_set {map : CommandMap} (reflects : Reflects map kept) (usable : map ≠ .destroyed) (eui64 : UInt64)
    (list : List ReceivedClusterCommand) (present : map = .null → list = []) :
    Reflects (map.set eui64 (held list)) (Function.update kept eui64 list) := by
  intro other
  cases map with
  | null =>
      have nothing := reflects other
      by_cases same : other = eui64
      · rw [same, Function.update_self, present rfl]
        rfl
      · rw [Function.update_of_ne same]
        exact nothing
  | live commands =>
      show Function.update commands eui64 (held list) other = _
      by_cases same : other = eui64
      · rw [same, Function.update_self, Function.update_self]
      · rw [Function.update_of_ne same, Function.update_of_ne same]
        exact reflects other
  | destroyed => exact absurd rfl usable

theorem get_eq_none (reflects : Reflects map kept) {eui64 : UInt64} (absent : map.get eui64 = none) :
    kept eui64 = [] := by
  rw [reflects eui64] at absent
  unfold held at absent
  split at absent
  · assumption
  · contradiction

theorem get_eq_some (reflects : Reflects map kept) {eui64 : UInt64} {list : List ReceivedClusterCommand}
    (present : map.get eui64 = some list) : kept eui64 = list ∧ list ≠ [] := by
  rw [reflects eui64] at present
  unfold held at present
  split at present
  · contradiction
  · cases present
    exact ⟨rfl, ‹_›⟩

theorem addPrematureClusterCommand_reflects (reflects : Reflects map kept) (usable : map ≠ .destroyed)
    (command : ReceivedClusterCommand) :
    Reflects (addPrematureClusterCommand map command) ((Section.saved command).apply kept) := by
  have created : ∃ commands, addPrematureClusterCommand map command = CommandMap.set (.live commands) command.eui64
      (some (((CommandMap.live commands).get command.eui64).getD [] ++ [command])) ∧
      Reflects (.live commands) kept := by
    cases map with
    | null => exact ⟨fun _ => none, rfl, reflects⟩
    | live commands => exact ⟨commands, rfl, reflects⟩
    | destroyed => exact absurd rfl usable
  obtain ⟨commands, added, reflects⟩ := created
  have list : ((CommandMap.live commands).get command.eui64).getD [] = kept command.eui64 := by
    cases found : (CommandMap.live commands).get command.eui64 with
    | none => exact (get_eq_none reflects found).symm
    | some list => exact (get_eq_some reflects found).1.symm
  have some : some (kept command.eui64 ++ [command]) = held (kept command.eui64 ++ [command]) := by simp [held]
  rw [added, list, some]
  exact reflects_set reflects nofun _ _ nofun

theorem delete_reflects (reflects : Reflects map kept) (usable : map ≠ .destroyed) (eui64 : UInt64) :
    Reflects (map.set eui64 none) (Function.update kept eui64 []) :=
  reflects_set reflects usable eui64 [] fun _ => rfl

theorem destroyPrematureClusterCommands_reflects (reflects : Reflects map kept) (usable : map ≠ .destroyed)
    (eui64 : UInt64) :
    Reflects (destroyPrematureClusterCommands map eui64) ((Section.destroyed eui64).apply kept) := by
  unfold destroyPrematureClusterCommands
  cases found : map.get eui64 with
  | none =>
      have same : Function.update kept eui64 [] = kept := by
        rw [← get_eq_none reflects found]
        exact Function.update_eq_self eui64 kept
      show Reflects map (Function.update kept eui64 [])
      rw [same]
      exact reflects
  | some list => exact delete_reflects reflects usable eui64

theorem removePrematureClusterCommand_reflects (reflects : Reflects map kept) (usable : map ≠ .destroyed)
    (eui64 : UInt64) (commandId : UInt8) :
    Reflects (removePrematureClusterCommand map eui64 commandId)
      ((Section.removed eui64 commandId).apply kept) := by
  unfold removePrematureClusterCommand
  cases found : map.get eui64 with
  | none =>
      have empty := get_eq_none reflects found
      have same : (Section.removed eui64 commandId).apply kept = kept := by
        show Function.update kept eui64 _ = kept
        rw [empty, List.filter_nil, ← empty]
        exact Function.update_eq_self eui64 kept
      rw [same]
      exact reflects
  | some list =>
      obtain ⟨same, _⟩ := get_eq_some reflects found
      subst same
      refine reflects_set reflects usable eui64 _ ?_
      rintro rfl
      cases found

theorem findPrematureClusterCommand_answered (reflects : Reflects map kept) (eui64 : UInt64) (commandId : UInt8) :
    findPrematureClusterCommand map eui64 commandId =
      (kept eui64).find? fun command => command.commandId = commandId := by
  unfold findPrematureClusterCommand
  cases found : map.get eui64 with
  | none =>
      rw [get_eq_none reflects found]
      rfl
  | some list =>
      rw [(get_eq_some reflects found).1]
      rfl

/-- The operations do not destroy the map. -/
theorem set_usable (usable : map ≠ .destroyed) (eui64 : UInt64) (list : Option (List ReceivedClusterCommand)) :
    map.set eui64 list ≠ .destroyed := by
  cases map with
  | destroyed => exact absurd rfl usable
  | _ => exact nofun

theorem addPrematureClusterCommand_usable (usable : map ≠ .destroyed) (command : ReceivedClusterCommand) :
    addPrematureClusterCommand map command ≠ .destroyed := by
  cases map with
  | destroyed => exact absurd rfl usable
  | _ => exact nofun

theorem destroyPrematureClusterCommands_usable (usable : map ≠ .destroyed) (eui64 : UInt64) :
    destroyPrematureClusterCommands map eui64 ≠ .destroyed := by
  unfold destroyPrematureClusterCommands
  split
  · exact usable
  · exact set_usable usable eui64 none

theorem removePrematureClusterCommand_usable (usable : map ≠ .destroyed) (eui64 : UInt64) (commandId : UInt8) :
    removePrematureClusterCommand map eui64 commandId ≠ .destroyed := by
  unfold removePrematureClusterCommand
  split
  · exact usable
  · exact set_usable usable eui64 _

end Maps

section Guard

/-- The start has destroyed the map and has not created a new one. -/
def Thread.replacing : Thread → Bool
  | .start .discoveryRunning => true
  | .start .createCommands => true
  | _ => false

def CommandMap.isNull : CommandMap → Bool
  | .null => true
  | _ => false

/-- The thread is at a section in which the map is used, or in which it may be destroyed. -/
def Thread.usesCommands (count : ℤ) : Thread → Bool
  | .start .created => count = 0
  | .start .destroyCommands => true
  | .getCommands _ => true
  | .destroyCommands _ => true
  | .getCommand _ _ _ => true
  | .removeCommand _ _ => true
  | _ => false

/-- No command is kept for any device. -/
def nothingRetained (sections : List Section) : Bool :=
  sections.all fun entry => match entry with
    | .saved command => retained sections command.eui64 = []
    | _ => true

/-- Between its two sections a start replaces the map, and the other sections use the map then only while it is NULL.
No command is saved then, and a failed start destroys the map only when no command is kept. -/
def undisturbed (current : Configuration Shared Thread) (input : Nat × Answers) : Bool :=
  match current.threads[input.1]? with
  | some thread =>
      (!thread.usesCommands current.shared.discoveringRefCount ||
        current.shared.prematureClusterCommands.isNull ||
        current.threads.all fun other => !other.replacing) &&
      match thread with
      | .addCommand _ => current.threads.all fun other => !other.replacing
      | .start .destroyCommands => nothingRetained current.shared.sections
      | _ => true
  | none => true

theorem nothingRetained_iff (sections : List Section) :
    nothingRetained sections = true ↔ ∀ eui64, retained sections eui64 = [] := by
  unfold nothingRetained
  rw [List.all_eq_true]
  constructor
  · intro none eui64
    by_contra kept
    obtain ⟨command, member, rfl⟩ := retained_saved sections kept
    exact kept (of_decide_eq_true (none _ member))
  · intro none entry _
    cases entry with
    | saved command => exact decide_eq_true (none command.eui64)
    | _ => rfl

end Guard

section Moves

/-- What a move does to the map, to the sections and to the mark of a wrong use. -/
inductive CommandMoves (shared : Shared) : Thread → Shared → Thread → Prop where
  | quiet {thread moved : Thread} {next : Shared}
      (map : next.prematureClusterCommands = shared.prematureClusterCommands)
      (sections : next.sections = shared.sections) (used : next.destroyedUsed = shared.destroyedUsed)
      (replacing : moved.replacing = thread.replacing) : CommandMoves shared thread next moved
  | reset {next : Shared} (zero : shared.discoveringRefCount = 0)
      (map : next.prematureClusterCommands = .null ∧ shared.prematureClusterCommands = .null ∨
        next.prematureClusterCommands = .destroyed)
      (sections : next.sections = shared.sections ++ [.discoveryStarted])
      (used : shared.prematureClusterCommands ≠ .destroyed → next.destroyedUsed = shared.destroyedUsed) :
      CommandMoves shared (.start .created) next (.start .discoveryRunning)
  | create {next : Shared} (map : next.prematureClusterCommands = .create)
      (sections : next.sections = shared.sections) (used : next.destroyedUsed = shared.destroyedUsed) :
      CommandMoves shared (.start .createCommands) next (.start .enableJoin)
  | drop {next : Shared} (map : next.prematureClusterCommands = .null)
      (sections : next.sections = shared.sections)
      (used : shared.prematureClusterCommands ≠ .destroyed → next.destroyedUsed = shared.destroyedUsed) :
      CommandMoves shared (.start .destroyCommands) next (.startReturned false)
  | save {command : ReceivedClusterCommand} : CommandMoves shared (.addCommand command)
      (shared.useCommands (addPrematureClusterCommand shared.prematureClusterCommands command) (.saved command))
      .returned
  | use {thread moved : Thread} {map : CommandMap} {entry : Section}
      (uses : ∀ count, thread.usesCommands count = true) (unsaved : ∀ command, entry ≠ .saved command)
      (replacing : thread.replacing = false ∧ moved.replacing = false)
      (right : shared.prematureClusterCommands ≠ .destroyed → map ≠ .destroyed ∧ ∀ kept,
        Reflects shared.prematureClusterCommands kept → entry.Answered kept ∧ Reflects map (entry.apply kept)) :
      CommandMoves shared thread (shared.useCommands map entry) moved

variable {shared next : Shared} {thread moved : Thread} {answers : Answers}

theorem destroyCommands_spec (shared : Shared) (pointer : CommandMap) :
    (shared.destroyCommands pointer).sections = shared.sections ∧
    ((shared.destroyCommands pointer).prematureClusterCommands = .null ∧ shared.prematureClusterCommands = .null ∨
      (shared.destroyCommands pointer).prematureClusterCommands = pointer) ∧
    (shared.prematureClusterCommands ≠ .destroyed →
      (shared.destroyCommands pointer).destroyedUsed = shared.destroyedUsed) := by
  unfold Shared.destroyCommands
  cases found : shared.prematureClusterCommands with
  | null => exact ⟨rfl, Or.inl ⟨found, rfl⟩, fun _ => rfl⟩
  | live commands => exact ⟨rfl, Or.inr rfl, fun _ => rfl⟩
  | destroyed => exact ⟨rfl, Or.inr rfl, fun usable => absurd rfl usable⟩

theorem moveStart_commandMoves (point : StartPoint) :
    CommandMoves shared (.start point) (moveStart shared point answers).1 (moveStart shared point answers).2 := by
  cases point with
  | created =>
      unfold moveStart
      dsimp only
      by_cases zero : shared.discoveringRefCount = 0
      · rw [if_pos zero]
        obtain ⟨_, map, used⟩ :=
          destroyCommands_spec { shared with discoveringRefCount := shared.discoveringRefCount + 1 } .destroyed
        exact .reset zero map rfl used
      · rw [if_neg zero]
        exact .quiet rfl rfl rfl rfl
  | createCommands => exact .create rfl rfl rfl
  | enableJoin =>
      unfold moveStart
      dsimp only
      split <;> exact .quiet rfl rfl rfl rfl
  | destroyCommands =>
      obtain ⟨sections, map, used⟩ := destroyCommands_spec shared .null
      refine .drop ?_ sections used
      rcases map with ⟨map, _⟩ | map <;> exact map
  | _ => exact .quiet rfl rfl rfl rfl

theorem move_commandMoves (taken : move shared thread answers = some (next, moved)) :
    CommandMoves shared thread next moved := by
  cases thread with
  | start point =>
      obtain ⟨rfl, rfl⟩ := moved_eq taken
      exact moveStart_commandMoves point
  | stop point =>
      obtain ⟨rfl, rfl⟩ := moved_eq taken
      cases point with
      | created =>
          refine .quiet rfl rfl rfl ?_
          unfold moveStop
          dsimp only
          split <;> rfl
      | _ => exact .quiet rfl rfl rfl rfl
  | message callback point =>
      obtain ⟨rfl, rfl⟩ := moved_eq taken
      cases point with
      | accepted discovering =>
          refine .quiet rfl rfl rfl ?_
          show (passOn callback discovering answers).replacing = false
          unfold passOn
          cases callback with
          | attributeReportReceived report => rfl
          | clusterCommandReceived command =>
              dsimp only
              split <;> rfl
      | _ => exact .quiet rfl rfl rfl rfl
  | deviceDiscovered eui64 point =>
      obtain ⟨rfl, rfl⟩ := moved_eq taken
      cases point with
      | remove claimed => cases claimed <;> exact .quiet rfl rfl rfl rfl
      | noteUnclaimed =>
          simp only [moveDiscovered]
          split <;> exact .quiet rfl rfl rfl rfl
      | _ => exact .quiet rfl rfl rfl rfl
  | addCommand command =>
      obtain ⟨rfl, rfl⟩ := moved_eq taken
      exact .save
  | getCommands eui64 =>
      obtain ⟨rfl, rfl⟩ := moved_eq taken
      refine .use (fun _ => rfl) (by rintro command ⟨⟩) ⟨rfl, rfl⟩ ?_
      intro usable
      refine ⟨set_usable usable eui64 none, ?_⟩
      intro kept reflects
      exact ⟨reflects eui64, delete_reflects reflects usable eui64⟩
  | destroyCommands eui64 =>
      obtain ⟨rfl, rfl⟩ := moved_eq taken
      refine .use (fun _ => rfl) (by rintro command ⟨⟩) ⟨rfl, rfl⟩ ?_
      intro usable
      refine ⟨destroyPrematureClusterCommands_usable usable eui64, ?_⟩
      intro kept reflects
      exact ⟨trivial, destroyPrematureClusterCommands_reflects reflects usable eui64⟩
  | getCommand eui64 commandId timeoutSeconds =>
      cases timeoutSeconds with
      | zero =>
          obtain ⟨rfl, rfl⟩ := moved_eq taken
          exact .quiet rfl rfl rfl rfl
      | succ timeoutSeconds =>
          obtain ⟨rfl, rfl⟩ := moved_eq taken
          refine .use (fun _ => rfl) (by rintro command ⟨⟩) ⟨rfl, by dsimp only; split <;> rfl⟩ ?_
          intro usable
          refine ⟨usable, ?_⟩
          intro kept reflects
          exact ⟨findPrematureClusterCommand_answered reflects eui64 commandId, reflects⟩
  | removeCommand eui64 commandId =>
      obtain ⟨rfl, rfl⟩ := moved_eq taken
      refine .use (fun _ => rfl) (by rintro command ⟨⟩) ⟨rfl, rfl⟩ ?_
      intro usable
      refine ⟨removePrematureClusterCommand_usable usable eui64 commandId, ?_⟩
      intro kept reflects
      exact ⟨trivial, removePrematureClusterCommand_reflects reflects usable eui64 commandId⟩
  | startReturned _ | stopReturned | returned => cases taken

end Moves

section Runs

/-- The map holds the commands that are kept, and no destroyed map was used. While a start replaces the map nothing is
kept. -/
structure Commands (shared : Shared) (replacing : Prop) : Prop where
  unused : shared.destroyedUsed = false
  answered : Answered shared.sections
  reflects : Reflects shared.prematureClusterCommands (retained shared.sections)
  usable : shared.prematureClusterCommands = .destroyed → replacing
  emptied : replacing → ∀ eui64, retained shared.sections eui64 = []

variable {shared next : Shared} {thread moved : Thread} {replacing replacing' others : Prop}

theorem useCommands_spec (usable : shared.prematureClusterCommands ≠ .destroyed) (map : CommandMap) (entry : Section) :
    shared.useCommands map entry =
      { shared with prematureClusterCommands := map, sections := shared.sections ++ [entry] } := by
  unfold Shared.useCommands
  split
  · contradiction
  · rfl

/-- A section that uses a map that is not destroyed keeps the commands. -/
theorem Commands.use (commands : Commands shared replacing)
    (usable : shared.prematureClusterCommands ≠ .destroyed) {map : CommandMap} {entry : Section}
    (answered : entry.Answered (retained shared.sections))
    (reflects : Reflects map (entry.apply (retained shared.sections)))
    (emptied : replacing → ∀ command, entry ≠ .saved command) (keeps : map ≠ .destroyed) :
    Commands (shared.useCommands map entry) replacing := by
  rw [useCommands_spec usable]
  refine ⟨commands.unused, answered_concat commands.answered answered, ?_, fun destroyed => absurd destroyed keeps, ?_⟩
  · show Reflects map (retained (shared.sections ++ [entry]))
    rw [retained_concat]
    exact reflects
  · intro busy eui64
    have nothing : retained shared.sections = fun _ => [] := funext (commands.emptied busy)
    show retained (shared.sections ++ [entry]) eui64 = []
    rw [retained_concat, nothing]
    exact apply_empty (emptied busy) eui64

/-- The move of one thread keeps the commands when it is undisturbed by a start that replaces the map. -/
theorem Commands.step (commands : Commands shared replacing) (moves : CommandMoves shared thread next moved)
    (alone : thread.usesCommands shared.discoveringRefCount = true →
      shared.prematureClusterCommands = .null ∨ ¬ replacing)
    (saves : ∀ command, thread = .addCommand command → ¬ replacing)
    (drops : thread = .start .destroyCommands → ∀ eui64, retained shared.sections eui64 = [])
    (before : replacing ↔ thread.replacing = true ∨ others)
    (after : replacing' ↔ moved.replacing = true ∨ others) : Commands next replacing' := by
  have usable (free : shared.prematureClusterCommands = .null ∨ ¬ replacing) :
      shared.prematureClusterCommands ≠ .destroyed := by
    intro destroyed
    rcases free with null | idle
    · rw [null] at destroyed
      cases destroyed
    · exact idle (commands.usable destroyed)
  have kept (same : moved.replacing = thread.replacing) : replacing' ↔ replacing := by
    rw [before, after, same]
  cases moves with
  | quiet map sections used same =>
      rw [propext (kept same)]
      refine ⟨used.trans commands.unused, ?_, ?_, ?_, ?_⟩
      · rw [sections]
        exact commands.answered
      · rw [map, sections]
        exact commands.reflects
      · rw [map]
        exact commands.usable
      · rw [sections]
        exact commands.emptied
  | reset zero map sections used =>
      have free := usable (alone (by simpa [Thread.usesCommands] using zero))
      have nothing : retained next.sections = fun _ => [] := by
        rw [sections, retained_concat]
        rfl
      refine ⟨(used free).trans commands.unused, ?_, ?_, fun _ => after.mpr (Or.inl rfl), fun _ => congrFun nothing⟩
      · rw [sections]
        exact answered_concat commands.answered trivial
      · rw [nothing]
        intro eui64
        rcases map with ⟨null, _⟩ | destroyed
        · rw [null]
          rfl
        · rw [destroyed]
          rfl
  | create map sections used =>
      have nothing := commands.emptied (before.mpr (Or.inl rfl))
      refine ⟨used.trans commands.unused, ?_, ?_, ?_, ?_⟩
      · rw [sections]
        exact commands.answered
      · intro eui64
        rw [map, sections, nothing eui64]
        rfl
      · rw [map]
        exact nofun
      · rw [sections]
        exact fun _ => nothing
  | drop map sections used =>
      have free := usable (alone rfl)
      have nothing := drops rfl
      refine ⟨(used free).trans commands.unused, ?_, ?_, ?_, ?_⟩
      · rw [sections]
        exact commands.answered
      · intro eui64
        rw [map, sections, nothing eui64]
        rfl
      · rw [map]
        exact nofun
      · rw [sections]
        exact fun _ => nothing
  | @save command =>
      have idle := saves command rfl
      have free := usable (Or.inr idle)
      rw [propext (kept rfl)]
      exact commands.use free trivial (addPrematureClusterCommand_reflects commands.reflects free command)
        (fun busy => absurd busy idle) (addPrematureClusterCommand_usable free command)
  | use uses unsaved quiet right =>
      have free := usable (alone (uses _))
      obtain ⟨keeps, spec⟩ := right free
      obtain ⟨answered, reflects⟩ := spec _ commands.reflects
      rw [propext (kept (quiet.2.trans quiet.1.symm))]
      exact commands.use free answered reflects (fun _ => unsaved) keeps

/-- Some start is replacing the map. -/
def Replacing (threads : List Thread) : Prop := ∃ thread ∈ threads, thread.replacing = true

theorem replacing_middle {before after : List Thread} :
    Replacing (before ++ thread :: after) ↔ thread.replacing = true ∨ Replacing (before ++ after) := by
  constructor
  · rintro ⟨other, member, busy⟩
    rcases mem_middle.mp member with rfl | member
    · exact Or.inl busy
    · exact Or.inr ⟨other, member, busy⟩
  · rintro (busy | ⟨other, member, busy⟩)
    · exact ⟨thread, mem_middle.mpr (Or.inl rfl), busy⟩
    · exact ⟨other, mem_middle.mpr (Or.inr member), busy⟩

theorem not_replacing {threads : List Thread} (idle : (threads.all fun thread => !thread.replacing) = true) :
    ¬ Replacing threads := by
  rintro ⟨thread, member, busy⟩
  have still := List.all_eq_true.mp idle thread member
  rw [busy] at still
  cases still

theorem Commands.step_all {current following : Configuration Shared Thread} {input : Nat × Answers}
    (commands : Commands current.shared (Replacing current.threads)) (guard : undisturbed current input = true)
    (stepped : Threads.step move current input = some following) :
    Commands following.shared (Replacing following.threads) := by
  obtain ⟨before, thread, after, shared, moved, split, found, taken, rfl⟩ := step_at stepped
  unfold undisturbed at guard
  rw [found] at guard
  obtain ⟨alone, own⟩ := (Bool.and_eq_true _ _).mp guard
  have moves := move_commandMoves taken
  refine commands.step moves ?_ ?_ ?_ (by rw [split]; exact replacing_middle) replacing_middle
  · intro uses
    rw [uses] at alone
    cases null : current.shared.prematureClusterCommands with
    | null => exact Or.inl rfl
    | _ =>
        rw [null] at alone
        exact Or.inr (not_replacing alone)
  · rintro command rfl
    exact not_replacing own
  · rintro rfl
    exact (nothingRetained_iff _).mp own

/-- In every undisturbed run no destroyed map is used, the map holds exactly the commands that were not removed, taken
or given up at a count of zero, and every lookup is answered with them. -/
theorem run_retained {eventHandler : ZigbeeJoining.EventHandler} {knownDevices : Finset UInt64}
    {threads : List Call} {schedule : List (Nat × Answers)} {final : Configuration Shared Thread}
    (guarded : Runs.Guarded (Threads.step move) (fun current input => undisturbed current input = true)
      (calls eventHandler knownDevices threads) schedule)
    (reached : run eventHandler knownDevices threads schedule = some final) :
    final.shared.destroyedUsed = false ∧
      (∀ eui64, final.shared.prematureClusterCommands.get eui64 = held (retained final.shared.sections eui64)) ∧
      Answered final.shared.sections := by
  have initially : Commands (initial eventHandler knownDevices) (Replacing (threads.map Call.thread)) := by
    refine ⟨rfl, ?_, fun _ => rfl, nofun, fun _ _ => rfl⟩
    intro first entry shorter
    have length := shorter.length_le
    simp [initial] at length
  have commands : Commands final.shared (Replacing final.threads) := Runs.Guarded.invariant _
    (fun current => Commands current.shared (Replacing current.threads))
    (fun _ _ _ holds guard stepped => holds.step_all guard stepped) guarded initially reached
  exact ⟨commands.unused, commands.reflects, commands.answered⟩

end Runs

section Sample

/-- A command of the device 1. -/
def sampleCommand (commandId : UInt8) : ReceivedClusterCommand :=
  ⟨1, 1, 260, true, 1280, commandId, false, 0, 0, 0, 0, 255, []⟩

/-- Two commands arrive in a session, and the pairing looks one up and removes it. -/
def sampleCalls : List Call :=
  [.start, .message (.clusterCommandReceived (sampleCommand 1)), .message (.clusterCommandReceived (sampleCommand 2)),
    .getCommand 1 1 5, .removeCommand 1 1, .getCommands 1]

theorem run_retained_removed :
    ∃ final, run emptyHandler ∅ sampleCalls
        ([0, 0, 0, 0, 1, 1, 1, 1, 2, 2, 2, 2, 3, 4].map fun index => (index, good)) = some final ∧
      final.shared.prematureClusterCommands.get 1 = some [sampleCommand 2] := by
  have computed : (run emptyHandler ∅ sampleCalls
      ([0, 0, 0, 0, 1, 1, 1, 1, 2, 2, 2, 2, 3, 4].map fun index => (index, good))).map
      (fun final => final.shared.sections) =
        some [.discoveryStarted, .saved (sampleCommand 1), .saved (sampleCommand 2),
          .looked 1 1 (some (sampleCommand 1)), .removed 1 1] := by decide +kernel
  obtain ⟨final, reached, sections⟩ := Option.map_eq_some_iff.mp computed
  refine ⟨final, reached, ?_⟩
  rw [(run_retained (by decide +kernel) reached).2.1 1, sections]
  decide +kernel

/-- A command arrives between the two sections of the second start, which uses the destroyed map. In the other run a
start that fails destroys a command that was saved while it was waiting for the radio. -/
theorem not_run_retained :
    (∃ final, run emptyHandler ∅ [.start, .stop, .start, .message (.clusterCommandReceived (sampleCommand 1))]
        ([0, 0, 0, 0, 1, 1, 1, 1, 1, 2, 3, 3, 3, 3].map fun index => (index, good)) = some final ∧
      final.shared.destroyedUsed = true) ∧
    ∃ final, run emptyHandler ∅ [.start, .start, .message (.clusterCommandReceived (sampleCommand 1))]
        ([0, 0, 0, 1, 2, 2, 2, 2, 0, 0, 0, 0, 0].map fun index => (index, refused)) = some final ∧
      retained final.shared.sections 1 = [sampleCommand 1] ∧
      final.shared.prematureClusterCommands.get 1 = none := by
  constructor
  · have computed : (run emptyHandler ∅
        [.start, .stop, .start, .message (.clusterCommandReceived (sampleCommand 1))]
        ([0, 0, 0, 0, 1, 1, 1, 1, 1, 2, 3, 3, 3, 3].map fun index => (index, good))).map
        (fun final => final.shared.destroyedUsed) = some true := by decide +kernel
    exact Option.map_eq_some_iff.mp computed
  · have computed : (run emptyHandler ∅ [.start, .start, .message (.clusterCommandReceived (sampleCommand 1))]
        ([0, 0, 0, 1, 2, 2, 2, 2, 0, 0, 0, 0, 0].map fun index => (index, refused))).map
        (fun final => (retained final.shared.sections 1, final.shared.prematureClusterCommands.get 1)) =
          some ([sampleCommand 1], none) := by decide +kernel
    obtain ⟨final, reached, same⟩ := Option.map_eq_some_iff.mp computed
    exact ⟨final, reached, Prod.mk.inj same⟩

end Sample

end Barton.ZigbeeDiscovery
