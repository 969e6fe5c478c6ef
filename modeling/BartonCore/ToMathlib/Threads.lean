import BartonCore.ToMathlib.Runs

namespace Barton.Threads

/-- Threads share one state, and each of them has a state of its own. -/
structure Configuration (Shared Thread : Type) where
  shared : Shared
  threads : List Thread

section
variable {Shared Thread Choice : Type} (move : Shared → Thread → Choice → Option (Shared × Thread))

/-- One thread moves, and the choice resolves what its move leaves open. -/
def step (current : Configuration Shared Thread) (input : Nat × Choice) :
    Option (Configuration Shared Thread) :=
  current.threads[input.1]?.bind fun thread =>
    (move current.shared thread input.2).map fun moved =>
      ⟨moved.1, current.threads.set input.1 moved.2⟩

/-- A schedule names the moving thread of each step. -/
def run (current : Configuration Shared Thread) (schedule : List (Nat × Choice)) :
    Option (Configuration Shared Thread) :=
  Runs.run (step move) current schedule

end

section
variable {Shared Thread Choice : Type} {move : Shared → Thread → Choice → Option (Shared × Thread)}
  {current next : Configuration Shared Thread} {input : Nat × Choice} {before after : List Thread} {Thing : Type}
  {hold : Thread → Option Thing}

/-- A step replaces the thread that moves and keeps the others. -/
theorem step_split (stepped : step move current input = some next) :
    ∃ before thread after shared moved, current.threads = before ++ thread :: after ∧
      before.length = input.1 ∧ move current.shared thread input.2 = some (shared, moved) ∧
      next = ⟨shared, before ++ moved :: after⟩ := by
  obtain ⟨thread, found, rest⟩ := Option.bind_eq_some_iff.mp stepped
  obtain ⟨⟨shared, moved⟩, taken, rfl⟩ := Option.map_eq_some_iff.mp rest
  obtain ⟨less, rfl⟩ := List.getElem?_eq_some_iff.mp found
  have split : current.threads =
      current.threads.take input.1 ++ current.threads[input.1] :: current.threads.drop (input.1 + 1) := by
    rw [List.getElem_cons_drop, List.take_append_drop]
  refine ⟨_, _, _, shared, moved, split, ?_, taken, ?_⟩
  · rw [List.length_take, Nat.min_eq_left less.le]
  · rw [List.set_eq_take_append_cons_drop, if_pos less]

/-- The input names the thread that moves. -/
theorem step_at (stepped : step move current input = some next) :
    ∃ before thread after shared moved, current.threads = before ++ thread :: after ∧
      current.threads[input.1]? = some thread ∧ move current.shared thread input.2 = some (shared, moved) ∧
      next = ⟨shared, before ++ moved :: after⟩ := by
  obtain ⟨before, thread, after, shared, moved, split, position, taken, rfl⟩ := step_split stepped
  refine ⟨before, thread, after, shared, moved, split, ?_, taken, rfl⟩
  rw [split, ← position]
  simp

/-- A thread moves in a step that names it and stays as it is in the others. -/
theorem step_thread {index : Nat} {thread : Thread} (here : current.threads[index]? = some thread)
    (stepped : step move current input = some next) :
    (input.1 = index ∧ ∃ moved, move current.shared thread input.2 = some (next.shared, moved) ∧
      next.threads[index]? = some moved) ∨
    (input.1 ≠ index ∧ next.threads[index]? = some thread) := by
  obtain ⟨mover, found, rest⟩ := Option.bind_eq_some_iff.mp stepped
  obtain ⟨⟨shared, moved⟩, taken, rfl⟩ := Option.map_eq_some_iff.mp rest
  by_cases same : input.1 = index
  · rw [same, here, Option.some.injEq] at found
    subst found
    refine Or.inl ⟨same, moved, taken, ?_⟩
    obtain ⟨less, _⟩ := List.getElem?_eq_some_iff.mp here
    dsimp only
    rw [same, List.getElem?_set_self less]
  · refine Or.inr ⟨same, ?_⟩
    dsimp only
    rw [List.getElem?_set_ne same, here]

theorem mem_middle {thread other : Thread} :
    other ∈ before ++ thread :: after ↔ thread = other ∨ other ∈ before ++ after := by
  simp only [List.mem_append, List.mem_cons]
  tauto

/-- A total over the threads changes by the share of the thread that moves. -/
theorem sum_replace {Total : Type} [AddCommGroup Total] (share : Thread → Total) (before after : List Thread)
    (thread moved : Thread) : ((before ++ moved :: after).map share).sum + share thread =
      ((before ++ thread :: after).map share).sum + share moved := by
  simp only [List.map_append, List.map_cons, List.sum_append, List.sum_cons]
  abel

/-- Threads that hold different things still do when one of them keeps what it holds or takes a new thing. -/
theorem nodup_replace {thread moved : Thread} (distinct : ((before ++ thread :: after).filterMap hold).Nodup)
    (own : hold moved = hold thread ∨ hold thread = none ∧ ∃ thing, hold moved = some thing ∧
      ∀ other ∈ before ++ after, hold other ≠ some thing) :
    ((before ++ moved :: after).filterMap hold).Nodup := by
  rcases own with same | ⟨empty, thing, holds, absent⟩
  · rw [List.filterMap_append, List.filterMap_cons, same, ← List.filterMap_cons, ← List.filterMap_append]
    exact distinct
  · rw [List.filterMap_append, List.filterMap_cons_none empty, ← List.filterMap_append] at distinct
    rw [List.filterMap_append, List.filterMap_cons_some holds, List.nodup_middle, ← List.filterMap_append,
      List.nodup_cons]
    refine ⟨?_, distinct⟩
    intro inside
    obtain ⟨other, member, point⟩ := List.mem_filterMap.mp inside
    exact absent other member point

/-- Threads that hold different things still do when one of them gives up what it holds. -/
theorem nodup_release {thread moved : Thread} (distinct : ((before ++ thread :: after).filterMap hold).Nodup)
    (released : hold moved = none) : ((before ++ moved :: after).filterMap hold).Nodup := by
  rw [List.filterMap_append, List.filterMap_cons_none released, ← List.filterMap_append]
  refine distinct.sublist (List.Sublist.filterMap hold ?_)
  exact (List.sublist_cons_self thread after).append_left before

/-- No other thread holds what a thread holds. -/
theorem not_held {thread : Thread}
    {thing : Thing} (distinct : ((before ++ thread :: after).filterMap hold).Nodup) (own : hold thread = some thing) :
    thing ∉ (before ++ after).filterMap hold := by
  rw [List.filterMap_append, List.filterMap_cons_some own, List.nodup_middle, ← List.filterMap_append,
    List.nodup_cons] at distinct
  exact distinct.1

/-- Threads that hold different things are told apart by what they hold. -/
theorem index_unique {threads : List Thread}
    (distinct : (threads.filterMap hold).Nodup) {first second : Nat} {one other : Thread} {thing : Thing}
    (foundOne : threads[first]? = some one) (foundOther : threads[second]? = some other)
    (holdsOne : hold one = some thing) (holdsOther : hold other = some thing) : first = second := by
  induction threads generalizing first second with
  | nil => cases foundOne
  | cons head rest ih =>
      have tail : (rest.filterMap hold).Nodup :=
        distinct.sublist ((List.sublist_cons_self head rest).filterMap hold)
      have alone {index : Nat} {thread : Thread} (found : rest[index]? = some thread)
          (headHolds : hold head = some thing) : hold thread ≠ some thing := by
        intro holds
        rw [List.filterMap_cons_some headHolds] at distinct
        exact (List.nodup_cons.mp distinct).1
          (List.mem_filterMap.mpr ⟨thread, List.mem_of_getElem? found, holds⟩)
      cases first with
      | zero =>
          cases foundOne
          cases second with
          | zero => rfl
          | succ index => exact absurd holdsOther (alone foundOther holdsOne)
      | succ index =>
          cases second with
          | zero =>
              cases foundOther
              exact absurd holdsOne (alone foundOne holdsOther)
          | succ later => exact congrArg Nat.succ (ih tail foundOne foundOther)

/-- The facts after one step follow from what the thread that moves does for itself and for the others. -/
theorem step_facts {common : Shared → Prop} {fact : Shared → Thread → Prop}
    {current next : Configuration Shared Thread} {input : Nat × Choice}
    (facts : ∀ thread ∈ current.threads, fact current.shared thread)
    (stepped : step move current input = some next)
    (own : ∀ thread shared moved, current.threads[input.1]? = some thread →
      move current.shared thread input.2 = some (shared, moved) →
        common shared ∧ fact shared moved ∧ ∀ other, fact current.shared other → fact shared other) :
    common next.shared ∧ ∀ thread ∈ next.threads, fact next.shared thread := by
  obtain ⟨before, thread, after, shared, moved, split, position, taken, rfl⟩ := step_split stepped
  have found : current.threads[input.1]? = some thread := by
    rw [split, ← position]
    simp
  obtain ⟨shares, settled, keeps⟩ := own thread shared moved found taken
  refine ⟨shares, ?_⟩
  intro other inside
  rw [List.mem_append, List.mem_cons] at inside
  rcases inside with left | rfl | right
  · exact keeps other (facts other (by simp [split, left]))
  · exact settled
  · exact keeps other (facts other (by simp [split, right]))

/-- Facts that every thread keeps for itself and for the others hold after every step. -/
theorem step_forall {common : Shared → Prop} {fact : Shared → Thread → Prop}
    (own : ∀ shared thread choice shared' thread', common shared → fact shared thread →
      move shared thread choice = some (shared', thread') → common shared' ∧ fact shared' thread')
    (others : ∀ shared thread choice shared' thread' other, common shared → fact shared thread →
      fact shared other → move shared thread choice = some (shared', thread') → fact shared' other)
    (holds : common current.shared ∧ ∀ thread ∈ current.threads, fact current.shared thread)
    (stepped : step move current input = some next) :
    common next.shared ∧ ∀ thread ∈ next.threads, fact next.shared thread := by
  obtain ⟨before, thread, after, shared, moved, split, _, taken, rfl⟩ := step_split stepped
  have member : thread ∈ current.threads := by simp [split]
  obtain ⟨shares, settled⟩ := own _ _ _ _ _ holds.1 (holds.2 thread member) taken
  refine ⟨shares, ?_⟩
  intro other inside
  rw [List.mem_append, List.mem_cons] at inside
  have keeps (old : other ∈ current.threads) : fact shared other :=
    others _ _ _ _ _ other holds.1 (holds.2 thread member) (holds.2 other old) taken
  rcases inside with left | rfl | right
  · exact keeps (by simp [split, left])
  · exact settled
  · exact keeps (by simp [split, right])

end

end Barton.Threads
