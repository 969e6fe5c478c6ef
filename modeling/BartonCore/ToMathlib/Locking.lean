import BartonCore.ToMathlib.Threads

namespace Barton.Locking
open Threads

/-- A thread takes a mutex, releases one or does neither. -/
inductive Operation (Mutex : Type) where
  | lock (mutex : Mutex)
  | unlock (mutex : Mutex)
  | pass

/-- A thread is at a point of its code. -/
structure Thread (Point : Type) where
  id : Nat
  point : Point

/-- The owner of a mutex is the id of the thread that has taken it. -/
structure Shared (Mutex Data : Type) where
  data : Data
  owner : Mutex → Option Nat

section
variable {Mutex Data Point Choice : Type} [DecidableEq Mutex]

/-- A mutex can be taken when it has no owner. -/
def Operation.apply (owner : Mutex → Option Nat) (id : Nat) : Operation Mutex → Option (Mutex → Option Nat)
  | .lock mutex => if owner mutex = none then some (Function.update owner mutex (some id)) else none
  | .unlock mutex => some (Function.update owner mutex none)
  | .pass => some owner

/-- A thread moves as its code says when the operation on the mutexes is possible. -/
def move (next : Data → Point → Choice → Option (Operation Mutex × Data × Point)) (shared : Shared Mutex Data)
    (thread : Thread Point) (choice : Choice) : Option (Shared Mutex Data × Thread Point) :=
  (next shared.data thread.point choice).bind fun taken =>
    (taken.1.apply shared.owner thread.id).map fun owner =>
      (⟨taken.2.1, owner⟩, ⟨thread.id, taken.2.2⟩)

theorem apply_lock {owner changed : Mutex → Option Nat} {id : Nat} {mutex : Mutex}
    (applied : (Operation.lock mutex).apply owner id = some changed) :
    owner mutex = none ∧ changed = Function.update owner mutex (some id) := by
  rw [Operation.apply] at applied
  by_cases free : owner mutex = none
  · rw [if_pos free] at applied
    cases applied
    exact ⟨free, rfl⟩
  · rw [if_neg free] at applied
    cases applied

/-- A move is a step of the code with its operation on the mutexes. -/
theorem move_cases {next : Data → Point → Choice → Option (Operation Mutex × Data × Point)}
    {shared changed : Shared Mutex Data} {thread moved : Thread Point} {choice : Choice}
    (moves : move next shared thread choice = some (changed, moved)) :
    ∃ operation, next shared.data thread.point choice = some (operation, changed.data, moved.point) ∧
      operation.apply shared.owner thread.id = some changed.owner ∧ moved.id = thread.id := by
  obtain ⟨⟨operation, data, point⟩, taken, applied⟩ := Option.bind_eq_some_iff.mp moves
  obtain ⟨owner, released, same⟩ := Option.map_eq_some_iff.mp applied
  cases same
  exact ⟨operation, taken, released, rfl⟩

end

section
variable {Mutex Data Point Choice : Type}

/-- The mutexes that the points claim to hold change as the operation says. -/
def Follows (held : Point → List Mutex) (point moved : Point) : Operation Mutex → Prop
  | .lock mutex => ∀ other, other ∈ held moved ↔ other = mutex ∨ other ∈ held point
  | .unlock mutex => mutex ∈ held point ∧ ∀ other, other ∈ held moved ↔ other ≠ mutex ∧ other ∈ held point
  | .pass => ∀ other, other ∈ held moved ↔ other ∈ held point

section
variable {held : Point → List Mutex} {point moved : Point}

theorem follows_lock {mutex : Mutex} (same : held moved = mutex :: held point) :
    Follows held point moved (.lock mutex) := by
  intro other
  rw [same, List.mem_cons]

theorem follows_unlock {mutex : Mutex} (same : held point = mutex :: held moved) (absent : mutex ∉ held moved) :
    Follows held point moved (.unlock mutex) := by
  refine ⟨by rw [same]; exact List.mem_cons_self, ?_⟩
  intro other
  rw [same, List.mem_cons]
  constructor
  · exact fun inside => ⟨fun equal => absent (equal ▸ inside), Or.inr inside⟩
  · rintro ⟨differs, rfl | inside⟩
    · exact absurd rfl differs
    · exact inside

theorem follows_pass (same : held moved = held point) : Follows held point moved .pass := by
  intro other
  rw [same]

end

/-- A mutex has an owner exactly when the owner is at a point that holds it. -/
structure Owned (held : Point → List Mutex) (current : Configuration (Shared Mutex Data) (Thread Point)) :
    Prop where
  ids : (current.threads.map Thread.id).Nodup
  owner : ∀ mutex id, current.shared.owner mutex = some id ↔
    ∃ thread ∈ current.threads, thread.id = id ∧ mutex ∈ held thread.point

variable {held : Point → List Mutex} {current next : Configuration (Shared Mutex Data) (Thread Point)}

theorem owned_initial {data : Data} {threads : List (Thread Point)} (ids : (threads.map Thread.id).Nodup)
    (free : ∀ thread ∈ threads, held thread.point = []) : Owned held ⟨⟨data, fun _ => none⟩, threads⟩ := by
  refine ⟨ids, ?_⟩
  intro mutex id
  constructor
  · exact nofun
  · rintro ⟨thread, member, _, holds⟩
    rw [free thread member] at holds
    cases holds

/-- A thread with the id of an owner is at a point that holds the mutex. -/
theorem Owned.holds (owned : Owned held current) {thread : Thread Point} (member : thread ∈ current.threads)
    {mutex : Mutex} (owner : current.shared.owner mutex = some thread.id) : mutex ∈ held thread.point := by
  obtain ⟨other, inside, same, holds⟩ := (owned.owner mutex thread.id).mp owner
  rwa [List.inj_on_of_nodup_map owned.ids inside member same] at holds

theorem exists_replace {before after : List (Thread Point)} {thread : Thread Point}
    {property : Thread Point → Prop} : (∃ other ∈ before ++ thread :: after, property other) ↔
      property thread ∨ ∃ other ∈ before ++ after, property other := by
  constructor
  · rintro ⟨other, member, fact⟩
    rcases List.mem_append.mp member with left | right
    · exact Or.inr ⟨other, List.mem_append_left _ left, fact⟩
    · rcases List.mem_cons.mp right with rfl | right
      · exact Or.inl fact
      · exact Or.inr ⟨other, List.mem_append_right _ right, fact⟩
  · rintro (fact | ⟨other, member, fact⟩)
    · exact ⟨thread, by simp, fact⟩
    · refine ⟨other, ?_, fact⟩
      rcases List.mem_append.mp member with left | right
      · exact List.mem_append_left _ left
      · exact List.mem_append_right _ (List.mem_cons_of_mem _ right)

/-- No other thread holds a mutex that a thread holds. -/
theorem Owned.alone (owned : Owned held current) {before after : List (Thread Point)} {thread : Thread Point}
    (split : current.threads = before ++ thread :: after) {mutex : Mutex} (mine : mutex ∈ held thread.point)
    {other : Thread Point} (member : other ∈ before ++ after) : mutex ∉ held other.point := by
  intro holds
  have here : thread ∈ current.threads := by simp [split]
  have inside : other ∈ current.threads := by
    rw [split]
    exact mem_middle.mpr (Or.inr member)
  have owner := (owned.owner mutex thread.id).mpr ⟨thread, here, rfl, mine⟩
  rw [(owned.owner mutex other.id).mpr ⟨other, inside, rfl, holds⟩] at owner
  have ids := owned.ids
  rw [split, List.map_append, List.map_cons, List.nodup_middle, ← List.map_append] at ids
  exact (List.nodup_cons.mp ids).1 (Option.some.inj owner ▸ List.mem_map_of_mem member)

/-- The owners follow the points along a step. -/
theorem Owned.step [DecidableEq Mutex] {code : Data → Point → Choice → Option (Operation Mutex × Data × Point)}
    {input : Nat × Choice} (owned : Owned held current)
    (follows : ∀ thread operation data moved, current.threads[input.1]? = some thread →
      code current.shared.data thread.point input.2 = some (operation, data, moved) →
        Follows held thread.point moved operation)
    (stepped : Threads.step (move code) current input = some next) : Owned held next := by
  obtain ⟨before, thread, after, shared, moved, split, position, moves, rfl⟩ := step_split stepped
  obtain ⟨⟨operation, data, point⟩, taken, applied⟩ := Option.bind_eq_some_iff.mp moves
  obtain ⟨owner, changed, same⟩ := Option.map_eq_some_iff.mp applied
  cases same
  have found : current.threads[input.1]? = some thread := by
    rw [split, ← position]
    simp
  have follow := follows thread operation data point found taken
  have ids := owned.ids
  have owners := owned.owner
  simp only [split, exists_replace] at owners
  rw [split] at ids
  refine ⟨by simpa using ids, ?_⟩
  intro mutex id
  rw [exists_replace]
  dsimp only
  have distinct (other : Thread Point) (member : other ∈ before ++ after) : other.id ≠ thread.id := by
    rw [List.map_append, List.map_cons, List.nodup_middle, ← List.map_append] at ids
    exact fun same => (List.nodup_cons.mp ids).1 (same ▸ List.mem_map_of_mem member)
  cases operation with
  | pass =>
      cases changed
      rw [owners, follow mutex]
  | lock wanted =>
      obtain ⟨free, rfl⟩ := apply_lock changed
      rw [follow mutex]
      by_cases equal : mutex = wanted
      · subst equal
        rw [Function.update_self]
        constructor
        · intro mine
          cases mine
          exact Or.inl ⟨rfl, Or.inl rfl⟩
        · rintro (⟨rfl, _⟩ | other)
          · rfl
          · rw [(owners mutex id).mpr (Or.inr other)] at free
            cases free
      · rw [Function.update_of_ne equal, owners]
        simp [equal]
  | unlock released =>
      cases changed
      rw [follow.2 mutex]
      by_cases equal : mutex = released
      · subst equal
        rw [Function.update_self]
        constructor
        · exact nofun
        · rintro (⟨_, differs, _⟩ | ⟨other, member, same, holds⟩)
          · exact absurd rfl differs
          · have mine := (owners mutex thread.id).mpr (Or.inl ⟨rfl, follow.1⟩)
            rw [(owners mutex other.id).mpr (Or.inr ⟨other, member, rfl, holds⟩)] at mine
            exact absurd (Option.some.inj mine) (distinct other member)
      · rw [Function.update_of_ne equal, owners]
        simp [equal]

end

end Barton.Locking
