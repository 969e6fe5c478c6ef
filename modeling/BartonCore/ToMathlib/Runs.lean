import Mathlib.Tactic

namespace Barton.Runs
variable {State Input : Type} (step : State → Input → Option State)

/-- A run applies the inputs in order and stops at the first input without a next state. -/
def run (start : State) : List Input → Option State
  | [] => some start
  | input :: rest => (step start input).bind fun next => run next rest

/-- Every input of the run meets the guard in the state that it reaches. -/
def Guarded (guard : State → Input → Prop) (start : State) : List Input → Prop
  | [] => True
  | input :: rest => guard start input ∧ ∀ next, step start input = some next → Guarded guard next rest

instance decidableGuarded (guard : State → Input → Prop) [∀ state input, Decidable (guard state input)]
    (start : State) : (inputs : List Input) → Decidable (Guarded step guard start inputs)
  | [] => isTrue trivial
  | input :: rest =>
      match stepped : step start input with
      | none => decidable_of_iff (guard start input)
          ⟨fun allowed => ⟨allowed, fun _ same => by rw [stepped] at same; contradiction⟩, fun both => both.1⟩
      | some next =>
          let := decidableGuarded guard next rest
          decidable_of_iff (guard start input ∧ Guarded step guard next rest)
            ⟨fun both => ⟨both.1, fun _ same => by
              rw [stepped] at same
              cases same
              exact both.2⟩, fun both => ⟨both.1, both.2 next stepped⟩⟩

theorem run_append (start : State) (first second : List Input) :
    run step start (first ++ second) = (run step start first).bind fun middle =>
      run step middle second := by
  induction first generalizing start with
  | nil => rfl
  | cons input rest ih =>
      rw [List.cons_append, run, run]
      cases step start input with
      | none => rfl
      | some next => exact ih next

/-- A property that every step keeps holds after every run. -/
theorem invariant (property : State → Prop)
    (kept : ∀ state input next, property state → step state input = some next → property next)
    {start final : State} {inputs : List Input} (initial : property start)
    (reached : run step start inputs = some final) : property final := by
  induction inputs generalizing start with
  | nil =>
      rw [run, Option.some.injEq] at reached
      exact reached ▸ initial
  | cons input rest ih =>
      obtain ⟨next, stepped, later⟩ := Option.bind_eq_some_iff.mp reached
      exact ih (kept start input next initial stepped) later

/-- A property that guarded steps keep holds after every guarded run. -/
theorem Guarded.invariant {guard : State → Input → Prop} (property : State → Prop)
    (kept : ∀ state input next, property state → guard state input → step state input = some next →
      property next)
    {start final : State} {inputs : List Input} (guarded : Guarded step guard start inputs)
    (initial : property start) (reached : run step start inputs = some final) : property final := by
  induction inputs generalizing start with
  | nil =>
      rw [run, Option.some.injEq] at reached
      exact reached ▸ initial
  | cons input rest ih =>
      obtain ⟨next, stepped, later⟩ := Option.bind_eq_some_iff.mp reached
      exact ih (guarded.2 next stepped) (kept start input next initial guarded.1 stepped) later

/-- A run that meets two guards meets both at every step. -/
theorem Guarded.and {first second : State → Input → Prop} {start : State} {inputs : List Input}
    (one : Guarded step first start inputs) (other : Guarded step second start inputs) :
    Guarded step (fun state input => first state input ∧ second state input) start inputs := by
  induction inputs generalizing start with
  | nil => trivial
  | cons input rest ih =>
      constructor
      · exact ⟨one.1, other.1⟩
      · exact fun next stepped => ih (one.2 next stepped) (other.2 next stepped)

/-- The beginning of a guarded run is guarded. -/
theorem Guarded.take {guard : State → Input → Prop} {start : State} {first second : List Input}
    (guarded : Guarded step guard start (first ++ second)) : Guarded step guard start first := by
  induction first generalizing start with
  | nil => trivial
  | cons input rest ih => exact ⟨guarded.1, fun next stepped => ih (guarded.2 next stepped)⟩

/-- The rest of a guarded run is guarded. -/
theorem Guarded.drop {guard : State → Input → Prop} {start middle : State} {first second : List Input}
    (guarded : Guarded step guard start (first ++ second)) (reached : run step start first = some middle) :
    Guarded step guard middle second := by
  induction first generalizing start with
  | nil =>
      rw [run, Option.some.injEq] at reached
      exact reached ▸ guarded
  | cons input rest ih =>
      obtain ⟨next, stepped, later⟩ := Option.bind_eq_some_iff.mp reached
      exact ih (guarded.2 next stepped) later

/-- A guard on the inputs alone holds in every state. -/
theorem Guarded.of_forall {allowed : Input → Prop} {inputs : List Input}
    (each : ∀ input ∈ inputs, allowed input) (start : State) :
    Guarded step (fun _ input => allowed input) start inputs := by
  induction inputs generalizing start with
  | nil => trivial
  | cons input rest ih =>
      constructor
      · exact each input List.mem_cons_self
      · exact fun next _ => ih (fun other member => each other (List.mem_cons_of_mem _ member)) next

end Barton.Runs
