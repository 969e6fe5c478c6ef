import BartonCore.Construction.DeviceService.Properties

namespace Barton.PropertyProvider
open Database Registry

/-- The hooks of this client look up, list, and update one map. -/
structure MapProvider (State : Type) where
  iface : BCorePropertyProviderInterface State
  properties : State → Table String String
  lookup : ∀ hook ∈ iface.getProperty, ∀ state name, hook state name =
    match (properties state).lookup name with
    | some value => (some value, none)
    | none => (none, some .notFound)
  listing : ∀ hook ∈ iface.getAllProperties, ∀ state name,
    (hook state).lookup name = (properties state).lookup name
  update : ∀ hook ∈ iface.setProperty, ∀ state name value, (hook state name value).1.1 = true → ∀ other,
    (properties (hook state name value).2).lookup other =
      if other = name then some value else (properties state).lookup other

section Views
variable {State : Type} (provider : MapProvider State) (world : World State)

/-- The value of the client is there if there is a hook for it. -/
def theirs (name : String) : Option String := (provider.properties world.client).lookup name

def ours (name : String) : Option String := world.systemProperties.lookup name

/-- A missing value is an error. -/
def found : Option String → Lookup
  | some value => (some value, none)
  | none => (none, some .notFound)

theorem found_eq_iff {value : Option String} {wanted : String} :
    found value = (some wanted, none) ↔ value = some wanted := by
  cases value with
  | none => exact iff_of_false (fun same => by cases same) fun same => by cases same
  | some value => exact ⟨fun same => congrArg Prod.fst same, fun same => by rw [same]; rfl⟩

/-- The lookup prefers the value of the client. -/
theorem getProperty_eq (name : String) : bCorePropertyProviderGetProperty provider.iface world (some name) =
    found (if provider.iface.getProperty.isSome then (theirs provider world name).or (ours world name)
      else ours world name) := by
  have internal : getInternalProperty world name = found (ours world name) := by
    rw [getInternalProperty, jsonDatabaseGetSystemPropertyNoLock, ours]
    cases world.systemProperties.lookup name <;> rfl
  rw [bCorePropertyProviderGetProperty, hookProperty, internal]
  cases hooked : provider.iface.getProperty with
  | none => rfl
  | some hook =>
      rw [Option.elim_some, provider.lookup hook hooked, Option.isSome_some, if_pos rfl, theirs]
      cases (provider.properties world.client).lookup name <;> rfl

/-- The listing prefers the internal value. -/
theorem getAllProperties_lookup (name : String) :
    (bCorePropertyProviderGetAllProperties provider.iface world).lookup name =
      if provider.iface.getAllProperties.isSome then (ours world name).or (theirs provider world name)
      else ours world name := by
  have copied : (jsonDatabaseGetAllSystemPropertiesNoLock world.systemProperties ∅).lookup name = ours world name := by
    rw [jsonDatabaseGetAllSystemPropertiesNoLock, Table.lookup_putAll, AList.lookup_empty, Option.none_or]
    rfl
  rw [bCorePropertyProviderGetAllProperties, Table.lookup_insertAll _ _ _ (AList.nodupKeys _)]
  change (AList.lookup name _).or _ = _
  rw [copied]
  cases hooked : provider.iface.getAllProperties with
  | none => rw [Option.elim_none, AList.lookup_empty, Option.or_none]; rfl
  | some hook => rw [Option.elim_some, provider.listing hook hooked, Option.isSome_some, if_pos rfl, theirs]

/-- The listing holds exactly what the lookup finds. -/
def ViewsAgree : Prop :=
  ∀ name value, (bCorePropertyProviderGetAllProperties provider.iface world).lookup name = some value ↔
    bCorePropertyProviderGetProperty provider.iface world (some name) = (some value, none)

/-- The hooks of the client decide when a name may have a value in only one layer or two values. -/
def LayersAgree (looks lists : Bool) (theirs ours : Option String) : Prop :=
  match looks, lists with
  | true, true => ∀ first second, theirs = some first → ours = some second → first = second
  | true, false => ∀ first, theirs = some first → ours = some first
  | false, true => theirs.isSome = true → ours.isSome = true
  | false, false => True

def ViewsWithin : Prop :=
  ∀ name, LayersAgree provider.iface.getProperty.isSome provider.iface.getAllProperties.isSome
    (theirs provider world name) (ours world name)

theorem layersAgree_iff (looks lists : Bool) (theirs ours : Option String) :
    (if lists then ours.or theirs else ours) = (if looks then theirs.or ours else ours) ↔
      LayersAgree looks lists theirs ours := by
  rcases theirs with _ | first <;> rcases ours with _ | second <;> cases looks <;> cases lists <;>
    simp [LayersAgree, eq_comm]

theorem viewsAgree_iff : ViewsAgree provider world ↔ ViewsWithin provider world := by
  refine forall_congr' fun name => ?_
  rw [← layersAgree_iff, ← getAllProperties_lookup provider world name, Option.ext_iff]
  refine forall_congr' fun value => ?_
  rw [getProperty_eq, found_eq_iff]

end Views

section Sets
variable {State : Type} (provider : MapProvider State) (lib : Library)

/-- This is the value that is set last under a name. -/
def lastSet (name : String) : List Setting → Option String
  | [] => none
  | setting :: rest => (lastSet name rest).or (if name = setting.name then some setting.value else none)

/-- The lookup returns what was set last. -/
def SetsReturned (final : World State) (settings : List Setting) : Prop :=
  ∀ name value, lastSet name settings = some value →
    bCorePropertyProviderGetProperty provider.iface final (some name) = (some value, none)

/-- A value that is set in one layer is not looked up in the other one, unless it is there too. -/
def SettingAgrees (looks sets : Bool) (theirs ours : Option String) (value : String) : Prop :=
  match looks, sets with
  | true, true => True
  | true, false => ∀ first, theirs = some first → first = value
  | false, true => ours = some value
  | false, false => True

def SetsWithin (world : World State) (settings : List Setting) : Prop :=
  ∀ name value, lastSet name settings = some value →
    SettingAgrees provider.iface.getProperty.isSome provider.iface.setProperty.isSome (theirs provider world name)
      (ours world name) value

variable {provider lib} {world final : World State} {settings : List Setting}

theorem setHook_run {hook : State → String → String → (Bool × Option BCorePropertyProviderError) × State}
    (hooked : provider.iface.setProperty = some hook) (ran : setProperties provider.iface lib world settings = some final)
    (name : String) :
    theirs provider final name = (lastSet name settings).or (theirs provider world name) ∧
      ours final name = ours world name := by
  induction settings generalizing world with
  | nil =>
      cases ran
      exact ⟨(Option.none_or).symm, rfl⟩
  | cons setting rest ih =>
      rw [setProperties, bCorePropertyProviderSetProperty, hooked] at ran
      dsimp only at ran
      split_ifs at ran with done
      obtain ⟨theirsRun, oursRun⟩ := ih ran
      refine ⟨?_, oursRun⟩
      rw [theirsRun, theirs, provider.update hook hooked _ _ _ done, lastSet, Option.or_assoc, theirs]
      congr 1
      split_ifs <;> rfl

/-- The database keeps the value that was there under every other name. -/
theorem setSystemProperty_lookup (process : Process) (name value : String) (stored : Bool) (other : String) :
    ((jsonDatabaseSetSystemPropertyNoLock lib process name value stored).2.systemProperties.getD ∅).lookup other =
      if other = name then some value else (process.systemProperties.getD ∅).lookup other := by
  have kept : (jsonDatabaseSetSystemPropertyNoLock lib process name value stored).2.systemProperties =
      some (AList.insert name value (AList.erase name (process.systemProperties.getD ∅))) := by
    cases stored <;> rfl
  rw [kept, Option.getD_some]
  by_cases same : other = name
  · rw [if_pos same, same, AList.lookup_insert]
  · rw [if_neg same, AList.lookup_insert_ne same, AList.lookup_erase_ne same]

theorem setInternalProperty_eq (world : World State) (name value : String) (stored : Bool) :
    (setInternalProperty provider.iface lib world name value stored).world =
      { world with process := (jsonDatabaseSetSystemPropertyNoLock lib world.process name value stored).2 } := by
  have readable : ∀ current : Option String, (found current).2.all fun error => error = .notFound := by
    intro current
    cases current <;> rfl
  rw [setInternalProperty, getProperty_eq]
  dsimp only
  rw [if_pos (readable _)]
  split_ifs <;> rfl

theorem setInternal_run (unhooked : provider.iface.setProperty = none)
    (ran : setProperties provider.iface lib world settings = some final) (name : String) :
    theirs provider final name = theirs provider world name ∧
      ours final name = (lastSet name settings).or (ours world name) := by
  induction settings generalizing world with
  | nil =>
      cases ran
      exact ⟨rfl, (Option.none_or).symm⟩
  | cons setting rest ih =>
      rw [setProperties, bCorePropertyProviderSetProperty, unhooked] at ran
      dsimp only at ran
      split_ifs at ran with done
      rw [setInternalProperty_eq] at ran
      obtain ⟨theirsRun, oursRun⟩ := ih ran
      refine ⟨theirsRun, ?_⟩
      rw [oursRun, ours, World.systemProperties, setSystemProperty_lookup, lastSet, Option.or_assoc, ours,
        World.systemProperties]
      congr 1
      split_ifs <;> rfl

theorem setsReturned_iff (ran : setProperties provider.iface lib world settings = some final) :
    SetsReturned provider final settings ↔ SetsWithin provider world settings := by
  refine forall_congr' fun name => forall_congr' fun value => imp_congr_right fun last => ?_
  rw [getProperty_eq, found_eq_iff]
  cases hooked : provider.iface.setProperty with
  | some hook =>
      obtain ⟨theirsRun, oursRun⟩ := setHook_run hooked ran name
      rw [theirsRun, oursRun, last, Option.some_or, Option.some_or, Option.isSome_some]
      cases looked : provider.iface.getProperty.isSome with
      | true => exact iff_of_true (if_pos rfl) trivial
      | false => exact Iff.rfl
  | none =>
      obtain ⟨theirsRun, oursRun⟩ := setInternal_run hooked ran name
      rw [theirsRun, oursRun, last, Option.some_or, Option.isSome_none]
      cases looked : provider.iface.getProperty.isSome with
      | false => exact iff_of_true rfl trivial
      | true =>
          rw [if_pos rfl, SettingAgrees]
          cases theirs provider world name with
          | none => exact iff_of_true rfl fun first same => by cases same
          | some first => simp

/-- The listing agrees with the lookup exactly if the layers agree where both are asked, and the lookup returns what was
set last exactly if the setter writes to the layer that the lookup prefers, or the value is there. -/
theorem properties_iff (provider : MapProvider State) :
    (∀ world, ViewsAgree provider world ↔ ViewsWithin provider world) ∧
      ∀ lib world settings final, setProperties provider.iface lib world settings = some final →
        (SetsReturned provider final settings ↔ SetsWithin provider world settings) :=
  ⟨viewsAgree_iff provider, fun _ _ _ _ ran => setsReturned_iff ran⟩

end Sets

section Counterexample

/-- This client keeps its properties in a table. -/
def tableProvider : MapProvider (Table String String) where
  iface :=
    { getProperty := some fun table name => found (table.lookup name)
      getAllProperties := some id
      setProperty := some fun table name value => ((true, none), AList.insert name value table) }
  properties := id
  lookup hook hooked state name := by
    cases hooked
    dsimp only [id]
    cases state.lookup name <;> rfl
  listing hook hooked state name := by
    cases hooked
    rfl
  update hook hooked state name value done other := by
    cases hooked
    by_cases same : other = name
    · rw [if_pos same, same]
      exact AList.lookup_insert _
    · rw [if_neg same]
      exact AList.lookup_insert_ne same

/-- The layers have no property in common. -/
def disjointWorld : World (Table String String) :=
  ⟨AList.insert "name" "client" ∅, ⟨some (AList.insert "place" "internal" ∅), none, ∅⟩⟩

/-- The listing agrees with the lookup, and a property that is set is looked up. -/
theorem properties_iff_table : ViewsAgree tableProvider disjointWorld ∧
    ∀ lib final, setProperties tableProvider.iface lib disjointWorld [⟨"place", "client", true⟩] = some final →
      bCorePropertyProviderGetProperty tableProvider.iface final (some "place") = (some "client", none) := by
  obtain ⟨views, sets⟩ := properties_iff tableProvider
  constructor
  · refine (views disjointWorld).mpr fun name first second client internal => ?_
    have named : name = "name" := by
      by_contra other
      change (AList.insert "name" "client" ∅ : Table String String).lookup name = some first at client
      rw [AList.lookup_insert_ne other, AList.lookup_empty] at client
      cases client
    subst named
    cases internal
  · intro lib final ran
    have within : SetsWithin tableProvider disjointWorld [⟨"place", "client", true⟩] := fun _ _ _ => trivial
    exact (sets lib disjointWorld _ final ran).mpr within "place" "client" rfl

/-- A property has one value in the table and another one in the database. -/
def dividedWorld : World (Table String String) :=
  ⟨AList.insert "name" "client" ∅, ⟨some (AList.insert "name" "internal" ∅), none, ∅⟩⟩

theorem not_properties :
    ¬ ∀ provider : MapProvider (Table String String), (∀ world, ViewsAgree provider world) ∧
      ∀ lib world settings final, setProperties provider.iface lib world settings = some final →
        SetsReturned provider final settings := by
  intro always
  have listed : (bCorePropertyProviderGetAllProperties tableProvider.iface dividedWorld).lookup "name" =
      some "internal" := by decide
  have found := ((always tableProvider).1 dividedWorld "name" "internal").mp listed
  exact absurd found (by decide)

end Counterexample
end Barton.PropertyProvider
