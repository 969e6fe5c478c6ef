import BartonCore.Construction.Sbmd.Invocations
import BartonCore.Proof.Sbmd.DispatchOrder
import BartonCore.Proof.Sbmd.Results

namespace Barton.Invocations
open Results
open PersistentData (ResultOp FetchedSupplement populate)
open Dispatch (Kind SbmdRegistration scan occurrences)

section TransientData
variable (environment : Environment)

/-- These are the writes of transient data in a log. -/
def writes (log : List Effect) : Expiry.History (String × String) String Nat :=
  log.filterMap fun
    | .stored deviceUuid key value ttlSecs now => some ((deviceUuid, key), ⟨value, now + ttlSecs.toNat * 1000000000⟩)
    | _ => none

/-- Every read returns the last write of its key on its device unless it has expired. -/
def Consistent (log : List Effect) : Prop :=
  ∀ before after deviceUuid key now value, log = before ++ .fetched deviceUuid key now value :: after →
    value = Expiry.current (deviceUuid, key) now (writes before)

/-- The store agrees with the log from the next reading of the clock on. -/
structure Agrees (world : World) : Prop where
  represents : Expiry.Represents world.store (writes world.log) (environment.clock world.readings)
  consistent : Consistent world.log

theorem writes_append (first second : List Effect) : writes (first ++ second) = writes first ++ writes second :=
  List.filterMap_append

/-- An effect that is no read keeps a log consistent. -/
theorem Consistent.append {log : List Effect} (consistent : Consistent log) {effect : Effect}
    (read : ∀ deviceUuid key now value, effect = .fetched deviceUuid key now value →
      value = Expiry.current (deviceUuid, key) now (writes log)) : Consistent (log ++ [effect]) := by
  intro before after deviceUuid key now value split
  rcases List.eq_nil_or_concat after with rfl | ⟨rest, last, rfl⟩
  · obtain ⟨same, found⟩ := List.append_inj' split rfl
    rw [← same]
    exact read deviceUuid key now value (List.singleton_inj.mp found)
  · rw [List.concat_eq_append, ← List.cons_append, ← List.append_assoc] at split
    exact consistent before rest deviceUuid key now value (List.append_inj' split rfl).1

variable {environment} (monotone : Monotone environment.clock)
include monotone

theorem agrees_fetchTransient {world : World} (agrees : Agrees environment world) (deviceUuid key : String)
    (fetched : List FetchedSupplement) :
    Agrees environment (fetchTransient environment deviceUuid (world, fetched) key).1 := by
  obtain ⟨value, kept⟩ := agrees.represents.read (deviceUuid, key)
  refine ⟨?_, ?_⟩
  · change Expiry.Represents _ (writes (world.log ++ [_])) _
    rw [writes_append]
    change Expiry.Represents _ (writes world.log ++ []) _
    rw [List.append_nil]
    exact kept.later (monotone (Nat.le_succ _))
  · refine agrees.consistent.append ?_
    rintro _ _ _ _ ⟨⟩
    exact value

theorem agrees_executeOp {world : World} (agrees : Agrees environment world) (deviceUuid : String) (op : ResultOp) :
    Agrees environment (executeOp environment deviceUuid world op) := by
  have silent : Agrees environment { world with log := world.log ++ [.executed deviceUuid op] } := by
    refine ⟨?_, agrees.consistent.append (by rintro _ _ _ _ ⟨⟩)⟩
    change Expiry.Represents _ (writes (world.log ++ [_])) _
    rw [writes_append]
    exact (List.append_nil (writes world.log)).symm ▸ agrees.represents
  cases op with
  | setTransientData key value ttlSecs =>
      refine ⟨?_, agrees.consistent.append (by rintro _ _ _ _ ⟨⟩)⟩
      change Expiry.Represents _ (writes (world.log ++ [_])) _
      rw [writes_append]
      exact (agrees.represents.write (deviceUuid, key) _).later (monotone (Nat.le_succ _))
  | _ => exact silent

theorem agrees_prefetchSupplements {world : World} (agrees : Agrees environment world) (deviceUuid : String)
    (supplements : SbmdSupplements) :
    Agrees environment (prefetchSupplements environment deviceUuid supplements world).1 := by
  unfold prefetchSupplements
  exact List.foldlRecOn (supplements .transientData) (fetchTransient environment deviceUuid)
    (motive := fun fetched => Agrees environment fetched.1)
    (show Agrees environment ((world, []) : World × List FetchedSupplement).1 from agrees)
    fun fetched kept key _ => agrees_fetchTransient monotone kept deviceUuid key fetched.2

theorem agrees_executeOps {world : World} (agrees : Agrees environment world) (deviceUuid : String)
    (ops : List ResultOp) : Agrees environment (executeOps environment deviceUuid ops world) :=
  List.foldlRecOn ops (executeOp environment deviceUuid) agrees
    fun _ kept op _ => agrees_executeOp monotone kept deviceUuid op

theorem agrees_invokeHandler {world : World} (agrees : Agrees environment world) (invocation : Invocation) :
    Agrees environment (invokeHandler environment invocation world).1 := by
  have called {prepared : World} (kept : Agrees environment prepared) (args : Value) :
      Agrees environment { prepared with
        invocations := prepared.invocations + 1
        log := prepared.log ++ [.invoked invocation.handler args] } := by
    refine ⟨?_, kept.consistent.append (by rintro _ _ _ _ ⟨⟩)⟩
    change Expiry.Represents _ (writes (prepared.log ++ [_])) _
    rw [writes_append]
    exact (List.append_nil (writes prepared.log)).symm ▸ kept.represents
  have prepared : Agrees environment (if invocation.prefetched then
      prefetchSupplements environment invocation.deviceUuid invocation.supplements world
      else (world, fun _ => [])).1 := by
    split
    · exact agrees_prefetchSupplements monotone agrees invocation.deviceUuid invocation.supplements
    · exact agrees
  unfold invokeHandler
  dsimp only
  split
  · exact called prepared _
  · exact agrees_executeOps monotone (called prepared _) invocation.deviceUuid _

/-- In every run of handler invocations a transient supplement is the value that was last set for its key on its device,
as long as the value has not expired. -/
theorem transient_reads (invocations : List Invocation) :
    Consistent (invokeAll environment invocations .initial).log := by
  have initial : Agrees environment .initial := by
    refine ⟨fun _ _ _ => rfl, fun before after _ _ _ _ split => ?_⟩
    cases before with
    | nil | cons => cases split
  exact (List.foldlRecOn invocations (fun world invocation => (invokeHandler environment invocation world).1)
    (motive := Agrees environment) initial
    fun _ kept invocation _ => agrees_invokeHandler monotone kept invocation).consistent

end TransientData

/-- A camera asks for a key of its own in every call. -/
def sessions : Category → List String
  | .transientData => ["sessions"]
  | _ => []

/-- The first call stores the sessions for one second, and each reading of the clock is half a second later. -/
def sessionRun : Environment where
  engine := .plain
  clock reading := reading * 500000000
  script
    | 0, _, _ =>
        let builder := (performAll .plain .new
          [.setTransientData (.string (Tlv.units "sessions")) (.string (Tlv.units "{}")) (.whole 1)]).1
        some ((builder.setTerminal [opName "success"]).1.read (.object [opName "success"]))
    | _, _, _ => none
  fetcher _ _ _ := none

theorem transient_reads_sessions :
    Consistent (invokeAll sessionRun (List.replicate 4 ⟨0, "dev", sessions, true, []⟩) .initial).log :=
  transient_reads (fun _ _ earlier => Nat.mul_le_mul_right 500000000 earlier) _

section Supplements

theorem lookup_property (name other : String) (value : Value) (rest : List (String × Value)) :
    List.lookup name ((other, value) :: rest) = if other = name then some value else rest.lookup name := by
  rw [List.lookup_cons]
  by_cases same : other = name
  · rw [if_pos same, beq_iff_eq.mpr same.symm]
  · rw [if_neg same, beq_eq_false_iff_ne.mpr (Ne.symm same)]

theorem lookUp_eq (name : String) (properties : List (String × Value)) :
    lookUp name properties = (properties.lookup name).getD .undefined := by
  induction properties with
  | nil => rfl
  | cons property rest ih =>
      rw [lookUp_cons, lookup_property, ih]
      split
      · rfl
      · rfl

/-- The other properties stay, and the property has its new value. -/
theorem lookup_setProperty (name other : String) (value : Value) (properties : List (String × Value)) :
    (setProperty other value properties).lookup name = if other = name then some value else properties.lookup name := by
  induction properties with
  | nil => exact lookup_property name other value []
  | cons property rest ih =>
      rw [setProperty]
      by_cases replaced : property.1 = other
      · rw [if_pos replaced, lookup_property, lookup_property, replaced]
        split
        · rfl
        · rfl
      · rw [if_neg replaced, lookup_property, lookup_property, ih]
        by_cases same : property.1 = name
        · rw [if_pos same, if_neg fun equal => replaced (same.trans equal.symm), if_pos same]
        · rw [if_neg same, if_neg same]

@[simp] theorem lookUp_setProperty (name other : String) (value : Value) (properties : List (String × Value)) :
    lookUp name (setProperty other value properties) = if other = name then value else lookUp name properties := by
  rw [lookUp_eq, lookup_setProperty, lookUp_eq, apply_ite (Option.getD · Value.undefined)]
  rfl

/-- A declared key is always an own property, and no other key is. -/
theorem lookup_populated (key : String) (declaredKeys : List String) (fetched : List FetchedSupplement) :
    (populated declaredKeys fetched).lookup key =
      if key ∈ declaredKeys then some (supplementValue (populate fetched key)) else none := by
  have general (properties : List (String × Value)) :
      (declaredKeys.foldl (fun properties key =>
        setProperty key (supplementValue (populate fetched key)) properties) properties).lookup key =
      if key ∈ declaredKeys then some (supplementValue (populate fetched key)) else properties.lookup key := by
    induction declaredKeys generalizing properties with
    | nil => rfl
    | cons first rest ih =>
        rw [List.foldl_cons, ih, lookup_setProperty]
        by_cases later : key ∈ rest
        · rw [if_pos later, if_pos (List.mem_cons_of_mem _ later)]
        · by_cases same : first = key
          · rw [if_neg later, if_pos same, same, if_pos List.mem_cons_self]
          · rw [if_neg later, if_neg same, if_neg fun member => same (List.mem_cons.mp member |>.resolve_right later).symm]
  exact general []

theorem Category.key_injective : Function.Injective Category.key := by
  intro first second same
  cases first <;> cases second <;> first | rfl | simp [Category.key] at same

/-- Every object has the names of `Object.prototype`, which has no name of the wire contract. -/
structure Prototype where
  value : String → Value
  no_supplements : value "supplements" = .undefined
  no_category : ∀ category : Category, value category.key = .undefined

/-- This is the expression `value[name]`. A getter stands behind the name `__proto__`. -/
def member (prototype : Prototype) (properties : List (String × Value)) (name : String) : Value :=
  if name = "__proto__" then prototype.value name else (properties.lookup name).getD (prototype.value name)

/-- This is what a handler reads as `args.supplements[category][key]`. The expression throws if there is no object. -/
def readSupplement (prototype : Prototype) (args : List (String × Value)) (category : Category) (key : String) :
    Option Value :=
  match member prototype args "supplements" with
  | .object categories =>
      match member prototype categories category.key with
      | .object properties => some (member prototype properties key)
      | _ => none
  | _ => none

/-- The driver adds supplements to these arguments. -/
inductive Built : List (String × Value) → Prop where
  | attribute (hctx : HandlerContext) (clusterId attributeId : UInt32) (tlvBase64 : String) :
      Built (buildAttributeArgs hctx clusterId attributeId tlvBase64)
  | event (hctx : HandlerContext) (clusterId eventId : UInt32) (tlvBase64 : String) :
      Built (buildEventArgs hctx clusterId eventId tlvBase64)
  | command (hctx : HandlerContext) (clusterId commandId : UInt32) (tlvBase64 : String) :
      Built (buildCommandArgs hctx clusterId commandId tlvBase64)
  | resource (hctx : HandlerContext) (resourceId : String) (input : Option String) :
      Built (buildResourceArgs hctx resourceId input)

theorem Built.lookup_supplements {args : List (String × Value)} (built : Built args) :
    args.lookup "supplements" = none := by
  cases built with
  | _ => rfl

variable (declared : SbmdSupplements) (fetched : FetchedSupplements)

theorem lookup_addCategory (category other : Category) (supplements : List (String × Value)) :
    (addCategory declared fetched supplements other).lookup category.key =
      if other = category ∧ declared category ≠ [] then
        some (.object (populated (declared category) (fetched category)))
      else supplements.lookup category.key := by
  unfold addCategory
  by_cases same : other = category
  · subst same
    cases keys : declared other with
    | nil => simp
    | cons key rest => simp [lookup_setProperty]
  · rw [if_neg fun both : other = category ∧ _ => same both.1]
    split
    · rfl
    · rw [lookup_setProperty, if_neg fun equal => same (Category.key_injective equal)]

/-- The object of the supplements has the categories with declared keys. -/
theorem lookup_categories (category : Category) :
    ([.attributes, .resources, .persistentData, .transientData].foldl (addCategory declared fetched) []).lookup
        category.key =
      if declared category = [] then none
      else some (.object (populated (declared category) (fetched category))) := by
  simp only [List.foldl_cons, List.foldl_nil, lookup_addCategory, List.lookup_nil]
  by_cases empty : declared category = []
  · simp [empty]
  · cases category <;> simp [empty]

/-- The arguments carry no supplements when none are declared. -/
theorem addSupplements_none (none : ∀ category, declared category = []) (args : List (String × Value)) :
    addSupplements declared fetched args = args := by
  unfold addSupplements
  simp [none]

theorem lookup_addSupplements {category : Category} (keys : declared category ≠ []) (name : String)
    (args : List (String × Value)) :
    (addSupplements declared fetched args).lookup name =
      if name = "supplements" then some
        (.object ([.attributes, .resources, .persistentData, .transientData].foldl (addCategory declared fetched) []))
      else args.lookup name := by
  have declares : ([.attributes, .resources, .persistentData, .transientData].all
      fun category => (declared category).isEmpty) = false := by
    rw [List.all_eq_false]
    exact ⟨category, by cases category <;> simp, by simpa using keys⟩
  unfold addSupplements
  dsimp only
  rw [declares, if_neg Bool.false_ne_true, lookup_setProperty]
  by_cases same : name = "supplements"
  · rw [if_pos same.symm, if_pos same]
  · rw [if_neg (Ne.symm same), if_neg same]

theorem member_of_ne (prototype : Prototype) {name : String} (plain : name ≠ "__proto__")
    (properties : List (String × Value)) :
    member prototype properties name = (properties.lookup name).getD (prototype.value name) := if_neg plain

/-- Every declared supplement is a text or `null`, any other key reads as in an object without properties, a category
without declared keys is no object, and the other arguments are kept. -/
theorem supplements_declared (prototype : Prototype) {args : List (String × Value)} (built : Built args)
    (plain : ∀ category, "__proto__" ∉ declared category) :
    (∀ category key, readSupplement prototype (addSupplements declared fetched args) category key =
      if declared category = [] then none
      else if key ∈ declared category then some (supplementValue (populate (fetched category) key))
      else some (prototype.value key)) ∧
    ∀ name, name ≠ "supplements" →
      member prototype (addSupplements declared fetched args) name = member prototype args name := by
  by_cases none : ∀ category, declared category = []
  · rw [addSupplements_none declared fetched none]
    refine ⟨fun category key => ?_, fun _ _ => rfl⟩
    rw [readSupplement, member_of_ne prototype (by decide), built.lookup_supplements, Option.getD_none,
      prototype.no_supplements, if_pos (none category)]
  · obtain ⟨some, keys⟩ := not_forall.mp none
    refine ⟨fun category key => ?_, fun name other => ?_⟩
    · have named : category.key ≠ "__proto__" := by cases category <;> decide
      rw [readSupplement, member_of_ne prototype (by decide), lookup_addSupplements declared fetched keys, if_pos rfl,
        Option.getD_some]
      dsimp only
      rw [member_of_ne prototype named, lookup_categories]
      by_cases empty : declared category = []
      · rw [if_pos empty, if_pos empty, Option.getD_none, prototype.no_category]
      · rw [if_neg empty, if_neg empty, Option.getD_some]
        dsimp only
        by_cases listed : key ∈ declared category
        · rw [if_pos listed, member_of_ne prototype (ne_of_mem_of_not_mem listed (plain category)), lookup_populated,
            if_pos listed, Option.getD_some]
        · rw [if_neg listed, member, lookup_populated, if_neg listed, Option.getD_none, ite_self]
    · unfold member
      rw [lookup_addSupplements declared fetched keys, if_neg other]

/-- Objects have the method `toString`. -/
def methodPrototype : Prototype where
  value name := if name = "toString" then .function 0 else .undefined
  no_supplements := rfl
  no_category category := by cases category <;> rfl

/-- The report of an attribute carries `null` for the sessions of an unknown device. -/
theorem supplements_declared_sessions :
    let args := buildAttributeArgs ⟨"dev", "1", []⟩ 6 0 "BAE="
    (∀ category key, readSupplement methodPrototype (addSupplements sessions (fun _ => []) args) category key =
      if sessions category = [] then none
      else if key ∈ sessions category then some (supplementValue (populate [] key))
      else some (methodPrototype.value key)) ∧
    ∀ name, name ≠ "supplements" →
      member methodPrototype (addSupplements sessions (fun _ => []) args) name = member methodPrototype args name :=
  supplements_declared sessions (fun _ => []) methodPrototype (.attribute ⟨"dev", "1", []⟩ 6 0 "BAE=")
    (by intro category; cases category <;> decide)

end Supplements

section Logs
variable (environment : Environment)

/-- This is the supplement of a read. -/
def Effect.read (deviceUuid : String) : Effect → Option FetchedSupplement
  | .fetched device key _ value => if device = deviceUuid then some ⟨key, value⟩ else none
  | _ => none

/-- This is the operation of an effect and its device. -/
def Effect.operation : Effect → Option (String × ResultOp)
  | .stored deviceUuid key value ttlSecs _ => some (deviceUuid, .setTransientData key value ttlSecs)
  | .executed deviceUuid op => some (deviceUuid, op)
  | _ => none

/-- An invocation reads every declared supplement once, or none for an unknown device. -/
def Fetches (count : Nat) (invocation : Invocation) (reads : List Effect) (fetched : FetchedSupplements) : Prop :=
  if invocation.prefetched then
    reads.map (Effect.read invocation.deviceUuid) = (fetched .transientData).map some ∧
      (fetched .transientData).map FetchedSupplement.key = invocation.supplements .transientData ∧
      ∀ category, category ≠ .transientData → fetched category =
        (invocation.supplements category).map fun key => ⟨key, environment.fetcher count category key⟩
  else reads = [] ∧ fetched = fun _ => []

/-- These are the operations of the result, and none if the handler has failed. -/
def resultOps (count : Nat) (invocation : Invocation) (args : Value) : List ResultOp :=
  (((environment.script count invocation.handler args).bind (parse environment.engine)).map ParsedResult.ops).getD []

/-- The log of a list of invocations: each one reads its supplements, calls its handler, and executes the operations of
its result on its own device. -/
inductive Executed : List Invocation → Nat → List Effect → Prop where
  | nil (count : Nat) : Executed [] count []
  | cons {invocation : Invocation} {rest : List Invocation} {count : Nat} {reads effects later : List Effect}
      {fetched : FetchedSupplements} (args : Value)
      (supplied : Fetches environment count invocation reads fetched)
      (called : args = .object (addSupplements invocation.supplements fetched invocation.args))
      (ops : effects.map Effect.operation =
        (resultOps environment count invocation args).map fun op => some (invocation.deviceUuid, op))
      (following : Executed rest (count + 1) later) :
      Executed (invocation :: rest) count (reads ++ .invoked invocation.handler args :: (effects ++ later))

/-- The reads of the declared keys come in order. -/
theorem foldl_fetchTransient (deviceUuid : String) (keys : List String) (world : World)
    (before : List FetchedSupplement) :
    ∃ reads fetched, (keys.foldl (fetchTransient environment deviceUuid) (world, before)).1.log =
        world.log ++ reads ∧
      (keys.foldl (fetchTransient environment deviceUuid) (world, before)).2 = before ++ fetched ∧
      (keys.foldl (fetchTransient environment deviceUuid) (world, before)).1.invocations = world.invocations ∧
      reads.map (Effect.read deviceUuid) = fetched.map some ∧ fetched.map FetchedSupplement.key = keys := by
  induction keys generalizing world before with
  | nil => exact ⟨[], [], by simp, by simp, rfl, rfl, rfl⟩
  | cons key rest ih =>
      obtain ⟨reads, fetched, log, supplements, same, values, names⟩ :=
        ih (fetchTransient environment deviceUuid (world, before) key).1
          (fetchTransient environment deviceUuid (world, before) key).2
      have step : ∃ now value,
          (fetchTransient environment deviceUuid (world, before) key).1.log =
            world.log ++ [.fetched deviceUuid key now value] ∧
          (fetchTransient environment deviceUuid (world, before) key).2 = before ++ [⟨key, value⟩] := ⟨_, _, rfl, rfl⟩
      obtain ⟨now, value, logged, added⟩ := step
      refine ⟨.fetched deviceUuid key now value :: reads, ⟨key, value⟩ :: fetched, ?_, ?_, same, ?_, ?_⟩
      · rw [List.foldl_cons, log, logged, List.append_assoc, List.singleton_append]
      · rw [List.foldl_cons, supplements, added, List.append_assoc, List.singleton_append]
      · rw [List.map_cons, values, List.map_cons, Effect.read, if_pos rfl]
      · rw [List.map_cons, names]

/-- The operations are logged in order, and no handler is called meanwhile. -/
theorem executeOps_log (deviceUuid : String) (ops : List ResultOp) (world : World) :
    ∃ effects, (executeOps environment deviceUuid ops world).log = world.log ++ effects ∧
      (executeOps environment deviceUuid ops world).invocations = world.invocations ∧
      effects.map Effect.operation = ops.map fun op => some (deviceUuid, op) := by
  induction ops generalizing world with
  | nil => exact ⟨[], (List.append_nil _).symm, rfl, rfl⟩
  | cons op rest ih =>
      obtain ⟨effects, log, same, operations⟩ := ih (executeOp environment deviceUuid world op)
      have step : ∃ effect, (executeOp environment deviceUuid world op).log = world.log ++ [effect] ∧
          (executeOp environment deviceUuid world op).invocations = world.invocations ∧
          effect.operation = some (deviceUuid, op) := by
        cases op with
        | _ => exact ⟨_, rfl, rfl, rfl⟩
      obtain ⟨effect, logged, kept, operation⟩ := step
      refine ⟨effect :: effects, ?_, same.trans kept, ?_⟩
      · exact log.trans (by rw [logged, List.append_assoc, List.singleton_append])
      · rw [List.map_cons, operation, operations, List.map_cons]

/-- One invocation adds its block to the log. -/
theorem invokeHandler_log (invocation : Invocation) (world : World) :
    ∃ reads fetched effects, Fetches environment world.invocations invocation reads fetched ∧
      (invokeHandler environment invocation world).1.log = world.log ++ (reads ++
        .invoked invocation.handler (.object (addSupplements invocation.supplements fetched invocation.args)) ::
          effects) ∧
      (invokeHandler environment invocation world).1.invocations = world.invocations + 1 ∧
      effects.map Effect.operation = (resultOps environment world.invocations invocation
        (.object (addSupplements invocation.supplements fetched invocation.args))).map fun op =>
          some (invocation.deviceUuid, op) := by
  have prepared : ∃ reads fetched middle, Fetches environment world.invocations invocation reads fetched ∧
      (if invocation.prefetched then
        prefetchSupplements environment invocation.deviceUuid invocation.supplements world
        else (world, fun _ => [])) = (middle, fetched) ∧
      middle.log = world.log ++ reads ∧ middle.invocations = world.invocations := by
    unfold Fetches
    cases known : invocation.prefetched with
    | false => exact ⟨[], _, world, ⟨rfl, rfl⟩, rfl, (List.append_nil _).symm, rfl⟩
    | true =>
        obtain ⟨reads, fetched, log, supplements, same, values, names⟩ :=
          foldl_fetchTransient environment invocation.deviceUuid (invocation.supplements .transientData) world []
        refine ⟨reads, _, _, ⟨?_, ?_, ?_⟩, rfl, log, same⟩
        · rw [if_pos rfl, supplements]
          exact values
        · rw [if_pos rfl, supplements]
          exact names
        · intro category other
          rw [if_neg other]
  obtain ⟨reads, fetched, middle, supplied, same, log, count⟩ := prepared
  unfold invokeHandler
  rw [same]
  dsimp only
  rw [count]
  cases result : (environment.script world.invocations invocation.handler
      (.object (addSupplements invocation.supplements fetched invocation.args))).bind (parse environment.engine) with
  | none =>
      refine ⟨reads, fetched, [], supplied, ?_, rfl, ?_⟩
      · change middle.log ++ [_] = _
        rw [log, List.append_assoc]
      · unfold resultOps
        rw [result]
        rfl
  | some parsed =>
      obtain ⟨effects, logged, kept, operations⟩ := executeOps_log environment invocation.deviceUuid parsed.ops
        { middle with
          invocations := world.invocations + 1
          log := middle.log ++ [.invoked invocation.handler
            (.object (addSupplements invocation.supplements fetched invocation.args))] }
      refine ⟨reads, fetched, effects, supplied, ?_, kept, ?_⟩
      · rw [logged, log, List.append_assoc, List.append_assoc]
        rfl
      · unfold resultOps
        rw [result]
        exact operations

theorem invokeAll_log (invocations : List Invocation) (world : World) :
    ∃ later, (invokeAll environment invocations world).log = world.log ++ later ∧
      Executed environment invocations world.invocations later := by
  induction invocations generalizing world with
  | nil => exact ⟨[], (List.append_nil _).symm, .nil _⟩
  | cons invocation rest ih =>
      obtain ⟨reads, fetched, effects, supplied, logged, count, operations⟩ :=
        invokeHandler_log environment invocation world
      obtain ⟨later, log, following⟩ := ih (invokeHandler environment invocation world).1
      rw [count] at following
      refine ⟨_, ?_, .cons _ supplied rfl operations following⟩
      refine log.trans ?_
      rw [logged, List.append_assoc, List.append_assoc]
      rfl

end Logs

section Reports
variable (environment : Environment) (driver : SbmdDriver)

/-- The declarations select the handlers of a report, first those with the exact element and one alias, then those with
the exact element and several aliases, then the wildcards. -/
def selected (report : Report) : List Invocation :=
  if driver.activated then
    match report.tlvBase64 with
    | none => []
    | some tlvBase64 =>
        (scan (occurrences driver.registration.aliases (driver.registration.handlers report.kind))
          report.clusterId.toBitVec report.elementId.toBitVec).map (entryInvocation driver report tlvBase64)
  else []

theorem reportInvocations_eq (report : Report) : reportInvocations driver report = selected driver report := by
  unfold reportInvocations selected matchingEntries Dispatch.activate
  cases report.tlvBase64 with
  | none => rfl
  | some tlvBase64 =>
      dsimp only
      rw [Dispatch.lookup_eq_scan]

/-- The reports of a run call the selected handlers in order and do nothing else but execute their operations. A handler
that fails changes nothing for the others. -/
theorem reports_executed (reports : List Report) :
    Executed environment (reports.flatMap (selected driver)) 0
      (reports.foldl (handleReport environment driver) .initial).log := by
  have joined (world : World) : reports.foldl (handleReport environment driver) world =
      invokeAll environment (reports.flatMap (selected driver)) world := by
    induction reports generalizing world with
    | nil => rfl
    | cons report rest ih =>
        rw [List.foldl_cons, ih, List.flatMap_cons, handleReport, reportInvocations_eq]
        exact (List.foldl_append ..).symm
  obtain ⟨later, log, executed⟩ := invokeAll_log environment (reports.flatMap (selected driver)) .initial
  rw [joined, log]
  exact executed

end Reports

end Barton.Invocations
