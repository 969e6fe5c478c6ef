import BartonCore.Proof.Zigbee.Ownership

namespace Barton.Zigbee
open Threads

section Points

/-- The response that a call is about to return or has returned. -/
def Caller.result : Caller → Option Response
  | .unlockItem _ result => result
  | .returned _ result => result
  | _ => none

/-- The wait of the call has timed out, or the call has taken what its item holds. -/
def Caller.leaving : Caller → Bool
  | .timedOut _ => true
  | .queueDelete _ _ => true
  | .signalTimeout _ => true
  | .unlockItem _ _ => true
  | .returned _ _ => true
  | _ => false

def Handler.response : Handler → Response
  | .handleIpcResponse response => response
  | .clearBusy response _ => response
  | .complete response _ => response
  | .signalWorker response _ => response
  | .returned response _ => response

/-- The item that the handler has found. -/
def Handler.item : Handler → Option WorkItem
  | .handleIpcResponse _ => none
  | .clearBusy _ item => some item
  | .complete _ item => some item
  | .signalWorker _ item => item
  | .returned _ item => item

/-- The handler has not yet looked its response up. -/
def Handler.pending : Handler → Bool
  | .handleIpcResponse _ => true
  | _ => false

/-- The number of the datagram. -/
def Party.number : Party → Option Nat
  | .handler point => some point.response.number
  | _ => none

/-- The item of a call. -/
def Party.item : Party → Option WorkItem
  | .caller point => point.item
  | _ => none

end Points

section Ids

/-- The item is an integer in the range of `int`. -/
def JsonItem.isInt : JsonItem → Bool
  | .number value => value.den = 1 ∧ -2147483648 ≤ value.num ∧ value.num ≤ 2147483647
  | _ => false

/-- A response without an id, or with an integer in the range of `int`. -/
def Response.isInt (response : Response) : Bool := response.requestId.all JsonItem.isInt

/-- The response carries this request id. -/
def Response.carries (response : Response) (requestId : UInt32) : Prop :=
  response.requestId = some (.number requestId.toNat)

/-- A response whose id is no integer in the range of `int` is looked up only if no request has the id that is
read from it. -/
def intact (current : Configuration Zhal Party) (input : Nat × Bool) : Bool :=
  match current.threads[input.1]? with
  | some (.handler (.handleIpcResponse response)) =>
      response.isInt || (response.rid.bind current.shared.findAsync).isNone
  | _ => true

/-- An integer in the range of `int` is read as it is. -/
theorem JsonItem.valueint_of_isInt {item : JsonItem} (isInt : item.isInt = true) :
    item = .number item.valueint.toInt := by
  cases item with
  | number value =>
      unfold JsonItem.isInt at isInt
      obtain ⟨integer, low, high⟩ := of_decide_eq_true isInt
      have whole : value = (value.num : ℚ) := ((Rat.den_eq_one_iff value).mp integer).symm
      have read : (JsonItem.number value).valueint.toInt = value.num := by
        unfold JsonItem.valueint
        dsimp only
        split
        · rename_i large
          rw [whole] at large
          have most : (2147483647 : ℤ) ≤ value.num := by exact_mod_cast large
          rw [Int32.toInt_maxValue]
          omega
        · split
          · rename_i small
            rw [whole] at small
            have least : value.num ≤ -2147483648 := by exact_mod_cast small
            rw [Int32.toInt_minValue]
            omega
          · rw [integer, Nat.cast_one, Int.tdiv_one]
            exact Int32.toInt_ofInt_of_le low (by omega)
      rw [read, ← whole]
  | null | bool | string | array | object => cases isInt

/-- A request id has the same value as an `int` and as an unsigned number. -/
theorem toUInt32_eq {value : Int32} {requestId : UInt32} (range : requestId ≤ 2147483647) :
    value.toUInt32 = requestId ↔ value.toInt = requestId.toNat := by
  have bound : requestId.toNat ≤ 2147483647 := by simpa [UInt32.le_iff_toNat_le] using range
  have bits : value.toUInt32 = requestId ↔ value.toBitVec.toNat = requestId.toNat := UInt32.toNat_inj.symm
  rw [bits, ← Int32.toInt_toBitVec, BitVec.toInt_eq_toNat_cond]
  have small := value.toBitVec.isLt
  split <;> omega

/-- An integer that is read as a request id is this id. -/
theorem Response.rid_eq_some {response : Response} {requestId : UInt32} (isInt : response.isInt = true)
    (range : requestId ≤ 2147483647) : response.rid = some requestId ↔ response.carries requestId := by
  unfold Response.rid Response.carries
  unfold Response.isInt at isInt
  cases carried : response.requestId with
  | none => simp
  | some item =>
      rw [carried, Option.all_some] at isInt
      rw [Option.map_some, Option.some_inj, Option.some_inj, toUInt32_eq range]
      conv_rhs => rw [JsonItem.valueint_of_isInt isInt, JsonItem.number.injEq]
      exact_mod_cast Iff.rfl

end Ids

section Delivery
variable {zhal next : Zhal} {response : Response} {party moved : Party} {item : WorkItem}

/-- A handler has given the response to the item. -/
def Delivered (threads : List Party) (response : Response) (item : WorkItem) : Prop :=
  .handler (.signalWorker response (some item)) ∈ threads ∨ .handler (.returned response (some item)) ∈ threads

theorem Step.number (taken : Step zhal party next moved) : moved.number = party.number := by
  cases taken with
  | worker | caller => rfl
  | handler handles => cases handles <;> rfl

/-- A delivery is not taken back. -/
theorem Delivered.step {before after : List Party} (taken : Step zhal party next moved)
    (delivered : Delivered (before ++ party :: after) response item) :
    Delivered (before ++ moved :: after) response item := by
  have kept {other : Party} (member : other ∈ before ++ party :: after) (differs : other ≠ party) :
      other ∈ before ++ moved :: after := by
    rcases List.mem_append.mp member with left | right
    · exact List.mem_append_left _ left
    · exact List.mem_append_right _
        (List.mem_cons_of_mem _ ((List.mem_cons.mp right).resolve_left differs))
  rcases delivered with signals | returned
  · by_cases same : Party.handler (.signalWorker response (some item)) = party
    · subst same
      cases taken with
      | handler handles =>
          cases handles with
          | signal free => exact Or.inr (by simp)
    · exact Or.inl (kept signals same)
  · refine Or.inr (kept returned ?_)
    intro same
    subst same
    cases taken with
    | handler handles => cases handles

/-- A response that an item holds after a step was delivered before it or by it. -/
theorem held_step (taken : Step zhal party next moved) (held : (next.items item).response = some response) :
    (zhal.items item).response = some response ∨ moved = .handler (.signalWorker response (some item)) := by
  have lock {mine : WorkItem} {locked : Bool} (held : ((zhal.lock mine locked).items item).response =
      some response) : (zhal.items item).response = some response := by
    unfold Zhal.lock at held
    dsimp only at held
    by_cases same : item = mine
    · subst same
      rwa [Function.update_self] at held
    · rwa [Function.update_of_ne same] at held
  cases taken with
  | worker works =>
      left
      cases works with
      | lock | sent | lower | keep => exact lock held
      | _ => exact held
  | caller calls =>
      left
      cases calls with
      | enterWait | timeOut | wake | unlock => exact lock held
      | create made =>
          rename_i targetEui64 mine
          dsimp only at held
          by_cases same : item = mine
          · subst same
            rw [Function.update_self] at held
            cases held
          · rwa [Function.update_of_ne same] at held
      | abandon absent =>
          rename_i mine
          dsimp only at held
          by_cases same : item = mine
          · subst same
            rwa [Function.update_self] at held
          · rwa [Function.update_of_ne same] at held
      | take =>
          rename_i mine
          dsimp only at held
          by_cases same : item = mine
          · subst same
            rw [Function.update_self] at held
            cases held
          · rwa [Function.update_of_ne same] at held
      | _ => exact held
  | handler handles =>
      cases handles with
      | complete free =>
          rename_i mine given
          dsimp only at held
          by_cases same : item = given
          · subst same
            rw [Function.update_self] at held
            cases held
            exact Or.inr rfl
          · rw [Function.update_of_ne same] at held
            exact Or.inl held
      | _ => exact Or.inl held

/-- A call takes its result from its item. -/
theorem result_step {caller moved : Caller} (taken : CallerStep zhal caller next moved)
    (result : moved.result = some response) :
    moved.item = caller.item ∧ (caller.result = some response ∨ caller.leaving = false ∧
      ∃ item, caller.item = some item ∧ (zhal.items item).response = some response) := by
  cases taken with
  | take => exact ⟨rfl, Or.inr ⟨rfl, _, rfl, result⟩⟩
  | unlock => exact ⟨rfl, Or.inl result⟩
  | signalTimeout | lookup | create | push | signal | enterWait | timeOut | wake | withdraw | miss | lower
  | dequeue | abandon => cases result

/-- A handler finds an item with the id of its response. -/
theorem ids_step {handler moved : Handler} (taken : HandlerStep zhal handler next moved)
    (own : ∀ item, handler.item = some item → handler.response.rid = some item.requestId)
    (found : moved.item = some item) : moved.response.rid = some item.requestId := by
  cases taken with
  | ignore unknown => cases found
  | find carried known =>
      cases found
      have same := List.find?_some known
      dsimp only [Handler.response]
      rw [carried]
      simp only [decide_eq_true_eq] at same
      rw [same]
  | lower | keep | complete | signal => exact own item found

end Delivery

section Items
variable {zhal next : Zhal}

/-- A call keeps its item, and a new item is not one of the created items. -/
theorem item_step (known : Known zhal) {party moved : Party} (taken : Step zhal party next moved) :
    moved.item = party.item ∨ party.item = none ∧ ∃ item, moved.item = some item ∧ item ∉ zhal.created := by
  cases taken with
  | worker | handler => exact Or.inl rfl
  | caller calls =>
      cases calls with
      | create made =>
          rename_i targetEui64 item
          refine Or.inr ⟨rfl, item, rfl, ?_⟩
          intro inside
          have less := known.numbered _ inside
          rw [made] at less
          exact absurd less (lt_irrefl _)
      | _ => exact Or.inl rfl

end Items

section Runs
variable {current next : Configuration Zhal Party}

/-- Every response that a call holds was delivered to its own item, which has the id of the response. -/
structure Matched (current : Configuration Zhal Party) : Prop where
  known : AllKnown current
  numbers : (current.threads.filterMap Party.number).Nodup
  items : (current.threads.filterMap Party.item).Nodup
  ids : ∀ handler item, .handler handler ∈ current.threads → handler.item = some item →
    handler.response.rid = some item.requestId
  held : ∀ item response, (current.shared.items item).response = some response →
    Delivered current.threads response item
  results : ∀ caller item response, .caller caller ∈ current.threads → caller.item = some item →
    caller.result = some response → Delivered current.threads response item

theorem mem_replace {before after : List Party} {party moved other : Party}
    (member : other ∈ before ++ moved :: after) : other = moved ∨ other ∈ before ++ party :: after := by
  rcases List.mem_append.mp member with left | right
  · exact Or.inr (List.mem_append_left _ left)
  · rcases List.mem_cons.mp right with same | right
    · exact Or.inl same
    · exact Or.inr (List.mem_append_right _ (List.mem_cons_of_mem _ right))

theorem Matched.step {input : Nat × Bool} (matched : Matched current)
    (stepped : Threads.step move current input = some next) : Matched next := by
  have known := matched.known.step stepped
  obtain ⟨before, party, after, shared, moved, split, position, moves, rfl⟩ := step_split stepped
  have taken := move_step moves
  have member : party ∈ current.threads := by simp [split]
  have old {other : Party} (inside : other ∈ before ++ moved :: after) :
      other = moved ∨ other ∈ current.threads := by
    rw [split]
    exact mem_replace inside
  have delivered {response : Response} {item : WorkItem} (before : Delivered current.threads response item) :=
    Delivered.step taken (by rwa [split] at before)
  refine ⟨known, ?_, ?_, ?_, ?_, ?_⟩
  · refine nodup_replace (by rw [← split]; exact matched.numbers) (Or.inl taken.number)
  · refine nodup_replace (by rw [← split]; exact matched.items) ?_
    rcases item_step matched.known.1 taken with same | ⟨none, item, new, absent⟩
    · exact Or.inl same
    · refine Or.inr ⟨none, item, new, ?_⟩
      intro other inside point
      have present : other ∈ current.threads := by
        rw [split]
        rcases List.mem_append.mp inside with left | right
        · exact List.mem_append_left _ left
        · exact List.mem_append_right _ (List.mem_cons_of_mem _ right)
      cases other with
      | worker | handler => cases point
      | caller caller => exact absent (matched.known.2 _ present caller item rfl point)
  · intro handler item inside found
    rcases old inside with same | present
    · subst same
      cases taken with
      | handler handles =>
          exact ids_step handles (fun item found => matched.ids _ item member found) found
    · exact matched.ids handler item present found
  · intro item response held
    rcases held_step taken held with before | rfl
    · exact delivered (matched.held item response before)
    · exact Or.inl (by simp)
  · intro caller item response inside point result
    rcases old inside with same | present
    · subst same
      cases taken with
      | caller calls =>
          obtain ⟨kept, earlier | ⟨_, mine, own, held⟩⟩ := result_step calls result
          · rw [kept] at point
            exact delivered (matched.results _ item response member point earlier)
          · rw [kept, own] at point
            cases point
            exact delivered (matched.held _ response held)
    · exact delivered (matched.results caller item response present point result)

theorem matched_initial (requestId : UInt32) {parties : List Party}
    (starting : ∀ party ∈ parties, party.starting = true) (numbers : (parties.filterMap Party.number).Nodup) :
    Matched ⟨Zhal.initial requestId, parties⟩ := by
  have items (party : Party) (member : party ∈ parties) : party.item = none := by
    have start := starting party member
    cases party with
    | worker => rfl
    | handler point => rfl
    | caller point => cases point <;> first | rfl | cases start
  refine ⟨⟨⟨nofun, nofun, nofun, nofun, nofun⟩, ?_⟩, numbers, ?_, ?_, nofun, ?_⟩
  · intro party member caller item same point
    subst same
    have none := items _ member
    rw [show (Party.caller caller).item = caller.item from rfl, point] at none
    cases none
  · rw [List.filterMap_eq_nil_iff.mpr items]
    exact List.nodup_nil
  · intro handler item member found
    have start := starting _ member
    cases handler with
    | handleIpcResponse response => cases found
    | _ => cases start
  · intro caller item response member point
    have none := items _ member
    rw [show (Party.caller caller).item = caller.item from rfl, point] at none
    cases none

end Runs

section Late
variable {current next : Configuration Zhal Party} {response : Response} {target : Option WorkItem}

/-- The response can only go to the target, and the call of the target does not take it. -/
def Party.Late (response : Response) (target : Option WorkItem) : Party → Prop
  | .worker => True
  | .caller point => point.result ≠ some response ∧
      ∀ item, target = some item → point.item = some item → point.leaving = true
  | .handler point => point.response = response → point.pending = false ∧ point.item = target

/-- The response was looked up after the calls with its id had timed out. -/
structure Late (response : Response) (target : Option WorkItem) (current : Configuration Zhal Party) : Prop where
  known : AllKnown current
  created : ∀ item, target = some item → item ∈ current.shared.created
  held : ∀ item, (current.shared.items item).response = some response → target = some item
  parties : ∀ party ∈ current.threads, party.Late response target

theorem leaving_step {zhal next : Zhal} {caller moved : Caller} (taken : CallerStep zhal caller next moved)
    (leaving : caller.leaving = true) : moved.leaving = true := by
  cases taken <;> first | rfl | cases leaving

theorem late_step {zhal next : Zhal} {party moved : Party} (known : Known zhal)
    (created : ∀ item, target = some item → item ∈ zhal.created)
    (held : ∀ item, (zhal.items item).response = some response → target = some item)
    (own : party.Late response target) (taken : Step zhal party next moved) : moved.Late response target := by
  cases taken with
  | worker works => trivial
  | caller calls =>
      refine ⟨?_, ?_⟩
      · intro result
        obtain ⟨_, earlier | ⟨stays, item, mine, holds⟩⟩ := result_step calls result
        · exact own.1 earlier
        · have leaves := own.2 item (held item holds) mine
          rw [stays] at leaves
          cases leaves
      · intro item aim point
        rcases item_step known (Step.caller calls) with same | ⟨_, other, new, absent⟩
        · exact leaving_step calls (own.2 item aim (same.symm.trans point))
        · have equal : some item = some other := point.symm.trans new
          cases equal
          exact absurd (created item aim) absent
  | handler handles =>
      cases handles with
      | ignore | find => exact fun same => absurd (own same).1 nofun
      | lower | keep | complete | signal => exact fun same => ⟨rfl, (own same).2⟩

theorem Late.step {input : Nat × Bool} (late : Late response target current)
    (stepped : Threads.step move current input = some next) : Late response target next := by
  have known := late.known.step stepped
  obtain ⟨before, party, after, shared, moved, split, position, moves, rfl⟩ := step_split stepped
  have taken := move_step moves
  have member : party ∈ current.threads := by simp [split]
  have settled := late_step late.known.1 late.created late.held (late.parties party member) taken
  have grows := (late.known.1.step (late.known.2 party member) taken).2.2
  refine ⟨known, fun item aim => grows (late.created item aim), ?_, ?_⟩
  · intro item holds
    rcases held_step taken holds with earlier | rfl
    · exact late.held item earlier
    · exact (settled rfl).2.symm
  · intro other inside
    have old : other = moved ∨ other ∈ current.threads := by
      rw [split]
      exact mem_replace inside
    rcases old with rfl | present
    · exact settled
    · exact late.parties other present

/-- A response is delivered to one item. -/
theorem Delivered.unique (matched : Matched current) {one other : WorkItem}
    (first : Delivered current.threads response one) (second : Delivered current.threads response other) :
    one = other := by
  have item {mine : WorkItem} (delivered : Delivered current.threads response mine) :
      ∃ (index : Nat) (point : Handler), current.threads[index]? = some (Party.handler point) ∧ point.response = response ∧
        point.item = some mine := by
    rcases delivered with member | member
    · obtain ⟨index, found⟩ := List.mem_iff_getElem?.mp member
      exact ⟨index, _, found, rfl, rfl⟩
    · obtain ⟨index, found⟩ := List.mem_iff_getElem?.mp member
      exact ⟨index, _, found, rfl, rfl⟩
  obtain ⟨index, point, found, carries, holds⟩ := item first
  obtain ⟨later, last, foundLater, carriesLater, holdsLater⟩ := item second
  have numbers (handler : Handler) (same : handler.response = response) :
      (Party.handler handler).number = some response.number := by rw [← same]; rfl
  have same := index_unique matched.numbers found foundLater (numbers point carries) (numbers last carriesLater)
  rw [same, foundLater] at found
  cases found
  rw [holds] at holdsLater
  cases holdsLater
  rfl

/-- A response that nobody has looked up was not delivered. -/
theorem Matched.not_delivered (matched : Matched current) {index : Nat}
    (found : current.threads[index]? = some (.handler (.handleIpcResponse response))) (item : WorkItem) :
    ¬ Delivered current.threads response item := by
  rintro (member | member)
  · obtain ⟨other, later⟩ := List.mem_iff_getElem?.mp member
    have same := index_unique matched.numbers found later rfl rfl
    rw [← same, found] at later
    cases later
  · obtain ⟨other, later⟩ := List.mem_iff_getElem?.mp member
    have same := index_unique matched.numbers found later rfl rfl
    rw [← same, found] at later
    cases later

/-- A response that is looked up after the calls with the id that is read from it have timed out goes to nobody. -/
theorem Matched.late (matched : Matched current) {input : Nat × Bool}
    (found : current.threads[input.1]? = some (.handler (.handleIpcResponse response)))
    (timedOut : (response.rid.bind current.shared.findAsync).isSome = true → ∀ caller item,
      .caller caller ∈ current.threads → caller.item = some item → response.rid = some item.requestId →
      caller.leaving = true)
    (stepped : Threads.step move current input = some next) : ∃ target, Late response target next := by
  have known := matched.known.step stepped
  obtain ⟨before, party, after, shared, moved, split, position, moves, rfl⟩ := step_split stepped
  have point : party = .handler (.handleIpcResponse response) := by
    rw [split, ← position] at found
    simpa using found
  subst point
  have others (other : Party) (member : other ∈ before ++ after) : other ∈ current.threads := by
    rw [split]
    rcases List.mem_append.mp member with left | right
    · exact List.mem_append_left _ left
    · exact List.mem_append_right _ (List.mem_cons_of_mem _ right)
  have number (other : Party) (member : other ∈ before ++ after) : other.number ≠ some response.number := by
    have distinct := matched.numbers
    have own : Party.number (.handler (.handleIpcResponse response)) = some response.number := rfl
    rw [split, List.filterMap_append, List.filterMap_cons_some own, List.nodup_middle,
      ← List.filterMap_append] at distinct
    exact fun same => (List.nodup_cons.mp distinct).1 (List.mem_filterMap.mpr ⟨other, member, same⟩)
  have result (caller : Caller) (member : .caller caller ∈ current.threads) : caller.result ≠ some response := by
    intro result
    have some : ∃ item, caller.item = some item := by
      cases caller <;> first | exact ⟨_, rfl⟩ | cases result
    obtain ⟨item, mine⟩ := some
    exact matched.not_delivered found item (matched.results caller item response member mine result)
  have parties (target : Option WorkItem)
      (aim : ∀ item, target = some item → response.rid = some item.requestId ∧
        (response.rid.bind current.shared.findAsync).isSome = true)
      (other : Party) (member : other ∈ before ++ after) : other.Late response target := by
    cases other with
    | worker => trivial
    | caller caller =>
        exact ⟨result caller (others _ member), fun item same mine =>
          timedOut (aim item same).2 caller item (others _ member) mine (aim item same).1⟩
    | handler handler =>
        intro same
        refine absurd ?_ (number _ member)
        rw [← same]
        rfl
  have whole {target : Option WorkItem} (own : moved.Late response target)
      (aim : ∀ item, target = some item → response.rid = some item.requestId ∧
        (response.rid.bind current.shared.findAsync).isSome = true) :
      ∀ other ∈ before ++ moved :: after, other.Late response target := by
    intro other inside
    rcases List.mem_append.mp inside with left | right
    · exact parties target aim other (List.mem_append_left _ left)
    · rcases List.mem_cons.mp right with rfl | right
      · exact own
      · exact parties target aim other (List.mem_append_right _ right)
  have none (item : WorkItem) : (current.shared.items item).response ≠ some response :=
    fun held => matched.not_delivered found item (matched.held item response held)
  cases move_step moves with
  | handler handles =>
      cases handles with
      | ignore unknown =>
          exact ⟨Option.none, known, nofun, fun item held => absurd held (none item),
            whole (fun _ => ⟨rfl, rfl⟩) nofun⟩
      | find carried entry =>
          rename_i rid item
          have id : item.requestId = rid := by simpa using List.find?_some entry
          refine ⟨some item, known, ?_, fun other held => absurd held (none other),
            whole (fun _ => ⟨rfl, rfl⟩) ?_⟩
          · intro other same
            cases same
            exact matched.known.1.pending _ (List.mem_of_find?_eq_some entry)
          · intro other same
            cases same
            rw [carried, id, Option.bind_some, entry]
            exact ⟨rfl, rfl⟩

end Late

section Intact
variable {zhal next : Zhal} {current : Configuration Zhal Party}

/-- The request ids stay in the range of `int`. -/
structure Ranged (zhal : Zhal) : Prop where
  next : zhal.requestId ≤ 2147483647
  created : ∀ item ∈ zhal.created, item.requestId ≤ 2147483647

theorem nextRequestId_le (requestId : UInt32) : nextRequestId requestId ≤ 2147483647 := by
  unfold nextRequestId
  split
  · decide
  · rename_i small
    exact UInt32.not_lt.mp small

theorem Ranged.step {party moved : Party} (ranged : Ranged zhal) (taken : Step zhal party next moved) :
    Ranged next := by
  cases taken with
  | worker works =>
      refine ⟨?_, ?_⟩
      · cases works <;> exact ranged.next
      · rw [works.created]
        exact ranged.created
  | handler handles => cases handles <;> exact ⟨ranged.next, ranged.created⟩
  | caller calls =>
      cases calls with
      | create made =>
          refine ⟨nextRequestId_le _, ?_⟩
          intro item member
          rcases List.mem_append.mp member with old | new
          · exact ranged.created item old
          · rw [List.mem_singleton.mp new, made]
            exact ranged.next
      | _ => exact ⟨ranged.next, ranged.created⟩

/-- A response that was found for an item has an integer as its id. -/
def Party.Carried (party : Party) : Prop :=
  ∀ handler item, party = .handler handler → handler.item = some item → handler.response.isInt = true

theorem carried_step {party moved : Party} (own : party.Carried)
    (allowed : ∀ response, party = .handler (.handleIpcResponse response) →
      response.isInt = true ∨ response.rid.bind zhal.findAsync = none)
    (taken : Step zhal party next moved) : moved.Carried := by
  rintro handler item rfl point
  cases taken with
  | handler handles =>
      cases handles with
      | ignore unknown => cases point
      | find carried found =>
          rcases allowed _ rfl with isInt | unknown
          · exact isInt
          · rw [carried, Option.bind_some, found] at unknown
            cases unknown
      | lower | keep => exact own (.clearBusy _ _) item rfl point
      | complete free => exact own (.complete _ _) item rfl point
      | signal free => exact own (.signalWorker _ _) item rfl point

theorem intact_response {input : Nat × Bool} (allowed : intact current input = true) {response : Response}
    (found : current.threads[input.1]? = some (.handler (.handleIpcResponse response))) :
    response.isInt = true ∨ response.rid.bind current.shared.findAsync = none := by
  unfold intact at allowed
  rw [found] at allowed
  simpa using allowed

/-- What a run keeps whose lookups are all allowed. -/
def Intact (current : Configuration Zhal Party) : Prop :=
  Ranged current.shared ∧ ∀ party ∈ current.threads, party.Carried

theorem Intact.step {next : Configuration Zhal Party} {input : Nat × Bool} (kept : Intact current)
    (allowed : intact current input = true) (stepped : Threads.step move current input = some next) :
    Intact next := by
  refine @step_facts _ _ _ _ Ranged (fun _ party => party.Carried) _ _ _ kept.2 stepped ?_
  intro party shared moved found moves
  have taken := move_step moves
  have lookup (response : Response) (same : party = .handler (.handleIpcResponse response)) :=
    intact_response allowed (found.trans (congrArg some same))
  exact ⟨kept.1.step taken, carried_step (kept.2 party (List.mem_of_getElem? found)) lookup taken,
    fun other own => own⟩

theorem intact_initial {requestId : UInt32} {parties : List Party}
    (starting : ∀ party ∈ parties, party.starting = true) (range : requestId ≤ 2147483647) :
    Intact ⟨Zhal.initial requestId, parties⟩ := by
  refine ⟨⟨range, nofun⟩, ?_⟩
  rintro party member handler item rfl point
  have start := starting _ member
  cases handler with
  | handleIpcResponse response => cases point
  | _ => cases start

/-- A response that was delivered to the item of a call carries the id of the item. -/
theorem Delivered.carries (matched : Matched current) (intact : Intact current) {response : Response}
    {item : WorkItem} (created : item ∈ current.shared.created) (delivered : Delivered current.threads response item) :
    response.carries item.requestId := by
  rcases delivered with member | member
  · exact (Response.rid_eq_some (intact.2 _ member _ item rfl rfl) (intact.1.created item created)).mp
      (matched.ids _ item member rfl)
  · exact (Response.rid_eq_some (intact.2 _ member _ item rfl rfl) (intact.1.created item created)).mp
      (matched.ids _ item member rfl)

end Intact

section Runs
variable {requestId : UInt32} {parties : List Party} {schedule : List (Nat × Bool)}
  {final : Configuration Zhal Party}

theorem matched_of_run (starting : ∀ party ∈ parties, party.starting = true)
    (numbers : (parties.filterMap Party.number).Nodup)
    (reached : run ⟨Zhal.initial requestId, parties⟩ schedule = some final) : Matched final :=
  Runs.invariant _ Matched (fun _ _ _ matched stepped => matched.step stepped)
    (matched_initial requestId starting numbers) reached

/-- A received response goes to at most one call. If every response that is looked up for a pending request has an
integer in the range of `int` as its id, a call returns only a response that carries the id that it has generated,
and a response that is looked up after the calls with its id have timed out goes to nobody. -/
theorem run_matched (starting : ∀ party ∈ parties, party.starting = true)
    (numbers : (parties.filterMap Party.number).Nodup) (range : requestId ≤ 2147483647)
    (reached : run ⟨Zhal.initial requestId, parties⟩ schedule = some final) :
    (∀ (response : Response) (first second : Nat) (one other : WorkItem),
      final.threads[first]? = some (Party.caller (.returned one (some response))) →
      final.threads[second]? = some (Party.caller (.returned other (some response))) → first = second) ∧
    (Runs.Guarded (Threads.step move) (fun current input => intact current input = true)
        ⟨Zhal.initial requestId, parties⟩ schedule →
      (∀ item response, .caller (.returned item (some response)) ∈ final.threads →
        response.carries item.requestId) ∧
      ∀ early input rest middle response, schedule = early ++ input :: rest →
        run ⟨Zhal.initial requestId, parties⟩ early = some middle →
        middle.threads[input.1]? = some (.handler (.handleIpcResponse response)) →
        (∀ caller item, .caller caller ∈ middle.threads → caller.item = some item →
          response.carries item.requestId → caller.leaving = true) →
        ∀ item, .caller (.returned item (some response)) ∉ final.threads) := by
  have matched := matched_of_run starting numbers reached
  have initial := @intact_initial requestId parties starting range
  refine ⟨?_, fun allowed => ⟨?_, ?_⟩⟩
  · intro response first second one other foundOne foundOther
    have deliveredOne := matched.results _ one response (List.mem_of_getElem? foundOne) rfl rfl
    have deliveredOther := matched.results _ other response (List.mem_of_getElem? foundOther) rfl rfl
    have same : one = other := Delivered.unique matched deliveredOne deliveredOther
    subst same
    exact index_unique matched.items foundOne foundOther rfl rfl
  · intro item response member
    have kept := Runs.Guarded.invariant _ Intact (fun _ _ _ kept guard stepped => kept.step guard stepped) allowed
      initial reached
    exact (matched.results _ item response member rfl rfl).carries matched kept
      (matched.known.2 _ member _ item rfl rfl)
  · intro early input rest middle response split arrived found timedOut item member
    rw [split] at allowed
    rw [split, run, Threads.run, Runs.run_append] at reached
    obtain ⟨_, same, later⟩ := Option.bind_eq_some_iff.mp reached
    have arrival : Runs.run (Threads.step move) ⟨Zhal.initial requestId, parties⟩ early = some middle := arrived
    rw [arrival] at same
    cases same
    have matchedMiddle := matched_of_run starting numbers arrived
    have guard := (Runs.Guarded.drop _ allowed arrival).1
    have kept := Runs.Guarded.invariant _ Intact (fun _ _ _ kept guard stepped => kept.step guard stepped)
      (Runs.Guarded.take _ allowed) initial arrival
    obtain ⟨next, stepped, later⟩ := Option.bind_eq_some_iff.mp later
    obtain ⟨target, late⟩ := matchedMiddle.late found (by
      intro entry caller mine inside point read
      refine timedOut caller mine inside point ?_
      rcases intact_response guard found with isInt | unknown
      · exact (Response.rid_eq_some isInt (kept.1.created mine (matchedMiddle.known.2 _ inside _ mine rfl point))).mp
          read
      · rw [unknown] at entry
        cases entry) stepped
    have final := Runs.invariant _ (Late response target) (fun _ _ _ late stepped => late.step stepped) late later
    exact (final.parties _ member).1 rfl

/-- One call, the worker and a response that arrives twice. -/
def answeredTwice (item : JsonItem) : List Party :=
  [.worker, .caller (.zhalSendRequest 1), .handler (.handleIpcResponse ⟨0, some item⟩),
    .handler (.handleIpcResponse ⟨1, some item⟩)]

/-- The request is sent, its response is handled twice, and the call returns. -/
def answers : List (Nat × Bool) :=
  List.replicate 5 (1, true) ++ List.replicate 8 (0, true) ++ List.replicate 4 (2, true) ++
    List.replicate 2 (3, true) ++ List.replicate 3 (1, false)

theorem run_matched_answeredTwice :
    ∃ final, run ⟨Zhal.initial 0, answeredTwice (.number 0)⟩ answers = some final ∧
      Party.caller (.returned ⟨0, 1, 0⟩ (some ⟨0, some (.number 0)⟩)) ∈ final.threads ∧
      Response.carries ⟨0, some (.number 0)⟩ 0 := by
  have computed : (run ⟨Zhal.initial 0, answeredTwice (.number 0)⟩ answers).map (fun final => final.threads[1]?) =
      some (some (.caller (.returned ⟨0, 1, 0⟩ (some ⟨0, some (.number 0)⟩)))) := by decide +kernel
  obtain ⟨final, reached, found⟩ := Option.map_eq_some_iff.mp computed
  have member := List.mem_of_getElem? found
  exact ⟨final, reached, member, ((run_matched (by decide) (by decide) (by decide) reached).2
    (by decide +kernel)).1 ⟨0, 1, 0⟩ ⟨0, some (.number 0)⟩ member⟩

/-- The call with the number 0 returns a response whose id is another item. -/
def Mistaken (item : JsonItem) : Prop :=
  ∃ final, run ⟨Zhal.initial 0, answeredTwice item⟩ answers = some final ∧
    Party.caller (.returned ⟨0, 1, 0⟩ (some ⟨0, some item⟩)) ∈ final.threads ∧
    ¬ Response.carries ⟨0, some item⟩ 0

theorem mistaken_of_computed {item : JsonItem} (differs : some item ≠ some (JsonItem.number 0))
    (computed : (run ⟨Zhal.initial 0, answeredTwice item⟩ answers).map (fun final => final.threads[1]?) =
      some (some (.caller (.returned ⟨0, 1, 0⟩ (some ⟨0, some item⟩))))) : Mistaken item := by
  obtain ⟨final, reached, found⟩ := Option.map_eq_some_iff.mp computed
  exact ⟨final, reached, List.mem_of_getElem? found, differs⟩

/-- A response whose id is a text or no integer is returned by the call with the number that is read from it. -/
theorem not_run_matched : Mistaken (.string "x") ∧ Mistaken .null ∧ Mistaken (.number (1 / 2)) := by
  refine ⟨mistaken_of_computed ?_ ?_, mistaken_of_computed ?_ ?_, mistaken_of_computed ?_ ?_⟩ <;> decide +kernel

end Runs

end Barton.Zigbee
