import BartonCore.Proof.Matter.AccessList

namespace Barton.AccessControl

/-- A pointer into the array denotes a listed entry, and a pointer into the pool denotes a content. -/
def Denotes (config : Config) (pool : Nat → EntryStorage) (table : Nat → Option Nat) :
    StoragePointer → Denotation → Prop
  | .acl index, sense => ∃ stamp, table index = some stamp ∧ sense = .listed stamp
  | .pool index, sense => index < config.entryStoragePoolSize ∧
      ∃ content, pool index = ⟨true, content⟩ ∧ sense = .own content

/-- A pointer denotes the same while its storage of the pool stays as it is. -/
theorem Denotes.of_pool {config : Config} {pool next : Nat → EntryStorage} {table : Nat → Option Nat}
    {pointer : StoragePointer} {sense : Denotation} (denotes : Denotes config pool table pointer sense)
    (same : ∀ index, pointer = .pool index → next index = pool index) :
    Denotes config next table pointer sense := by
  cases pointer with
  | acl index => exact denotes
  | pool index =>
      obtain ⟨inside, content, stored, denoted⟩ := denotes
      exact ⟨inside, content, (same index rfl).trans stored, denoted⟩

/-- Each delegate in use belongs to one entry, and it has its storage of the pool to itself. Every delegate has a
table of its own, since a deletion fixes the delegates one after the other. -/
structure Held (config : Config) (state : State) (table : Nat → Nat → Option Nat) (handles : Nat → Denotation) :
    Prop where
  empty : ∀ entry, state.entries entry = none → handles entry = .nothing
  held : ∀ entry delegate, state.entries entry = some delegate →
    delegate < config.entryDelegatePoolSize ∧ (state.delegates delegate).entry = entry ∧
    ∃ pointer, (state.delegates delegate).storage = some pointer ∧
      Denotes config state.pool (table delegate) pointer (handles entry)
  owned : ∀ delegate pointer, (state.delegates delegate).storage = some pointer →
    state.entries (state.delegates delegate).entry = some delegate
  apart : ∀ first second index, (state.delegates first).storage = some (.pool index) →
    (state.delegates second).storage = some (.pool index) → first = second

/-- The array and the iterators stay as they are. -/
structure SameArray (state next : State) : Prop where
  acl : next.acl = state.acl
  iteratorDelegates : next.iteratorDelegates = state.iteratorDelegates
  iterators : next.iterators = state.iterators

theorem SameArray.refl (state : State) : SameArray state state := ⟨rfl, rfl, rfl⟩

theorem SameArray.trans {state middle next : State} (first : SameArray state middle)
    (second : SameArray middle next) : SameArray state next where
  acl := second.acl.trans first.acl
  iteratorDelegates := second.iteratorDelegates.trans first.iteratorDelegates
  iterators := second.iterators.trans first.iterators

section Held
variable {config : Config} {state next : State} {table other : Nat → Nat → Option Nat} {handles : Nat → Denotation}

theorem Held.init (config : Config) (table : Nat → Nat → Option Nat) :
    Held config (State.init config) table fun _ => .nothing where
  empty := fun _ _ => rfl
  held := fun _ _ found => absurd found.symm (Option.some_ne_none _)
  owned := fun _ _ found => absurd found.symm (Option.some_ne_none _)
  apart := fun _ _ _ found => absurd found.symm (Option.some_ne_none _)

/-- The delegates alone decide what the handles denote. -/
theorem Held.of_same (held : Held config state table handles) (entries : next.entries = state.entries)
    (delegates : next.delegates = state.delegates) (pool : next.pool = state.pool) :
    Held config next table handles := by
  obtain ⟨empty, inUse, owned, apart⟩ := held
  constructor
  · rwa [entries]
  · rwa [entries, delegates, pool]
  · rwa [entries, delegates]
  · rwa [delegates]

/-- A handle on a listed entry has a delegate that points to the entry. -/
theorem Held.listed (held : Held config state table handles) {entry stamp : Nat}
    (denoted : handles entry = .listed stamp) : ∃ delegate position, table delegate position = some stamp := by
  cases found : state.entries entry with
  | none => exact absurd ((held.empty entry found).symm.trans denoted) (by simp)
  | some delegate =>
      obtain ⟨_, _, pointer, _, denotes⟩ := held.held entry delegate found
      cases pointer with
      | acl position =>
          obtain ⟨same, listed, meaning⟩ := denotes
          cases denoted.symm.trans meaning
          exact ⟨delegate, position, listed⟩
      | pool index =>
          obtain ⟨_, content, _, meaning⟩ := denotes
          exact absurd (denoted.symm.trans meaning) (by simp)

/-- A table may change where no delegate points. -/
theorem Held.retable (held : Held config state table handles)
    (same : ∀ delegate index stamp, (state.delegates delegate).storage = some (.acl index) →
      table delegate index = some stamp → other delegate index = some stamp) :
    Held config state other handles where
  empty := held.empty
  held := by
    intro entry delegate found
    obtain ⟨inside, own, pointer, storage, denotes⟩ := held.held entry delegate found
    refine ⟨inside, own, pointer, storage, ?_⟩
    cases pointer with
    | acl index =>
        obtain ⟨stamp, listed, denoted⟩ := denotes
        exact ⟨stamp, same delegate index stamp storage listed, denoted⟩
    | pool index => exact denotes
  owned := held.owned
  apart := held.apart

/-- An entry gets a delegate, which is its own or unused. -/
theorem Held.assign (held : Held config state table handles) {entry delegate : Nat} {pointer : StoragePointer}
    {sense : Denotation} (inside : delegate < config.entryDelegatePoolSize)
    (available : state.entries entry = some delegate ∨
      state.entries entry = none ∧ (state.delegates delegate).storage = none)
    (entries : next.entries = Function.update state.entries entry (some delegate))
    (chosen : next.delegates delegate = ⟨entry, some pointer⟩)
    (others : ∀ one, one ≠ delegate → next.delegates one = state.delegates one)
    (pool : ∀ one index, one ≠ delegate → (state.delegates one).storage = some (.pool index) →
      next.pool index = state.pool index ∧ pointer ≠ .pool index)
    (tables : ∀ one, one ≠ delegate → other one = table one)
    (denotes : Denotes config next.pool (other delegate) pointer sense) :
    Held config next other (Function.update handles entry sense) := by
  -- No other entry holds the delegate.
  have single (one : Nat) (different : one ≠ entry) : state.entries one ≠ some delegate := by
    intro same
    obtain ⟨_, own, _, storage, _⟩ := held.held one delegate same
    rcases available with mine | ⟨_, free⟩
    · exact different (own.symm.trans (held.held entry delegate mine).2.1)
    · exact absurd (free.symm.trans storage) (Option.some_ne_none _).symm
  -- No other delegate belongs to the entry.
  have foreign (one : Nat) (pointer : StoragePointer) (different : one ≠ delegate)
      (storage : (state.delegates one).storage = some pointer) : (state.delegates one).entry ≠ entry := by
    intro same
    have own := held.owned one pointer storage
    rw [same] at own
    rcases available with mine | ⟨free, _⟩
    · exact different (Option.some.inj (own.symm.trans mine))
    · exact absurd (free.symm.trans own) (Option.some_ne_none _).symm
  constructor
  · intro one absent
    rw [entries] at absent
    by_cases same : one = entry
    · rw [same, Function.update_self] at absent
      exact absurd absent (Option.some_ne_none _)
    · rw [Function.update_of_ne same] at absent ⊢
      exact held.empty one absent
  · intro one found present
    rw [entries] at present
    by_cases same : one = entry
    · subst same
      rw [Function.update_self, Option.some.injEq] at present
      subst present
      rw [Function.update_self, chosen]
      exact ⟨inside, rfl, pointer, rfl, denotes⟩
    · rw [Function.update_of_ne same] at present ⊢
      have different : found ≠ delegate := fun equal => single one same (equal ▸ present)
      obtain ⟨bound, own, old, storage, meaning⟩ := held.held one found present
      rw [others found different, tables found different]
      refine ⟨bound, own, old, storage, meaning.of_pool ?_⟩
      rintro index rfl
      exact (pool found index different storage).1
  · intro one old storage
    rw [entries]
    by_cases same : one = delegate
    · rw [same, chosen, Function.update_self]
    · rw [others one same] at storage ⊢
      rw [Function.update_of_ne (foreign one old same storage)]
      exact held.owned one old storage
  · intro first second index left right
    by_cases one : first = delegate
    · by_cases two : second = delegate
      · rw [one, two]
      · rw [one, chosen] at left
        rw [others second two] at right
        exact absurd (Option.some.inj left) (pool second index two right).2
    · rw [others first one] at left
      by_cases two : second = delegate
      · rw [two, chosen] at right
        exact absurd (Option.some.inj right) (pool first index one left).2
      · rw [others second two] at right
        exact held.apart first second index left right

/-- An entry loses its delegate. -/
theorem Held.drop (held : Held config state table handles) {entry : Nat}
    (entries : next.entries = Function.update state.entries entry none)
    (freed : ∀ delegate, state.entries entry = some delegate → (next.delegates delegate).storage = none)
    (others : ∀ one, state.entries entry ≠ some one → next.delegates one = state.delegates one)
    (pool : ∀ one index, state.entries entry ≠ some one → (state.delegates one).storage = some (.pool index) →
      next.pool index = state.pool index)
    (tables : ∀ one, state.entries entry ≠ some one → other one = table one) :
    Held config next other (Function.update handles entry .nothing) := by
  -- A delegate that is still in use is not the one of the entry.
  have kept (one : Nat) (pointer : StoragePointer) (storage : (next.delegates one).storage = some pointer) :
      state.entries entry ≠ some one := by
    intro same
    exact absurd (storage.symm.trans (freed one same)) (Option.some_ne_none _)
  constructor
  · intro one absent
    by_cases same : one = entry
    · rw [same, Function.update_self]
    · rw [entries, Function.update_of_ne same] at absent
      rw [Function.update_of_ne same]
      exact held.empty one absent
  · intro one found present
    rw [entries] at present
    by_cases same : one = entry
    · rw [same, Function.update_self] at present
      exact absurd present.symm (Option.some_ne_none _)
    · rw [Function.update_of_ne same] at present ⊢
      obtain ⟨bound, own, pointer, storage, meaning⟩ := held.held one found present
      have different : state.entries entry ≠ some found := fun equal =>
        same (own.symm.trans (held.held entry found equal).2.1)
      rw [others found different, tables found different]
      refine ⟨bound, own, pointer, storage, meaning.of_pool ?_⟩
      rintro index rfl
      exact pool found index different storage
  · intro one pointer storage
    have different := kept one pointer storage
    rw [others one different] at storage ⊢
    have own := held.owned one pointer storage
    rw [entries, Function.update_of_ne]
    · exact own
    · intro same
      exact different (same ▸ own)
  · intro first second index left right
    have one := kept first _ left
    have two := kept second _ right
    rw [others first one] at left
    rw [others second two] at right
    exact held.apart first second index left right

end Held

/-- The delegate of the entry is released, and the entry gets another one or none. -/
structure Released (state next : State) (entry : Nat) (delegate : Option Nat) : Prop where
  same : SameArray state next
  entries : next.entries = Function.update state.entries entry delegate
  others : ∀ one, state.entries entry ≠ some one → next.delegates one = state.delegates one
  freed : ∀ one, state.entries entry = some one → (next.delegates one).storage = none
  unused : ∀ one index, state.entries entry = some one → (state.delegates one).storage = some (.pool index) →
    (next.pool index).inUse = false
  pool : ∀ index, (∀ one, state.entries entry = some one → (state.delegates one).storage ≠ some (.pool index)) →
    next.pool index = state.pool index

section Operations
variable {config : Config} {state : State} {table other : Nat → Nat → Option Nat} {handles : Nat → Denotation}

theorem Held.setDelegate (held : Held config state table handles) (entry : Nat) (delegate : Option Nat) :
    ∃ next, setDelegate config state entry delegate = some next ∧ Released state next entry delegate := by
  unfold AccessControl.setDelegate
  rw [config.setDelegate_eq]
  cases found : state.entries entry with
  | none =>
      refine ⟨_, rfl, ⟨rfl, rfl, rfl⟩, rfl, fun _ _ => rfl, ?_, ?_, fun _ _ => rfl⟩
      · exact fun one present => absurd (found.symm.trans present).symm (Option.some_ne_none _)
      · exact fun one _ present => absurd (found.symm.trans present).symm (Option.some_ne_none _)
  | some old =>
      obtain ⟨_, _, pointer, storage, _⟩ := held.held entry old found
      dsimp only
      rw [Option.toList_some, List.foldlM_cons, releaseDelegate, storage]
      refine ⟨_, rfl, ⟨rfl, rfl, rfl⟩, rfl, ?_, ?_, ?_, ?_⟩
      · intro one different
        exact Function.update_of_ne (fun same => different (found.trans (congrArg some same.symm))) _ _
      · intro one present
        cases found.symm.trans present
        change (Function.update state.delegates old _ old).storage = none
        rw [Function.update_self]
      · intro one index present mine
        cases found.symm.trans present
        cases storage.symm.trans mine
        change (Function.update state.pool index _ index).inUse = false
        rw [Function.update_self]
      · intro index different
        cases pointer with
        | acl _ => rfl
        | pool place =>
            refine Function.update_of_ne ?_ _ _
            rintro rfl
            exact different old found storage

theorem Held.findDelegate (held : Held config state table handles) {entry delegate : Nat}
    (chosen : findDelegate config state entry = some delegate) :
    delegate < config.entryDelegatePoolSize ∧ (state.entries entry = some delegate ∨
      state.entries entry = none ∧ (state.delegates delegate).storage = none) := by
  unfold AccessControl.findDelegate at chosen
  cases found : state.entries entry with
  | some own =>
      rw [found] at chosen
      cases chosen
      exact ⟨(held.held entry delegate found).1, .inl rfl⟩
  | none =>
      rw [found] at chosen
      have inside := List.mem_range.mp (List.mem_of_find?_eq_some chosen)
      have free := List.find?_some chosen
      exact ⟨inside, .inr ⟨rfl, Option.isNone_iff_eq_none.mp free⟩⟩

/-- A storage of the pool is found that is unused or preferred. -/
theorem findStorage_cases {candidate : Option StoragePointer} {index : Nat}
    (found : findStorage config state candidate = some index) :
    candidate = some (.pool index) ∨
      index < config.entryStoragePoolSize ∧ (state.pool index).inUse = false := by
  unfold findStorage at found
  split at found
  · cases found
    exact .inl rfl
  · have inside := List.mem_range.mp (List.mem_of_find?_eq_some found)
    have free := List.find?_some found
    exact .inr ⟨inside, by simpa using free⟩

/-- A storage of the pool with a delegate is in use. -/
theorem Held.busy (held : Held config state table handles) {delegate index : Nat}
    (storage : (state.delegates delegate).storage = some (.pool index)) :
    index < config.entryStoragePoolSize ∧ (state.pool index).inUse = true := by
  obtain ⟨_, _, pointer, same, denotes⟩ := held.held _ delegate (held.owned delegate _ storage)
  cases storage.symm.trans same
  obtain ⟨inside, content, stored, _⟩ := denotes
  exact ⟨inside, congrArg EntryStorage.inUse stored⟩

/-- The delegate of an entry is set to a storage that no other delegate uses. -/
theorem Held.initDelegate (held : Held config state table handles) {entry delegate : Nat}
    (chosen : AccessControl.findDelegate config state entry = some delegate) {pointer : StoragePointer}
    {sense : Denotation}
    (alone : ∀ one index, one ≠ delegate → (state.delegates one).storage = some (.pool index) →
      pointer ≠ .pool index)
    (stored : ∀ next, Released state next entry (some delegate) →
      ∃ storage, next.storageAt pointer = some storage ∧
        (next.setStorage (storage.init config) pointer).acl = next.acl ∧
        Denotes config (next.setStorage (storage.init config) pointer).pool (table delegate) pointer sense) :
    ∃ next, AccessControl.initDelegate config state delegate entry pointer = some next ∧ SameArray state next ∧
      Held config next table (Function.update handles entry sense) := by
  obtain ⟨inside, available⟩ := held.findDelegate chosen
  obtain ⟨set, stepped, released⟩ := held.setDelegate entry (some delegate)
  obtain ⟨storage, lookup, array, denotes⟩ := stored set released
  -- The replaced delegate is the chosen one.
  have replaced (one : Nat) (present : state.entries entry = some one) : one = delegate := by
    rcases available with mine | ⟨free, _⟩
    · exact Option.some.inj (present.symm.trans mine)
    · exact absurd (present.symm.trans free) (Option.some_ne_none _)
  unfold AccessControl.initDelegate
  rw [stepped, Option.bind_some, lookup, Option.map_some]
  refine ⟨_, rfl, ?_, ?_⟩
  · cases pointer with
    | acl index => exact ⟨array.trans released.same.acl, released.same.iteratorDelegates, released.same.iterators⟩
    | pool index => exact ⟨released.same.acl, released.same.iteratorDelegates, released.same.iterators⟩
  · refine held.assign inside available ?_ (Function.update_self ..) ?_ ?_ (fun _ _ => rfl) denotes
    · cases pointer with
      | acl | pool => exact released.entries
    · intro one different
      have kept := released.others one fun present => different (replaced one present)
      refine (Function.update_of_ne different _ _).trans ?_
      cases pointer with
      | acl | pool => exact kept
    · intro one index different storage
      have away := alone one index different storage
      have kept := released.pool index fun mine present shared =>
        different ((held.apart one mine index storage shared).trans (replaced mine present))
      refine ⟨?_, away⟩
      cases pointer with
      | acl place => exact kept
      | pool place =>
          have apart : index ≠ place := fun same => away (congrArg StoragePointer.pool same.symm)
          exact (Function.update_of_ne apart _ _).trans kept

/-- The entry denotes a listed entry. -/
theorem Held.initDelegate_acl (held : Held config state table handles) {entry delegate index stamp : Nat}
    (chosen : AccessControl.findDelegate config state entry = some delegate) {storage : EntryStorage}
    (stored : state.acl[index]? = some storage) (busy : storage.inUse = true)
    (listed : table delegate index = some stamp) :
    ∃ next, AccessControl.initDelegate config state delegate entry (.acl index) = some next ∧ SameArray state next ∧
      Held config next table (Function.update handles entry (.listed stamp)) := by
  refine held.initDelegate chosen (fun _ _ _ _ same => StoragePointer.noConfusion same) fun next released => ?_
  have found : next.acl[index]? = some storage := by rw [released.same.acl, stored]
  refine ⟨storage, found, ?_, stamp, listed, rfl⟩
  obtain ⟨inside, same⟩ := List.getElem?_eq_some_iff.mp found
  unfold EntryStorage.init State.setStorage
  rw [if_pos busy, ← same]
  exact List.set_getElem_self inside

/-- The entry denotes a cleared content of its own. -/
theorem Held.initDelegate_pool (held : Held config state table handles) {entry delegate index : Nat}
    (chosen : AccessControl.findDelegate config state entry = some delegate)
    (found : AccessControl.findStorage config state (state.delegates delegate).storage = some index) :
    ∃ next, AccessControl.initDelegate config state delegate entry (.pool index) = some next ∧ SameArray state next ∧
      Held config next table (Function.update handles entry (.own (EntryStorage.cleared config).content)) := by
  -- A delegate that uses the storage is the chosen one.
  have used (one : Nat) (storage : (state.delegates one).storage = some (.pool index)) :
      one = delegate ∧ index < config.entryStoragePoolSize := by
    obtain ⟨inside, busy⟩ := held.busy storage
    rcases findStorage_cases found with mine | ⟨_, free⟩
    · exact ⟨held.apart one delegate index storage mine, inside⟩
    · exact absurd (free.symm.trans busy) Bool.false_ne_true
  have inside : index < config.entryStoragePoolSize := by
    rcases findStorage_cases found with mine | ⟨inside, _⟩
    · exact (used delegate mine).2
    · exact inside
  refine held.initDelegate chosen ?_ fun next released => ?_
  · rintro one place different storage same
    cases same
    exact different (used one storage).1
  · have free : (next.pool index).inUse = false := by
      by_cases shared : ∃ one, state.entries entry = some one ∧ (state.delegates one).storage = some (.pool index)
      · obtain ⟨one, present, storage⟩ := shared
        exact released.unused one index present storage
      · rw [released.pool index fun one present storage => shared ⟨one, present, storage⟩]
        rcases findStorage_cases found with mine | ⟨_, free⟩
        · rcases (held.findDelegate chosen).2 with own | ⟨_, none⟩
          · exact absurd ⟨delegate, own, mine⟩ shared
          · exact absurd (mine.symm.trans none) (Option.some_ne_none _)
        · exact free
    refine ⟨next.pool index, rfl, rfl, inside, (EntryStorage.cleared config).content, ?_, rfl⟩
    unfold EntryStorage.init State.setStorage
    rw [if_neg (by simp [free])]
    exact Function.update_self ..

end Operations

/-- The array holds the contents of the entries in the table. -/
def Backed (acl : List EntryStorage) (table : Nat → Option Nat) (contents : Nat → Option Content) : Prop :=
  ∀ index stamp, table index = some stamp →
    ∃ content, contents stamp = some content ∧ acl[index]? = some ⟨true, content⟩

/-- The delegate points to a storage of the pool. -/
def State.moveToPool (state : State) (delegate free : Nat) (content : Content) : State :=
  { state with
    pool := Function.update state.pool free ⟨true, content⟩
    delegates := Function.update state.delegates delegate
      { state.delegates delegate with storage := some (.pool free) } }

theorem State.moveToPool_storage (state : State) (delegate free : Nat) (content : Content) (one : Nat) :
    ((state.moveToPool delegate free content).delegates one).storage =
      if one = delegate then some (.pool free) else (state.delegates one).storage := by
  change (Function.update state.delegates delegate _ one).storage = _
  by_cases same : one = delegate
  · rw [if_pos same, same, Function.update_self]
  · rw [if_neg same, Function.update_of_ne same]

theorem State.moveToPool_pool (state : State) (delegate free : Nat) (content : Content) (index : Nat) :
    (state.moveToPool delegate free content).pool index =
      if index = free then ⟨true, content⟩ else state.pool index :=
  Function.update_apply ..

section Contents
variable {config : Config} {state : State} {table : Nat → Nat → Option Nat} {handles : Nat → Denotation}
  {contents : Nat → Option Content}

/-- A delegate that points into the array is moved to the pool, or the pool has no room. -/
theorem Held.ensureStorageInPool (held : Held config state table handles)
    (backed : ∀ delegate, Backed state.acl (table delegate) contents) {entry delegate : Nat}
    (present : state.entries entry = some delegate) :
    (∃ index, (state.delegates delegate).storage = some (.pool index) ∧
        ensureStorageInPool config state delegate = some (.noError, state)) ∨
      ∃ index stamp content, (state.delegates delegate).storage = some (.acl index) ∧
        table delegate index = some stamp ∧ handles entry = .listed stamp ∧ contents stamp = some content ∧
        (findStorage config state none = none ∧
            ensureStorageInPool config state delegate = some (.bufferTooSmall, state) ∨
          ∃ free, findStorage config state none = some free ∧
            ensureStorageInPool config state delegate = some (.noError, state.moveToPool delegate free content) ∧
            Held config (state.moveToPool delegate free content) table
              (Function.update handles entry (.own content))) := by
  obtain ⟨inside, own, pointer, storage, denotes⟩ := held.held entry delegate present
  unfold AccessControl.ensureStorageInPool
  rw [storage]
  cases pointer with
  | pool index => exact .inl ⟨index, rfl, rfl⟩
  | acl index =>
      right
      obtain ⟨stamp, listed, denoted⟩ := denotes
      obtain ⟨content, known, stored⟩ := backed delegate index stamp listed
      refine ⟨index, stamp, content, rfl, listed, denoted, known, ?_⟩
      cases found : findStorage config state none with
      | none => exact .inl ⟨rfl, rfl⟩
      | some free =>
          right
          dsimp only
          rw [stored]
          refine ⟨free, rfl, rfl, ?_⟩
          rcases findStorage_cases found with impossible | ⟨room, unused⟩
          · exact absurd impossible.symm (Option.some_ne_none _)
          have target : Denotes config (state.moveToPool delegate free content).pool (table delegate) (.pool free)
              (.own content) := ⟨room, content, Function.update_self .., rfl⟩
          refine held.assign inside (.inl present) ?_ ?_ ?_ ?_ (fun _ _ => rfl) target
          · rw [← present, Function.update_eq_self]
            rfl
          · change Function.update state.delegates delegate _ delegate = _
            rw [Function.update_self, own]
          · exact fun one different => Function.update_of_ne different _ _
          · intro one place different shared
            have apart : place ≠ free := by
              rintro rfl
              exact absurd (unused.symm.trans (held.busy shared).2) Bool.false_ne_true
            exact ⟨Function.update_of_ne apart _ _, fun same => apart (StoragePointer.pool.inj same).symm⟩

/-- The content of an entry is changed in the pool. -/
theorem Held.setStorage (held : Held config state table handles) {entry delegate index : Nat}
    (present : state.entries entry = some delegate)
    (storage : (state.delegates delegate).storage = some (.pool index)) (content : Content) :
    Held config (state.setStorage ⟨true, content⟩ (.pool index)) table
      (Function.update handles entry (.own content)) := by
  obtain ⟨inside, own, _⟩ := held.held entry delegate present
  have target : Denotes config (state.setStorage ⟨true, content⟩ (.pool index)).pool (table delegate) (.pool index)
      (.own content) := ⟨(held.busy storage).1, content, Function.update_self .., rfl⟩
  refine held.assign inside (.inl present) ?_ ?_ (fun _ _ => rfl) ?_ (fun _ _ => rfl) target
  · rw [← present, Function.update_eq_self]
    rfl
  · change state.delegates delegate = _
    rw [← own, ← storage]
  · intro one place different shared
    have apart : place ≠ index := by
      rintro rfl
      exact different (held.apart one delegate place shared storage)
    exact ⟨Function.update_of_ne apart _ _, fun same => apart (StoragePointer.pool.inj same).symm⟩

/-- A copy reads what the handle denotes. -/
theorem Held.copy (held : Held config state table handles)
    (backed : ∀ delegate, Backed state.acl (table delegate) contents) (entry : Nat) (outside : Option Content) :
    copy state entry outside =
      some (((handles entry).given contents outside).map fun content => ⟨true, content⟩) := by
  unfold AccessControl.copy
  cases found : state.entries entry with
  | none => rw [held.empty entry found, Denotation.given]
  | some delegate =>
      obtain ⟨_, _, pointer, storage, denotes⟩ := held.held entry delegate found
      dsimp only
      rw [storage, Option.bind_some]
      cases pointer with
      | acl index =>
          obtain ⟨stamp, listed, denoted⟩ := denotes
          obtain ⟨content, known, stored⟩ := backed delegate index stamp listed
          rw [denoted, Denotation.given, known, State.storageAt, stored]
          rfl
      | pool index =>
          obtain ⟨_, content, stored, denoted⟩ := denotes
          rw [denoted, Denotation.given, State.storageAt, stored]
          rfl

/-- A setter changes the content of its handle, which leaves the list. -/
theorem Held.setField (held : Held config state table handles)
    (backed : ∀ delegate, Backed state.acl (table delegate) contents) (entry : Nat) (change : Content → Content) :
    ∃ outcome next after, setField config state entry change = some (outcome, next) ∧ SameArray state next ∧
      Held config next table after ∧
      (outcome = Outcome.of .bufferTooSmall ∧ after = handles ∨
        match (handles entry).given contents none with
        | none => outcome = Outcome.of .interface ∧ after = handles
        | some content => outcome = Outcome.of .noError ∧
            after = Function.update handles entry (.own (change content))) := by
  unfold AccessControl.setField
  cases found : state.entries entry with
  | none =>
      refine ⟨_, state, handles, rfl, SameArray.refl state, held, .inr ?_⟩
      rw [held.empty entry found, Denotation.given]
      exact ⟨rfl, rfl⟩
  | some delegate =>
      dsimp only
      rcases held.ensureStorageInPool backed found with ⟨index, storage, ensured⟩ |
        ⟨index, stamp, content, storage, listed, denoted, known, full | ⟨free, _, ensured, moved⟩⟩
      · obtain ⟨_, _, pointer, same, denotes⟩ := held.held entry delegate found
        cases storage.symm.trans same
        obtain ⟨inside, content, stored, denoted⟩ := denotes
        rw [ensured, Option.bind_some, if_pos rfl, storage, Option.bind_some, State.storageAt, Option.map_some,
          stored, denoted, Denotation.given]
        exact ⟨_, _, _, rfl, ⟨rfl, rfl, rfl⟩, held.setStorage found storage (change content), .inr ⟨rfl, rfl⟩⟩
      · rw [full.2, Option.bind_some, if_neg (by simp)]
        exact ⟨_, _, _, rfl, SameArray.refl state, held, .inl ⟨rfl, rfl⟩⟩
      · have target := state.moveToPool_storage delegate free content delegate
        have stored := state.moveToPool_pool delegate free content free
        rw [if_pos rfl] at target stored
        rw [ensured, Option.bind_some, if_pos rfl, target, Option.bind_some, State.storageAt, Option.map_some,
          stored, denoted, Denotation.given, known]
        refine ⟨_, _, _, rfl, ⟨rfl, rfl, rfl⟩, moved.setStorage found target (change content), .inr ⟨rfl, ?_⟩⟩
        rw [Function.update_idem]

end Contents

end Barton.AccessControl
