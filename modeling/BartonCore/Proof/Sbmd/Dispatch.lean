import BartonCore.Construction.Sbmd.Dispatch

namespace Barton.Dispatch
open Tlv Buckets

section Order
variable (aliases : Aliases)

/-- The aliases that the handlers list, each with its entry, in the order of the loops. -/
def resolved (handlers : List (SbmdDeviceHandler × Nat)) : List (SbmdAlias × DispatchEntry) :=
  handlers.flatMap fun indexed => indexed.1.aliases.filterMap fun name =>
    (aliases name).map fun found => (found, ⟨indexed.2, indexed.1.priority⟩)

/-- The entry of a known alias is filed. -/
def fileResolved (table : SbmdDispatchTable) (pair : SbmdAlias × DispatchEntry) : SbmdDispatchTable :=
  match pair.1.elementId with
  | none => { table with
      wildcardTable := pushBack pair.1.clusterId ⟨pair.2.handler, .wildcard⟩ table.wildcardTable }
  | some elementId => { table with
      specificTable := pushBack ⟨pair.1.clusterId, elementId⟩ pair.2 table.specificTable }

theorem fileAlias_eq (entry : DispatchEntry) (table : SbmdDispatchTable) (name : PropertyKey) :
    fileAlias aliases entry table name = (aliases name).elim table fun found => fileResolved table (found, entry) := by
  unfold fileAlias fileResolved
  cases aliases name with
  | none => rfl
  | some found =>
      cases element : found.elementId with
      | none | some => simp [element]

theorem fileHandler_eq (table : SbmdDispatchTable) (indexed : SbmdDeviceHandler × Nat) :
    fileHandler aliases table indexed = (resolved aliases [indexed]).foldl fileResolved table := by
  unfold fileHandler resolved
  rw [List.flatMap_cons, List.flatMap_nil, List.append_nil]
  generalize indexed.1.aliases = names
  induction names generalizing table with
  | nil => rfl
  | cons name rest ih =>
      rw [List.foldl_cons, ih, fileAlias_eq]
      cases found : aliases name with
      | none | some => simp [found]

/-- The loops file the listed aliases in order. -/
theorem foldl_fileHandler (handlers : List (SbmdDeviceHandler × Nat)) (table : SbmdDispatchTable) :
    handlers.foldl (fileHandler aliases) table = (resolved aliases handlers).foldl fileResolved table := by
  induction handlers generalizing table with
  | nil => rfl
  | cons indexed rest ih =>
      have split : resolved aliases (indexed :: rest) = resolved aliases [indexed] ++ resolved aliases rest := by
        unfold resolved
        rw [← List.flatMap_append]
        rfl
      rw [List.foldl_cons, ih, fileHandler_eq, split, List.foldl_append]

/-- The specific entries of a key in the order of the loops. -/
theorem bucket_specificTable (key : DispatchKey) (pairs : List (SbmdAlias × DispatchEntry))
    (table : SbmdDispatchTable) :
    bucket key (pairs.foldl fileResolved table).specificTable = bucket key table.specificTable ++
      (pairs.filter fun pair => pair.1.clusterId = key.clusterId ∧ pair.1.elementId = some key.elementId).map
        Prod.snd := by
  induction pairs generalizing table with
  | nil => exact (List.append_nil _).symm
  | cons pair rest ih =>
      rw [List.foldl_cons, ih]
      unfold fileResolved
      cases element : pair.1.elementId with
      | none => simp [element]
      | some elementId =>
          dsimp only
          rw [bucket_pushBack]
          by_cases same : key = ⟨pair.1.clusterId, elementId⟩
          · simp [same, element]
          · have other : ¬ (pair.1.clusterId = key.clusterId ∧ pair.1.elementId = some key.elementId) := by
              rintro ⟨cluster, id⟩
              rw [element, Option.some.injEq] at id
              apply same
              rw [cluster, id]
            rw [if_neg same, List.filter_cons_of_neg (by simpa using other)]

/-- The wildcard entries of a cluster in the order of the loops. -/
theorem bucket_wildcardTable (cluster : BitVec 32) (pairs : List (SbmdAlias × DispatchEntry))
    (table : SbmdDispatchTable) :
    bucket cluster (pairs.foldl fileResolved table).wildcardTable = bucket cluster table.wildcardTable ++
      (pairs.filter fun pair => pair.1.clusterId = cluster ∧ pair.1.elementId = none).map
        fun pair => ⟨pair.2.handler, .wildcard⟩ := by
  induction pairs generalizing table with
  | nil => exact (List.append_nil _).symm
  | cons pair rest ih =>
      rw [List.foldl_cons, ih]
      unfold fileResolved
      cases element : pair.1.elementId with
      | some elementId => simp [element]
      | none =>
          dsimp only
          rw [bucket_pushBack]
          by_cases same : cluster = pair.1.clusterId
          · simp [same, element]
          · rw [if_neg same, List.filter_cons_of_neg (by simpa using fun equal => absurd equal.symm same)]

/-- A lookup lists the specific entries by priority, and then the wildcards. -/
theorem lookup_build (handlers : List SbmdDeviceHandler) (clusterId elementId : BitVec 32) :
    lookup (build aliases handlers) clusterId elementId =
      sortEntries (((resolved aliases handlers.zipIdx).filter fun pair =>
        pair.1.clusterId = clusterId ∧ pair.1.elementId = some elementId).map Prod.snd) ++
      ((resolved aliases handlers.zipIdx).filter fun pair =>
        pair.1.clusterId = clusterId ∧ pair.1.elementId = none).map fun pair => ⟨pair.2.handler, .wildcard⟩ := by
  unfold lookup build
  dsimp only
  rw [bucket_mapBuckets rfl, foldl_fileHandler, bucket_specificTable, bucket_wildcardTable]
  rfl

end Order

section Match
variable {aliases : Aliases} {handlers : List SbmdDeviceHandler}

/-- The alias has a cluster, and it has no element or this one. -/
def SbmdAlias.Matches (found : SbmdAlias) (clusterId elementId : BitVec 32) : Prop :=
  found.clusterId = clusterId ∧ (found.elementId = none ∨ found.elementId = some elementId)

/-- A lookup returns the handler with an index. -/
def Returns (table : SbmdDispatchTable) (index : Nat) (clusterId elementId : BitVec 32) : Prop :=
  ∃ entry ∈ lookup table clusterId elementId, entry.handler = index

theorem mem_resolved {pair : SbmdAlias × DispatchEntry} : pair ∈ resolved aliases handlers.zipIdx ↔
    ∃ index handler, handlers[index]? = some handler ∧ pair.2 = ⟨index, handler.priority⟩ ∧
      ∃ name ∈ handler.aliases, aliases name = some pair.1 := by
  unfold resolved
  rw [List.mem_flatMap]
  constructor
  · rintro ⟨⟨handler, index⟩, member, listed⟩
    obtain ⟨name, inside, found⟩ := List.mem_filterMap.mp listed
    obtain ⟨known, same, rfl⟩ := Option.map_eq_some_iff.mp found
    exact ⟨index, handler, List.mk_mem_zipIdx_iff_getElem?.mp member, rfl, name, inside, same⟩
  · rintro ⟨index, handler, member, entry, name, inside, found⟩
    refine ⟨(handler, index), List.mk_mem_zipIdx_iff_getElem?.mpr member, List.mem_filterMap.mpr ⟨name, inside, ?_⟩⟩
    rw [found, Option.map_some, ← entry]

/-- A handler is returned exactly when one of its aliases matches. -/
theorem returns_build {index : Nat} {handler : SbmdDeviceHandler} (member : handlers[index]? = some handler)
    (clusterId elementId : BitVec 32) : Returns (build aliases handlers) index clusterId elementId ↔
      ∃ name ∈ handler.aliases, ∃ found, aliases name = some found ∧ found.Matches clusterId elementId := by
  unfold Returns
  rw [lookup_build]
  constructor
  · rintro ⟨entry, inside, rfl⟩
    rcases List.mem_append.mp inside with specific | wildcard
    · obtain ⟨pair, filed, rfl⟩ := List.mem_map.mp ((List.mem_insertionSort _).mp specific)
      obtain ⟨listed, key⟩ := List.mem_filter.mp filed
      obtain ⟨cluster, element⟩ := of_decide_eq_true key
      obtain ⟨other, own, found, entry, name, inside, known⟩ := mem_resolved.mp listed
      rw [entry, found] at member
      cases member
      exact ⟨name, inside, pair.1, known, cluster, Or.inr element⟩
    · obtain ⟨pair, filed, rfl⟩ := List.mem_map.mp wildcard
      obtain ⟨listed, key⟩ := List.mem_filter.mp filed
      obtain ⟨cluster, element⟩ := of_decide_eq_true key
      obtain ⟨other, own, found, entry, name, inside, known⟩ := mem_resolved.mp listed
      rw [entry, found] at member
      cases member
      exact ⟨name, inside, pair.1, known, cluster, Or.inl element⟩
  · rintro ⟨name, inside, found, known, cluster, element⟩
    have listed : (found, ⟨index, handler.priority⟩) ∈ resolved aliases handlers.zipIdx :=
      mem_resolved.mpr ⟨index, handler, member, rfl, name, inside, known⟩
    rcases element with wildcard | specific
    · refine ⟨⟨index, .wildcard⟩,
        List.mem_append_right _ (List.mem_map.mpr ⟨_, List.mem_filter.mpr ⟨listed, ?_⟩, rfl⟩), rfl⟩
      exact decide_eq_true ⟨cluster, wildcard⟩
    · refine ⟨⟨index, handler.priority⟩, List.mem_append_left _ ((List.mem_insertionSort _).mpr
        (List.mem_map.mpr ⟨_, List.mem_filter.mpr ⟨listed, ?_⟩, rfl⟩)), rfl⟩
      exact decide_eq_true ⟨cluster, specific⟩

end Match

section Names
variable (toNumber : JsValue → JsNumber)

/-- The value of an alias that is neither `undefined` nor `null`. -/
def declared (aliasesVal : JsValue) (name : PropertyKey) : Option JsValue :=
  if name ∈ getObjectKeys aliasesVal ∧ isAbsent (getProperty name aliasesVal) = false then
    some (getProperty name aliasesVal)
  else none

theorem extractAliases_eq (aliasesVal : JsValue) (name : PropertyKey) :
    extractAliases toNumber aliasesVal name = (declared aliasesVal name).map (extractAlias toNumber) := by
  have fold (keys : List PropertyKey) (before : Aliases) :
      keys.foldl (fun aliases key =>
        let aliasVal := getProperty key aliasesVal
        if isAbsent aliasVal then aliases
        else Function.update aliases key (some (extractAlias toNumber aliasVal))) before name =
      if name ∈ keys ∧ isAbsent (getProperty name aliasesVal) = false then
        some (extractAlias toNumber (getProperty name aliasesVal)) else before name := by
    induction keys generalizing before with
    | nil => simp
    | cons key rest ih =>
        rw [List.foldl_cons, ih]
        by_cases absent : isAbsent (getProperty key aliasesVal) = true
        · by_cases same : name = key
          · subst same
            simp [absent]
          · simp [absent, same]
        · by_cases same : name = key
          · subst same
            simp [absent]
          · simp [absent, same]
  unfold extractAliases declared
  rw [fold]
  split
  · rfl
  · rfl

def Kind.idName : Kind → String
  | .attributes => "attributeId"
  | .events => "eventId"
  | .commands => "commandId"

/-- The id of the kind that an alias declares. -/
def idField (kind : Kind) (aliasVal : JsValue) : JsValue := getProperty (named kind.idName) aliasVal

def clusterField (aliasVal : JsValue) : JsValue := getProperty (named "clusterId") aliasVal

/-- The alias has the cluster, is of the kind of the table, and its id is the given one or the wildcard. -/
structure Names (kind : Kind) (aliasVal : JsValue) (clusterId elementId : BitVec 32) : Prop where
  cluster : isAbsent (clusterField aliasVal) = true ∧ clusterId = 0 ∨ clusterField aliasVal = .whole clusterId.toNat
  alone : ∀ other, other ≠ kind → isAbsent (idField other aliasVal) = true
  element : isAbsent (idField kind aliasVal) = true ∨ idField kind aliasVal = .string (units "*") ∨
    idField kind aliasVal = .whole elementId.toNat

/-- The alias has no id of another kind, and its numbers have 32 bits. -/
structure WellFormed (kind : Kind) (aliasVal : JsValue) : Prop where
  cluster : isAbsent (clusterField aliasVal) = true ∨
    ∃ clusterId : BitVec 32, clusterField aliasVal = .whole clusterId.toNat
  alone : ∀ other, other ≠ kind → isAbsent (idField other aliasVal) = true
  element : isAbsent (idField kind aliasVal) = true ∨
    ∃ elementId : BitVec 32, idField kind aliasVal = .whole elementId.toNat

variable {toNumber} {kind : Kind} {aliasVal : JsValue}

theorem toUint32_whole (value : BitVec 32) : toUint32 toNumber (.whole value.toNat) = value := by
  change BitVec.ofInt 32 (value.toNat : ℤ) = value
  rw [BitVec.ofInt_natCast, BitVec.ofNat_toNat, BitVec.setWidth_eq]

theorem whole_inj {first second : BitVec 32} (same : JsValue.whole first.toNat = .whole second.toNat) :
    first = second := by
  have equal := congrArg (toUint32 fun _ => .integral (.finite 0)) same
  rwa [toUint32_whole, toUint32_whole] at equal

/-- The id that is read from an alias of one kind. -/
theorem elementId_extractAlias (alone : ∀ other, other ≠ kind → isAbsent (idField other aliasVal) = true) :
    (extractAlias toNumber aliasVal).elementId = getOptUint32Prop toNumber aliasVal kind.idName := by
  have absent (other : Kind) (different : other ≠ kind) :
      getOptUint32Prop toNumber aliasVal other.idName = none := if_pos (alone other different)
  unfold SbmdAlias.elementId extractAlias
  cases kind with
  | attributes =>
      have noEvent := absent .events nofun
      have noCommand := absent .commands nofun
      dsimp only [Kind.idName] at noEvent noCommand ⊢
      rw [noEvent, noCommand, Option.or_none, Option.or_none]
  | events =>
      have noAttribute := absent .attributes nofun
      have noCommand := absent .commands nofun
      dsimp only [Kind.idName] at noAttribute noCommand ⊢
      rw [noAttribute, noCommand, Option.none_or, Option.or_none]
  | commands =>
      have noAttribute := absent .attributes nofun
      have noEvent := absent .events nofun
      dsimp only [Kind.idName] at noAttribute noEvent ⊢
      rw [noAttribute, noEvent, Option.none_or, Option.none_or]

/-- The cluster of a well-formed alias is read as it is written. -/
theorem clusterId_iff (wellFormed : WellFormed kind aliasVal) (clusterId : BitVec 32) :
    (extractAlias toNumber aliasVal).clusterId = clusterId ↔
      isAbsent (clusterField aliasVal) = true ∧ clusterId = 0 ∨
        clusterField aliasVal = .whole clusterId.toNat := by
  have reads : (extractAlias toNumber aliasVal).clusterId =
      if isAbsent (clusterField aliasVal) then 0 else toUint32 toNumber (clusterField aliasVal) := rfl
  rw [reads]
  rcases wellFormed.cluster with absent | ⟨written, same⟩
  · rw [if_pos absent]
    constructor
    · exact fun same => Or.inl ⟨absent, same.symm⟩
    · rintro (⟨_, same⟩ | same)
      · exact same.symm
      · rw [same] at absent
        cases absent
  · rw [same, if_neg nofun, toUint32_whole]
    constructor
    · rintro rfl
      exact Or.inr rfl
    · rintro (⟨absent, _⟩ | equal)
      · cases absent
      · exact whole_inj equal

/-- A well-formed alias matches exactly what it names. -/
theorem matches_iff (wellFormed : WellFormed kind aliasVal) (clusterId elementId : BitVec 32) :
    (extractAlias toNumber aliasVal).Matches clusterId elementId ↔ Names kind aliasVal clusterId elementId := by
  have reads : (extractAlias toNumber aliasVal).elementId =
      if isAbsent (idField kind aliasVal) then none else some (toUint32 toNumber (idField kind aliasVal)) :=
    elementId_extractAlias wellFormed.alone
  have element : ((extractAlias toNumber aliasVal).elementId = none ∨
      (extractAlias toNumber aliasVal).elementId = some elementId) ↔
        isAbsent (idField kind aliasVal) = true ∨ idField kind aliasVal = .string (units "*") ∨
          idField kind aliasVal = .whole elementId.toNat := by
    rw [reads]
    rcases wellFormed.element with absent | ⟨written, same⟩
    · rw [if_pos absent]
      exact iff_of_true (Or.inl rfl) (Or.inl absent)
    · rw [same, if_neg nofun, toUint32_whole]
      constructor
      · rintro (none | equal)
        · cases none
        · rw [Option.some.inj equal]
          exact Or.inr (Or.inr rfl)
      · rintro (absent | wildcard | equal)
        · cases absent
        · cases wildcard
        · exact Or.inr (congrArg some (whole_inj equal))
  unfold SbmdAlias.Matches
  rw [clusterId_iff wellFormed, element]
  constructor
  · rintro ⟨cluster, named⟩
    exact ⟨cluster, wellFormed.alone, named⟩
  · rintro ⟨cluster, _, named⟩
    exact ⟨cluster, named⟩

/-- An alias that matches exactly what it names is well-formed. -/
theorem wellFormed_of_matches (same : ∀ clusterId elementId,
    (extractAlias toNumber aliasVal).Matches clusterId elementId ↔ Names kind aliasVal clusterId elementId) :
    WellFormed kind aliasVal := by
  have found (elementId : BitVec 32) (element : (extractAlias toNumber aliasVal).elementId = none ∨
      (extractAlias toNumber aliasVal).elementId = some elementId) :
      Names kind aliasVal (extractAlias toNumber aliasVal).clusterId elementId := (same _ _).mp ⟨rfl, element⟩
  obtain ⟨read, known⟩ : ∃ read, (extractAlias toNumber aliasVal).elementId = none ∨
      (extractAlias toNumber aliasVal).elementId = some read := by
    cases (extractAlias toNumber aliasVal).elementId with
    | none => exact ⟨0, Or.inl rfl⟩
    | some read => exact ⟨read, Or.inr rfl⟩
  obtain ⟨cluster, alone, element⟩ := found read known
  refine ⟨cluster.imp And.left fun written => ⟨_, written⟩, alone, ?_⟩
  rcases element with absent | wildcard | written
  · exact Or.inl absent
  · have reads : (extractAlias toNumber aliasVal).elementId = some (toUint32 toNumber (.string (units "*"))) := by
      rw [elementId_extractAlias alone]
      unfold getOptUint32Prop
      change (if isAbsent (idField kind aliasVal) then none else some (toUint32 toNumber (idField kind aliasVal))) = _
      rw [wildcard, if_neg nofun]
    have all := (same (extractAlias toNumber aliasVal).clusterId
      (toUint32 toNumber (.string (units "*")) + 1)).mpr ⟨cluster, alone, Or.inr (Or.inl wildcard)⟩
    rcases all.2 with none | other
    · rw [reads] at none
      cases none
    · rw [reads, Option.some.injEq] at other
      exact absurd other (by bv_omega)
  · exact Or.inr ⟨read, written⟩

end Names

section Registrations
variable {toNumber : JsValue → JsNumber} {toName : JsValue → Option PropertyKey} {kind : Kind}
  {loaded : SbmdRegistration} {registration : JsValue}

theorem getProperty_cons (key other : PropertyKey) (value : JsValue) (rest : Properties) :
    getProperty key (.object ((other, value) :: rest)) =
      if other = key then value else getProperty key (.object rest) := by
  unfold getProperty ownProperty
  by_cases same : other = key
  · simp [same]
  · simp [same]

theorem getProperty_nil (key : PropertyKey) : getProperty key (.object []) = .undefined := rfl

/-- The loaded aliases are the declared ones. -/
theorem aliases_extractRegistration
    (loads : extractRegistration toNumber toName registration = some loaded) (name : PropertyKey) :
    loaded.aliases name =
      (declared (getProperty (named "aliases") registration) name).map (extractAlias toNumber) := by
  unfold extractRegistration at loads
  dsimp only at loads
  obtain ⟨_, _, loads⟩ := Option.bind_eq_some_iff.mp loads
  obtain ⟨attributeHandlers, _, loads⟩ := Option.bind_eq_some_iff.mp loads
  obtain ⟨eventHandlers, _, loads⟩ := Option.bind_eq_some_iff.mp loads
  obtain ⟨commandHandlers, _, loads⟩ := Option.bind_eq_some_iff.mp loads
  cases loads
  dsimp only
  by_cases absent : isAbsent (getProperty (named "aliases") registration) = true
  · rw [if_pos absent]
    generalize getProperty (named "aliases") registration = aliasesVal at absent
    cases aliasesVal with
    | undefined => rfl
    | null => rfl
    | boolean | number | string | bytes | array | object | function => cases absent
  · rw [if_neg absent, extractAliases_eq]

def Kind.handlersName : Kind → String
  | .attributes => "attributeHandlers"
  | .events => "eventHandlers"
  | .commands => "commandHandlers"

/-- A registration with one handler that lists one alias. The title is its name and its schema version. -/
def oneAlias (kind : Kind) (title aliasesVal element : JsValue) : JsValue :=
  .object [(named "name", title), (named "schemaVersion", title), (named "aliases", aliasesVal),
    (named kind.handlersName, .object [(named "handler",
      .object [(named "handler", .function), (named "aliases", .array [element])])])]

theorem names_distinct (kind : Kind) : (named "name" ≠ named kind.handlersName ∧
      named "schemaVersion" ≠ named kind.handlersName ∧ named "aliases" ≠ named kind.handlersName) ∧
    ∀ other : Kind, named kind.handlersName = named other.handlersName → kind = other := by
  cases kind with
  | attributes | events | commands =>
      refine ⟨by decide +kernel, ?_⟩
      intro other
      cases other with
      | attributes | events | commands => decide +kernel

theorem aliases_oneAlias (title aliasesVal element : JsValue) :
    getProperty (named "aliases") (oneAlias kind title aliasesVal element) = aliasesVal := by
  have distinct : named "name" ≠ named "aliases" ∧ named "schemaVersion" ≠ named "aliases" := by decide +kernel
  unfold oneAlias
  rw [getProperty_cons, if_neg distinct.1, getProperty_cons, if_neg distinct.2, getProperty_cons, if_pos rfl]

theorem hasMetadata_oneAlias {title : JsValue} (titled : hasText toName title = true) (aliasesVal element : JsValue) :
    hasMetadata toName (oneAlias kind title aliasesVal element) = true := by
  have distinct : named "name" ≠ named "schemaVersion" := by decide +kernel
  unfold hasMetadata oneAlias
  rw [getProperty_cons, if_pos rfl, getProperty_cons, if_neg distinct, getProperty_cons, if_pos rfl, titled]
  rfl

theorem extractHandlers_oneAlias (title aliasesVal : JsValue) {element : JsValue} {name : PropertyKey}
    (reads : toName element = some name) (other : Kind) :
    extractHandlers toNumber toName (oneAlias kind title aliasesVal element) other.handlersName =
      some (if kind = other then [⟨named "handler", [name]⟩] else []) := by
  unfold extractHandlers oneAlias
  dsimp only
  obtain ⟨⟨name_apart, schemaVersion_apart, aliases_apart⟩, _⟩ := names_distinct other
  rw [getProperty_cons, if_neg name_apart, getProperty_cons, if_neg schemaVersion_apart, getProperty_cons,
    if_neg aliases_apart, getProperty_cons, getProperty_nil]
  by_cases same : kind = other
  · subst same
    have different : named "handler" ≠ named "aliases" := by decide +kernel
    have length : getArrayLength toNumber (.array [element]) = 1 := rfl
    have list : getStringArray toNumber toName (.array [element]) = [name] := by
      unfold getStringArray
      rw [length]
      simp [List.range_succ, getProperty, getProperty.element, reads]
    have keys (handlerObj : JsValue) : getObjectKeys (.object [(named "handler", handlerObj)]) =
        [named "handler"] := rfl
    rw [if_pos rfl, if_pos rfl, if_neg nofun, keys, extractDeviceHandlers, extractDeviceHandlers,
      getProperty_cons, if_pos rfl]
    dsimp only
    rw [if_neg nofun, getProperty_cons, if_pos rfl]
    dsimp only
    rw [getProperty_cons, if_neg different, getProperty_cons, if_pos rfl, if_neg nofun, list]
    rfl
  · rw [if_neg fun equal => same ((names_distinct kind).2 other equal), if_neg same]
    rfl

theorem extractRegistration_oneAlias {title : JsValue} (titled : hasText toName title = true) (aliasesVal : JsValue)
    {element : JsValue} {name : PropertyKey} (reads : toName element = some name) : ∃ loaded,
      extractRegistration toNumber toName (oneAlias kind title aliasesVal element) = some loaded ∧
        loaded.handlers kind = [⟨named "handler", [name]⟩] := by
  have first := @extractHandlers_oneAlias toNumber toName kind title aliasesVal element name reads .attributes
  have second := @extractHandlers_oneAlias toNumber toName kind title aliasesVal element name reads .events
  have third := @extractHandlers_oneAlias toNumber toName kind title aliasesVal element name reads .commands
  unfold Kind.handlersName at first second third
  unfold extractRegistration
  dsimp only at first second third ⊢
  rw [first, second, third, hasMetadata_oneAlias titled]
  refine ⟨_, rfl, ?_⟩
  cases kind with
  | attributes | events | commands => rfl

/-- A listed name is the text of an element. -/
theorem written_extractDeviceHandlers {handlersObj : JsValue} {keys : List PropertyKey}
    {handlers : List SbmdDeviceHandler}
    (extracts : extractDeviceHandlers toNumber toName handlersObj keys = some handlers) :
    ∀ handler ∈ handlers, ∀ name ∈ handler.aliases, ∃ element, toName element = some name := by
  induction keys generalizing handlers with
  | nil =>
      cases extracts
      exact nofun
  | cons key rest ih =>
      rw [extractDeviceHandlers] at extracts
      dsimp only at extracts
      split at extracts
      · exact ih extracts
      · split at extracts
        · obtain ⟨later, same, rfl⟩ := Option.map_eq_some_iff.mp extracts
          intro handler member name listed
          rcases List.mem_cons.mp member with rfl | member
          · dsimp only at listed
            split at listed
            · cases listed
            · obtain ⟨index, _, reads⟩ := List.mem_filterMap.mp listed
              exact ⟨_, reads⟩
          · exact ih same handler member name listed
        · cases extracts

theorem written_extractHandlers {name : String} {handlers : List SbmdDeviceHandler}
    (extracts : extractHandlers toNumber toName registration name = some handlers) :
    ∀ handler ∈ handlers, ∀ name ∈ handler.aliases, ∃ element, toName element = some name := by
  unfold extractHandlers at extracts
  dsimp only at extracts
  split at extracts
  · cases extracts
    exact nofun
  · exact written_extractDeviceHandlers extracts

theorem written_extractRegistration
    (loads : extractRegistration toNumber toName registration = some loaded) (kind : Kind) :
    ∀ handler ∈ loaded.handlers kind, ∀ name ∈ handler.aliases, ∃ element, toName element = some name := by
  unfold extractRegistration at loads
  dsimp only at loads
  obtain ⟨_, _, loads⟩ := Option.bind_eq_some_iff.mp loads
  obtain ⟨attributeHandlers, first, loads⟩ := Option.bind_eq_some_iff.mp loads
  obtain ⟨eventHandlers, second, loads⟩ := Option.bind_eq_some_iff.mp loads
  obtain ⟨commandHandlers, third, loads⟩ := Option.bind_eq_some_iff.mp loads
  cases loads
  cases kind with
  | attributes => exact written_extractHandlers first
  | events => exact written_extractHandlers second
  | commands => exact written_extractHandlers third

theorem titled_extractRegistration (loads : extractRegistration toNumber toName registration = some loaded) :
    ∃ title, hasText toName title = true := by
  unfold extractRegistration at loads
  obtain ⟨_, metadata, _⟩ := Option.bind_eq_some_iff.mp loads
  refine ⟨getProperty (named "name") registration, ?_⟩
  cases titled : hasText toName (getProperty (named "name") registration) with
  | true => rfl
  | false =>
      rw [hasMetadata, titled] at metadata
      cases metadata

/-- The handler lists an alias that names the element. -/
def Listed (kind : Kind) (aliasesVal : JsValue) (handler : SbmdDeviceHandler) (clusterId elementId : BitVec 32) :
    Prop :=
  ∃ name ∈ handler.aliases, ∃ aliasVal, declared aliasesVal name = some aliasVal ∧
    Names kind aliasVal clusterId elementId

/-- The table of the kind returns exactly the handlers that list the element. -/
def Dispatches (registration : JsValue) (loaded : SbmdRegistration) (kind : Kind) : Prop :=
  ∀ index handler, (loaded.handlers kind)[index]? = some handler → ∀ clusterId elementId,
    Returns (activate loaded kind) index clusterId elementId ↔
      Listed kind (getProperty (named "aliases") registration) handler clusterId elementId

/-- A handler with one alias is dispatched to what it lists only if the alias is well-formed. -/
theorem wellFormed_of_dispatches {title aliasesVal element aliasVal : JsValue} {name : PropertyKey}
    (titled : hasText toName title = true) (reads : toName element = some name) (declares : declared aliasesVal name = some aliasVal)
    (loads : extractRegistration toNumber toName (oneAlias kind title aliasesVal element) = some loaded)
    (dispatches : Dispatches (oneAlias kind title aliasesVal element) loaded kind) : WellFormed kind aliasVal := by
  have own := @aliases_oneAlias kind title aliasesVal element
  have member : (loaded.handlers kind)[0]? = some ⟨named "handler", [name]⟩ := by
    obtain ⟨only, same, handlers⟩ := @extractRegistration_oneAlias toNumber toName kind title titled aliasesVal element name reads
    rw [loads] at same
    cases same
    rw [handlers]
    rfl
  have known := aliases_extractRegistration loads name
  rw [own, declares, Option.map_some] at known
  apply wellFormed_of_matches
  intro clusterId elementId
  have dispatched := dispatches 0 _ member clusterId elementId
  unfold activate at dispatched
  rw [returns_build member, own] at dispatched
  constructor
  · intro matched
    obtain ⟨other, listed, value, same, names⟩ := dispatched.mp ⟨name, List.mem_cons_self, _, known, matched⟩
    rw [List.mem_singleton.mp listed, declares] at same
    cases same
    exact names
  · intro names
    obtain ⟨other, listed, found, same, matched⟩ :=
      dispatched.mpr ⟨name, List.mem_cons_self, aliasVal, declares, names⟩
    rw [List.mem_singleton.mp listed, known] at same
    cases same
    exact matched

/-- The aliases that may be listed in a table are well-formed exactly when all handlers that list only these aliases
are dispatched to what they list. A registration has a name and a schema version that are not empty. -/
theorem dispatches_iff (kind : Kind) (aliasesVal : JsValue) (names : Set PropertyKey) :
    (∀ registration loaded, getProperty (named "aliases") registration = aliasesVal →
        extractRegistration toNumber toName registration = some loaded →
        (∀ handler ∈ loaded.handlers kind, ∀ name ∈ handler.aliases, name ∈ names) →
        Dispatches registration loaded kind) ↔
      ((∃ title, hasText toName title = true) → ∀ name ∈ names, (∃ element, toName element = some name) → ∀ aliasVal,
        declared aliasesVal name = some aliasVal → WellFormed kind aliasVal) := by
  constructor
  · rintro dispatches ⟨title, titled⟩ name inside ⟨element, reads⟩ aliasVal declares
    obtain ⟨loaded, loads, handlers⟩ := @extractRegistration_oneAlias toNumber toName kind title titled aliasesVal element name reads
    apply wellFormed_of_dispatches titled reads declares loads
    apply dispatches _ loaded _ loads
    · rw [handlers]
      intro handler member other listed
      rw [List.mem_singleton.mp member] at listed
      rwa [List.mem_singleton.mp listed]
    · exact aliases_oneAlias title aliasesVal element
  · rintro wellFormed registration loaded rfl loads listed index handler member clusterId elementId
    have correct (name : PropertyKey) (inside : name ∈ handler.aliases) {aliasVal : JsValue}
        (declares : declared (getProperty (named "aliases") registration) name = some aliasVal) :
        WellFormed kind aliasVal :=
      wellFormed (titled_extractRegistration loads) name (listed handler (List.mem_of_getElem? member) name inside)
        (written_extractRegistration loads kind handler (List.mem_of_getElem? member) name inside) aliasVal declares
    unfold activate
    rw [returns_build member]
    constructor
    · rintro ⟨name, inside, found, known, matched⟩
      rw [aliases_extractRegistration loads] at known
      obtain ⟨aliasVal, declares, rfl⟩ := Option.map_eq_some_iff.mp known
      exact ⟨name, inside, aliasVal, declares, (matches_iff (correct name inside declares) _ _).mp matched⟩
    · rintro ⟨name, inside, aliasVal, declares, names⟩
      refine ⟨name, inside, extractAlias toNumber aliasVal, ?_,
        (matches_iff (correct name inside declares) _ _).mpr names⟩
      rw [aliases_extractRegistration loads, declares, Option.map_some]

end Registrations

section Failing

/-- The conversion of the language for texts that are no numerals. -/
def textNumber (_ : JsValue) : JsNumber := .fraction 0x7ff8000000000000

/-- The conversion of the language for strings that are no numerals. -/
def textName : JsValue → Option PropertyKey
  | .string text => some (.name text)
  | _ => none

/-- The alias `{clusterId: 6, attributeId: "*"}`. -/
def anyAttribute : JsValue := .object [(named "clusterId", .whole 6), (named "attributeId", .string (units "*"))]

/-- The alias `{clusterId: 6, eventId: 0}`. -/
def firstEvent : JsValue := .object [(named "clusterId", .whole 6), (named "eventId", .whole 0)]

/-- An attribute handler with one alias. -/
def attributeHandler (aliasVal : JsValue) : JsValue :=
  oneAlias .attributes (.string (units "4.0")) (.object [(named "element", aliasVal)]) (.string (units "element"))

theorem declared_single (name : PropertyKey) {aliasVal : JsValue} (present : isAbsent aliasVal = false) :
    declared (.object [(name, aliasVal)]) name = some aliasVal := by
  unfold declared
  rw [getProperty_cons, if_pos rfl, if_pos ⟨List.mem_cons_self, present⟩]

theorem not_wellFormed_anyAttribute : ¬ WellFormed .attributes anyAttribute := by
  intro wellFormed
  have different : named "clusterId" ≠ named "attributeId" := by decide +kernel
  have text : idField .attributes anyAttribute = .string (units "*") := by
    unfold idField anyAttribute Kind.idName
    dsimp only
    rw [getProperty_cons, if_neg different, getProperty_cons, if_pos rfl]
  rcases wellFormed.element with absent | ⟨elementId, number⟩
  · rw [text] at absent
    cases absent
  · rw [text] at number
    cases number

theorem not_wellFormed_firstEvent : ¬ WellFormed .attributes firstEvent := by
  intro wellFormed
  have present : isAbsent (idField .events firstEvent) = false := by decide +kernel
  have absent := wellFormed.alone .events nofun
  rw [present] at absent
  cases absent

/-- The wildcard `"*"` is read as the id 0 and misses the id 5, and the id of an event dispatches an attribute. -/
theorem not_dispatches :
    (∃ loaded, extractRegistration textNumber textName (attributeHandler anyAttribute) = some loaded ∧
      lookup (activate loaded .attributes) 6 5 = [] ∧
      ¬ Dispatches (attributeHandler anyAttribute) loaded .attributes) ∧
    ∃ loaded, extractRegistration textNumber textName (attributeHandler firstEvent) = some loaded ∧
      lookup (activate loaded .attributes) 6 0 = [⟨0, .single⟩] ∧
      ¬ Dispatches (attributeHandler firstEvent) loaded .attributes := by
  have titled : hasText textName (.string (units "4.0")) = true := by decide +kernel
  have reads : textName (.string (units "element")) = some (named "element") := rfl
  constructor
  · have computed : (extractRegistration textNumber textName (attributeHandler anyAttribute)).map (fun loaded =>
        lookup (activate loaded .attributes) 6 5) = some [] := by decide +kernel
    obtain ⟨loaded, loads, found⟩ := Option.map_eq_some_iff.mp computed
    refine ⟨loaded, loads, found, ?_⟩
    intro dispatches
    exact not_wellFormed_anyAttribute (wellFormed_of_dispatches titled reads (declared_single _ rfl) loads dispatches)
  · have computed : (extractRegistration textNumber textName (attributeHandler firstEvent)).map (fun loaded =>
        lookup (activate loaded .attributes) 6 0) = some [⟨0, .single⟩] := by decide +kernel
    obtain ⟨loaded, loads, found⟩ := Option.map_eq_some_iff.mp computed
    refine ⟨loaded, loads, found, ?_⟩
    intro dispatches
    exact not_wellFormed_firstEvent (wellFormed_of_dispatches titled reads (declared_single _ rfl) loads dispatches)

end Failing

end Barton.Dispatch
