import BartonCore.Construction.Sbmd.PersistentData
import BartonCore.Proof.Database.IndexKeys
import BartonCore.Proof.DeviceService.Removal
import BartonCore.ToMathlib.Parsing

namespace Barton.PersistentData
open Database Lifecycle

section Uris
variable {deviceUuid key : String}

/-- The letters of a text without their case. -/
def lowered (text : String) : List Char := text.toList.map Char.toLower

/-- The letters of the metadata marker. -/
def marker : List Char := ['/', 'm', '/']

/-- A device id has no slash and is not the name of the metadata segment. -/
structure DeviceId (deviceUuid : String) : Prop where
  slash : '/' ∉ deviceUuid.toList
  segment : lowered deviceUuid ≠ ['m']

theorem toLower_eq_slash {letter : Char} (same : letter.toLower = '/') : letter = '/' := by
  unfold Char.toLower at same
  split at same
  · rename_i upper
    have value : (letter.val + 32).toNat = 47 := congrArg (fun letter : Char => letter.val.toNat) same
    have bounds : 65 ≤ letter.val.toNat ∧ letter.val.toNat ≤ 90 := upper
    rw [UInt32.toNat_add] at value
    change (letter.val.toNat + 32) % 2 ^ 32 = 47 at value
    omega
  · exact same

theorem slash_notMem_lowered {text : String} (plain : '/' ∉ text.toList) : '/' ∉ lowered text := by
  intro member
  obtain ⟨letter, inside, same⟩ := List.mem_map.mp member
  exact plain (toLower_eq_slash same ▸ inside)

theorem lowered_append (first second : String) : lowered (first ++ second) = lowered first ++ lowered second := by
  unfold lowered
  rw [String.toList_append, List.map_append]

/-- The segments of the URI are fixed names, the device id, and the key. -/
theorem lowered_persistentUri : lowered (persistentUri deviceUuid key) =
    '/' :: (lowered "devices" ++ '/' :: (lowered deviceUuid ++
      '/' :: (lowered "metadata" ++ '/' :: lowered ("sbmd." ++ key)))) := by
  unfold persistentUri
  simp only [lowered_append]
  simp [lowered]

/-- No segment of the URI is the metadata marker. -/
theorem persistentUri_unmarked (device : DeviceId deviceUuid) (plain : '/' ∉ key.toList) :
    ¬marker <:+: lowered (persistentUri deviceUuid key) := by
  have word : '/' ∉ ['m'] := by decide
  have last : '/' ∉ lowered ("sbmd." ++ key) := by
    rw [lowered_append, List.mem_append, not_or]
    exact ⟨by decide, slash_notMem_lowered plain⟩
  show ¬ '/' :: (['m'] ++ ['/']) <:+: _
  rw [lowered_persistentUri, Parsing.infix_segment_iff word (by decide),
    Parsing.infix_segment_iff word (slash_notMem_lowered device.slash),
    Parsing.infix_segment_iff word (by decide)]
  rintro (fixed | same | fixed | inside)
  · exact absurd fixed (by decide)
  · exact device.segment same.symm
  · exact absurd fixed (by decide)
  · exact Parsing.not_infix_last last inside

/-- Every metadata URI that the repository creates has the marker. -/
theorem metadataUriCreate_marked (uuid endpointId name : Option String) :
    marker <:+: lowered (metadataUriCreate uuid endpointId name) := by
  have split : ∃ front back, metadataUriCreate uuid endpointId name = front ++ "/m/" ++ back := by
    cases endpointId with
    | none | some => exact ⟨_, _, rfl⟩
  obtain ⟨front, back, same⟩ := split
  rw [same, lowered_append, lowered_append]
  exact ⟨lowered front, lowered back, rfl⟩

/-- A text with the marker has it in lower case too. -/
theorem marked_lowered {uri : String} (marked : marker <:+: uri.toList) : marker <:+: lowered uri :=
  marked.map Char.toLower

theorem strstr_persistentUri (device : DeviceId deviceUuid) (plain : '/' ∉ key.toList) :
    strstr (persistentUri deviceUuid key) metadataMarker = false := by
  unfold strstr
  rw [decide_eq_false_iff_not]
  exact fun marked => persistentUri_unmarked device plain (marked_lowered marked)

/-- The id that a node id stands for is a device id. -/
theorem nodeIdToUuid_deviceId (nodeId : UInt64) : DeviceId (nodeIdToUuid nodeId) where
  slash := by
    have digit : ∀ value < 16, Nat.digitChar value ≠ '/' := by decide
    rw [nodeIdToUuid, String.toList_ofList]
    intro member
    obtain ⟨position, _, same⟩ := List.mem_map.mp member
    exact digit _ (Nat.mod_lt _ (by decide)) same
  segment := by
    intro same
    have length := congrArg List.length same
    rw [lowered, nodeIdToUuid, String.toList_ofList, List.length_map, List.length_map,
      List.length_range] at length
    cases length

end Uris

section Scans
variable {uri : String} {input rest : List Char}

theorem scanLiteral_some {literal : String} (scanned : scanLiteral literal input = some rest) :
    literal.toList <+: input ∧ rest <:+ input := by
  unfold scanLiteral at scanned
  split at scanned
  · rename_i starts
    cases scanned
    exact ⟨starts, List.drop_suffix _ _⟩
  · cases scanned

theorem scanSegment_some {segment : String} (scanned : scanSegment input = some (segment, rest)) :
    rest <:+ input := by
  unfold scanSegment at scanned
  split at scanned
  · cases scanned
  · cases scanned
    exact List.drop_suffix _ _

/-- A literal that is scanned inside a suffix of a text is in the text. -/
theorem infix_of_scanLiteral {literal : String} {text : List Char} (inside : input <:+ text)
    (scanned : scanLiteral literal input = some rest) : literal.toList <:+: text :=
  (scanLiteral_some scanned).1.isInfix.trans inside.isInfix

/-- Both scans of a metadata URI pass over the metadata marker. -/
theorem parseMetadataUri_marked {parsed : MetadataUri} (scanned : parseMetadataUri uri = some parsed) :
    strstr uri metadataMarker = true := by
  suffices inside : ("/m/" : String).toList <:+: uri.toList by
    unfold strstr
    exact decide_eq_true inside
  unfold parseMetadataUri at scanned
  split at scanned
  · obtain ⟨first, slash, scanned⟩ := Option.bind_eq_some_iff.mp scanned
    obtain ⟨⟨_, second⟩, device, scanned⟩ := Option.bind_eq_some_iff.mp scanned
    obtain ⟨third, literal, scanned⟩ := Option.bind_eq_some_iff.mp scanned
    obtain ⟨⟨_, fourth⟩, endpoint, scanned⟩ := Option.bind_eq_some_iff.mp scanned
    obtain ⟨_, scan, _⟩ := Option.bind_eq_some_iff.mp scanned
    refine infix_of_scanLiteral ?_ scan
    exact (scanSegment_some endpoint).trans ((scanLiteral_some literal).2.trans
      ((scanSegment_some device).trans (scanLiteral_some slash).2))
  · obtain ⟨first, slash, scanned⟩ := Option.bind_eq_some_iff.mp scanned
    obtain ⟨⟨_, second⟩, device, scanned⟩ := Option.bind_eq_some_iff.mp scanned
    obtain ⟨_, scan, _⟩ := Option.bind_eq_some_iff.mp scanned
    refine infix_of_scanLiteral ?_ scan
    exact (scanSegment_some device).trans (scanLiteral_some slash).2

end Scans

section Storage
variable {lib : Library} {drivers : Drivers} {deviceUuid key value : String} {db : JsonDatabase}

/-- The library compares texts without their case. -/
def Caseless (lib : Library) : Prop :=
  ∀ left right, lib.stringCompareIgnoreCase left right = true → lowered left = lowered right

/-- No metadata is stored under the URI of persistent data. -/
theorem persistentUri_unlocated (caseless : Caseless lib) (device : DeviceId deviceUuid)
    (plain : '/' ∉ key.toList) (named : MetadataNamed lib db.resourcesByUri) (entry address : Address)
    (owner : Option Address) :
    db.resourcesByUri.lookup (persistentUri deviceUuid key) ≠ some (.metadata entry owner address) := by
  intro located
  obtain ⟨uuid, endpointId, name, same⟩ := named _ _ located
  apply persistentUri_unmarked device plain
  rw [caseless _ _ same]
  exact metadataUriCreate_marked uuid endpointId name

/-- A fetch of persistent data never returns a value. -/
theorem makePersistFetcher_null (caseless : Caseless lib) (device : DeviceId deviceUuid)
    (plain : '/' ∉ key.toList) (named : MetadataNamed lib db.resourcesByUri) :
    makePersistFetcher deviceUuid db key ≠ some (some value) := by
  intro fetched
  obtain ⟨answer, read, joined⟩ := Option.map_eq_some_iff.mp fetched
  obtain ⟨accessible, _, read⟩ := Option.bind_eq_some_iff.mp read
  split at read
  · obtain ⟨metadata, found, rfl⟩ := Option.map_eq_some_iff.mp read
    unfold jsonDatabaseGetMetadataByUri at found
    split at found
    · rename_i located
      exact persistentUri_unlocated caseless device plain named _ _ _ located
    · cases found
      cases joined
  · cases read
    cases joined

/-- The write of persistent data is refused and changes nothing. -/
theorem setPersistentData_refused (device : DeviceId deviceUuid) (plain : '/' ∉ key.toList)
    {service next : Service} {outcome : Outcome} {frames : List Frame}
    (made : frameMove lib drivers service (.setMetadataUri (some (persistentUri deviceUuid key))
      (some value)) outcome = some (next, frames)) :
    next = service ∧ frames = [.returned false] := by
  obtain ⟨accessible, _, equal⟩ := Option.map_eq_some_iff.mp made
  cases equal
  refine ⟨rfl, ?_⟩
  have unparsed : parseMetadataUri (persistentUri deviceUuid key) = none := by
    cases scanned : parseMetadataUri (persistentUri deviceUuid key) with
    | none => rfl
    | some parsed =>
        have marked := parseMetadataUri_marked scanned
        rw [strstr_persistentUri device plain] at marked
        cases marked
  cases accessible with
  | false => rfl
  | true => rw [if_pos rfl, setParsedMetadata, unparsed]

end Storage

section Runs
variable {lib : Library} {drivers : Drivers} {deviceUuid key value : String}

/-- A handler result with the operation is executed for a stored device while the storage works. -/
structure HandlerRun (lib : Library) (drivers : Drivers) (deviceUuid key value : String) where
  storage : Storage
  calls : List (Call × Bool)
  start : Threads.Configuration Service (List Frame)
  thread : Nat
  ops : List ResultOp
  schedule : List (Nat × Outcome)
  final : Threads.Configuration Service (List Frame)
  reachable : Database.run lib (JsonDatabase.empty storage) calls = some start.shared.db
  known : start.shared.db.has deviceUuid = true
  handled : start.threads[thread]? = some (executeOps lib deviceUuid ops)
  operation : .setPersistentData key value ∈ ops
  working : ∀ input ∈ schedule, input.2.stored = true
  ran : Lifecycle.run lib drivers start schedule = some final
  executed : ∀ rest ∈ final.threads[thread]?, rest = [] ∨ ∃ result, rest = [.returned result]

/-- The database of the run and of every later state was reached by calls from an empty one. -/
theorem HandlerRun.metadataNamed (handler : HandlerRun lib drivers deviceUuid key value)
    {calls : List (Call × Bool)} {db : JsonDatabase}
    (later : Database.run lib handler.final.shared.db calls = some db) :
    MetadataNamed lib db.resourcesByUri := by
  have initial := run_metadataNamed (MetadataNamed.empty lib handler.storage) handler.reachable
  obtain ⟨performed, reached⟩ := run_database handler.ran
  exact run_metadataNamed (run_metadataNamed initial reached) later

/-- After the operation was executed, the persistent supplement of every later invocation is null. -/
theorem persistentData_lost (caseless : Caseless lib) (device : DeviceId deviceUuid)
    (plain : '/' ∉ key.toList) (handler : HandlerRun lib drivers deviceUuid key value)
    {reads : List (JsonDatabase × String)} {fetched : List FetchedSupplement}
    (later : ∀ read ∈ reads, ∃ calls, Database.run lib handler.final.shared.db calls = some read.1)
    (prefetched : prefetchPersistentData deviceUuid reads = some fetched) :
    populate fetched key = none := by
  unfold populate
  cases found : fetched.find? fun entry => entry.key == key && entry.value.isSome with
  | none => rfl
  | some entry =>
      have test := List.find?_some found
      rw [Bool.and_eq_true, beq_iff_eq, Option.isSome_iff_exists] at test
      obtain ⟨same, other, held⟩ := test
      obtain ⟨read, member, fetch⟩ := source_of_mapM prefetched (List.mem_of_find?_eq_some found)
      obtain ⟨answer, answered, rfl⟩ := Option.map_eq_some_iff.mp fetch
      obtain ⟨calls, reached⟩ := later read member
      change read.2 = key at same
      change answer = some other at held
      subst same held
      exact absurd answered
        (makePersistFetcher_null caseless device plain (handler.metadataNamed reached))

end Runs

/-- This device was commissioned with the node id one. -/
def sampleMatterDevice : DeviceRecord :=
  { sampleDevice with uuid := some (nodeIdToUuid 1), uri := some ("/" ++ nodeIdToUuid 1) }

/-- The service holds the sample device. -/
def sampleMatterService : Service :=
  ⟨⟨(Database.run sampleLibrary (JsonDatabase.empty ∅) [(.addDevice sampleMatterDevice, true)]).getD
    (JsonDatabase.empty ∅), [], []⟩, [], [], [], []⟩

/-- The operation is executed alone. -/
def sampleHandler : List Frame := executeOps sampleLibrary (nodeIdToUuid 1) [.setPersistentData "k" "v"]

def sampleHandlerRun : HandlerRun sampleLibrary sampleDrivers (nodeIdToUuid 1) "k" "v" where
  storage := ∅
  calls := [(.addDevice sampleMatterDevice, true)]
  start := ⟨sampleMatterService, [sampleHandler]⟩
  thread := 0
  ops := [.setPersistentData "k" "v"]
  schedule := order [0]
  final := (Lifecycle.run sampleLibrary sampleDrivers ⟨sampleMatterService, [sampleHandler]⟩
    (order [0])).getD ⟨sampleMatterService, []⟩
  reachable := rfl
  known := by decide +kernel
  handled := rfl
  operation := List.mem_singleton_self _
  working := by decide +kernel
  ran := rfl
  executed := by
    intro rest member
    exact Or.inr ⟨false, (Option.mem_some.mp member).symm⟩

theorem sampleLibrary_caseless : Caseless sampleLibrary := by
  intro left right same
  exact eq_of_beq same

theorem persistentData_lost_sample :
    ∃ fetched, prefetchPersistentData (nodeIdToUuid 1) [(sampleHandlerRun.final.shared.db, "k")] =
      some fetched ∧ populate fetched "k" = none := by
  have prefetched : prefetchPersistentData (nodeIdToUuid 1) [(sampleHandlerRun.final.shared.db, "k")] =
      some [⟨"k", none⟩] := by decide +kernel
  refine ⟨_, prefetched, ?_⟩
  apply persistentData_lost sampleLibrary_caseless (nodeIdToUuid_deviceId 1) (by decide)
    sampleHandlerRun ?_ prefetched
  intro read member
  rw [List.mem_singleton] at member
  subst member
  exact ⟨[], rfl⟩

/-- The URI of persistent data has no metadata marker, so the write is refused and the fetch finds nothing. -/
theorem not_persistentData_kept :
    ¬∀ (lib : Library) (drivers : Drivers) (deviceUuid key value : String)
      (handler : HandlerRun lib drivers deviceUuid key value) (fetched : List FetchedSupplement),
      handler.start.threads = [executeOps lib deviceUuid [.setPersistentData key value]] →
      '/' ∉ key.toList → value ≠ "" →
      prefetchPersistentData deviceUuid [(handler.final.shared.db, key)] = some fetched →
      populate fetched key = some value := by
  intro claim
  have kept := claim sampleLibrary sampleDrivers (nodeIdToUuid 1) "k" "v" sampleHandlerRun
    [⟨"k", none⟩] rfl (by decide) (by decide) (by decide +kernel)
  exact absurd kept (by decide +kernel)

end Barton.PersistentData
