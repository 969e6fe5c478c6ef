import BartonCore.Construction.Zigbee.DeviceDetails
import BartonCore.Proof.Database.RoundTrip

namespace Barton.DeviceDetails
open Database Strtol
open Rounding (toDouble toDouble_eq)

section Ids

theorem digitValue_digitChar {digit : Nat} (small : digit < 16) : digitValue (Nat.digitChar digit) = some digit := by
  revert digit
  decide

theorem isDigit_hexDigits (width number : Nat) : ∀ character ∈ hexDigits width number, isDigit 16 character = true := by
  induction width generalizing number with
  | zero => exact fun character member => absurd member List.not_mem_nil
  | succ width ih =>
      intro character member
      rcases List.mem_append.mp member with high | low
      · exact ih _ character high
      · have small : number % 16 < 16 := Nat.mod_lt _ (by decide)
        rw [List.mem_singleton.mp low, isDigit, digitValue_digitChar small]
        exact decide_eq_true small

theorem length_hexDigits (width number : Nat) : (hexDigits width number).length = width := by
  induction width generalizing number with
  | zero => rfl
  | succ width ih => rw [hexDigits, List.length_append, ih, List.length_singleton]

theorem readDigits_hexDigits (width number : Nat) : readDigits 16 0 (hexDigits width number) = number % 16 ^ width := by
  induction width generalizing number with
  | zero => rw [hexDigits, readDigits, Nat.pow_zero, Nat.mod_one]
  | succ width ih =>
      have small : number % 16 < 16 := Nat.mod_lt _ (by decide)
      rw [hexDigits, readDigits_concat (isDigit_hexDigits width _) (digitValue_digitChar small) small, ih,
        Nat.pow_succ', Nat.mod_mul]
      omega

/-- The id of a device denotes its address. -/
theorem zigbeeSubsystemIdToEui64_toId (eui64 : UInt64) :
    zigbeeSubsystemIdToEui64 (zigbeeSubsystemEui64ToId eui64) = eui64 := by
  have digits := isDigit_hexDigits 16 eui64.toNat
  have length := length_hexDigits 16 eui64.toNat
  have value := readDigits_hexDigits 16 eui64.toNat
  have bounded : eui64.toNat < 16 ^ 16 := eui64.toNat_lt
  rw [Nat.mod_eq_of_lt bounded] at value
  rw [zigbeeSubsystemIdToEui64, zigbeeSubsystemEui64ToId, String.toList_ofList]
  generalize hexDigits 16 eui64.toNat = text at digits length value
  obtain ⟨first, rest, rfl⟩ := List.exists_cons_of_length_pos (by rw [length]; decide)
  obtain ⟨second, rest, rfl⟩ := List.exists_cons_of_length_pos (l := rest) (by
    rw [List.length_cons] at length
    omega)
  have leading := digits first List.mem_cons_self
  have following := digits second (List.mem_cons_of_mem _ List.mem_cons_self)
  have visible : isSpace first = false := by
    by_contra blank
    rw [isDigit, digitValue_space (Bool.not_eq_false _ ▸ blank)] at leading
    cases leading
  have unsigned : sign (first :: second :: rest) = (false, first :: second :: rest) := by
    unfold sign
    split
    · rename_i same
      cases same
      exact absurd leading (by decide)
    · rename_i same
      cases same
      exact absurd leading (by decide)
    · rfl
  have unmarked : withoutMark (first :: second :: rest) = first :: second :: rest := by
    rw [withoutMark, if_neg]
    rintro ⟨_, lower | upper, _⟩
    · cases lower
      exact absurd following (by decide)
    · cases upper
      exact absurd following (by decide)
  rw [List.dropWhile_cons_of_neg (by rw [visible]; exact Bool.false_ne_true), List.take_of_length_le length.le,
    unsigned]
  dsimp only
  rw [unmarked, value, if_neg Bool.false_ne_true, UInt64.ofNat_toNat]

end Ids

section RoundTrip
variable (json : JsonHelpers)

/-- The array has as many entries as are counted, and at most 255. -/
structure IcDiscoveredClusterDetails.Counted (details : IcDiscoveredClusterDetails) : Prop where
  attributeIds : details.numAttributeIds.toNat = details.attributeIds.length
  few : details.attributeIds.length ≤ 255

structure IcDiscoveredEndpointDetails.Counted (details : IcDiscoveredEndpointDetails) : Prop where
  servers : details.numServerClusterDetails.toNat = details.serverClusterDetails.length
  clients : details.numClientClusterDetails.toNat = details.clientClusterDetails.length
  server : ∀ cluster ∈ details.serverClusterDetails, cluster.Counted
  client : ∀ cluster ∈ details.clientClusterDetails, cluster.Counted

/-- The details of a device with a manufacturer and a model, versions below 2^53, and at most 255 of each kind. -/
structure DiscoveredDevice where
  details : IcDiscoveredDeviceDetails
  manufacturer : String
  manufactured : details.manufacturer = some manufacturer
  model : String
  modelled : details.model = some model
  hardware : details.hardwareVersion.toNat < 2 ^ 53
  firmware : details.firmwareVersion.toNat < 2 ^ 53
  app : details.appVersion.toNat < 2 ^ 53
  endpoints : details.numEndpoints.toNat = details.endpointDetails.length
  endpoint : ∀ endpoint ∈ details.endpointDetails, endpoint.Counted

def IcDiscoveredClusterDetails.withoutValues (details : IcDiscoveredClusterDetails) : IcDiscoveredClusterDetails :=
  { details with attributeValues := none }

def IcDiscoveredEndpointDetails.withoutValues (details : IcDiscoveredEndpointDetails) : IcDiscoveredEndpointDetails :=
  { details with
    serverClusterDetails := details.serverClusterDetails.map IcDiscoveredClusterDetails.withoutValues
    clientClusterDetails := details.clientClusterDetails.map IcDiscoveredClusterDetails.withoutValues }

def IcDiscoveredDeviceDetails.withoutValues (details : IcDiscoveredDeviceDetails) : IcDiscoveredDeviceDetails :=
  { details with endpointDetails := details.endpointDetails.map IcDiscoveredEndpointDetails.withoutValues }

theorem field_names : "id".toLower = "id" ∧ "isServer".toLower = "isserver" ∧
    "attributeIds".toLower = "attributeids" ∧ "profileId".toLower = "profileid" ∧ "deviceId".toLower = "deviceid" ∧
    "deviceVer".toLower = "devicever" ∧ "serverClusterInfos".toLower = "serverclusterinfos" ∧
    "clientClusterInfos".toLower = "clientclusterinfos" ∧ "eui64".toLower = "eui64" ∧
    "manufacturer".toLower = "manufacturer" ∧ "model".toLower = "model" ∧ "hwVer".toLower = "hwver" ∧
    "fwVer".toLower = "fwver" ∧ "appVer".toLower = "appver" ∧ "type".toLower = "type" ∧ "power".toLower = "power" ∧
    "endpoints".toLower = "endpoints" := by decide +kernel

/-- A small number is read as it was written. -/
theorem getCJSONInt_number {item : Json} {name : String} {number : Nat} (small : number < 2 ^ 31)
    (found : item.getObjectItem name = some (.number (toDouble number))) :
    json.getCJSONInt item name = some (Int32.ofNat number) := by
  apply json.int_item
  rw [found, toDouble_eq (small.trans (by decide)), Int32.toInt_ofNat_of_lt small]
  rfl

theorem valueint_toDouble {number : Nat} (small : number < 2 ^ 31) :
    json.valueint (.number (toDouble number)) = Int32.ofNat number := by
  have value := json.valueint_number (Int32.ofNat number)
  rw [Int32.toInt_ofNat_of_lt small] at value
  rw [toDouble_eq (small.trans (by decide))]
  exact value

theorem narrow8_ofNat (value : UInt8) : narrow8 (Int32.ofNat value.toNat) = value := by
  rw [narrow8, Int32.toUInt32_ofNat', UInt32.toUInt8_ofNat', UInt8.ofNat_toNat]

theorem narrow16_ofNat (value : UInt16) : narrow16 (Int32.ofNat value.toNat) = value := by
  rw [narrow16, Int32.toUInt32_ofNat', UInt32.toUInt16_ofNat', UInt16.ofNat_toNat]

theorem castUint64_toDouble {value : UInt64} (small : value.toNat < 2 ^ 53) :
    castUint64 ((toDouble value.toNat : Nat) : ℚ) = value := by
  rw [toDouble_eq small, castUint64, Int.floor_natCast, Int.toNat_natCast, UInt64.ofNat_toNat]

/-- The count of an encoded list is that of the list. -/
theorem arraySize_map {Entry : Type} (toJson : Entry → Json) {entries : List Entry} {count : UInt8}
    (counted : count.toNat = entries.length) : arraySize (.array (entries.map toJson)) = count := by
  rw [arraySize, Json.children, List.length_map, ← counted, UInt8.ofNat_toNat]

/-- Encoded entries are read one by one inside their array. -/
theorem fill_map {Entry Decoded : Type} {fromJson : Bool → Json → Reading Decoded} {toJson : Entry → Json}
    {decoded : Entry → Decoded} {entries : List Entry}
    (reads : ∀ entry ∈ entries, fromJson true (toJson entry) = .done (decoded entry)) {size index : Nat}
    (fits : index + entries.length ≤ size) :
    fill fromJson size index (entries.map toJson) = .done (entries.map decoded) := by
  induction entries generalizing index with
  | nil => rfl
  | cons entry entries ih =>
      rw [List.forall_mem_cons] at reads
      rw [List.length_cons] at fits
      rw [List.map_cons, fill, decide_eq_true (by omega : index < size), reads.1, Reading.bind,
        ih reads.2 (by omega)]
      rfl

/-- An encoded array is read whole. -/
theorem fill_array {Entry Decoded : Type} {fromJson : Bool → Json → Reading Decoded} {toJson : Entry → Json}
    (decoded : Entry → Decoded) {entries : List Entry} {count : UInt8} (counted : count.toNat = entries.length)
    (reads : ∀ entry ∈ entries, fromJson true (toJson entry) = .done (decoded entry)) :
    fill fromJson count.toNat 0 (Json.array (entries.map toJson)).children = .done (entries.map decoded) :=
  fill_map reads (by rw [Nat.zero_add]; exact counted.ge)

theorem clusterFromJson_toJson {details : IcDiscoveredClusterDetails} (counted : details.Counted) :
    icDiscoveredClusterDetailsFromJson json true (icDiscoveredClusterDetailsToJson details) =
      .done details.withoutValues := by
  obtain ⟨id, isServer, attributeIds, _⟩ := field_names
  have few : (UInt8.ofNat details.attributeIds.length).toNat = details.attributeIds.length :=
    UInt8.toNat_ofNat_of_lt' (Nat.lt_succ_of_le counted.few)
  have whole : details.attributeIds.take details.numAttributeIds.toNat = details.attributeIds := by
    rw [counted.attributeIds, List.take_length]
  have named : json.getCJSONInt (icDiscoveredClusterDetailsToJson details) "id" =
      some (Int32.ofNat details.clusterId.toNat) := by
    apply getCJSONInt_number json (details.clusterId.toNat_lt.trans (by decide))
    simp [icDiscoveredClusterDetailsToJson, addNumber]
  have server : json.getCJSONBool (icDiscoveredClusterDetailsToJson details) "isServer" = some details.isServer := by
    apply json.bool_item
    simp [icDiscoveredClusterDetailsToJson, addNumber, id, isServer]
  have listed : (icDiscoveredClusterDetailsToJson details).getObjectItem "attributeIds" =
      some (.array (details.attributeIds.map fun attributeId => .number (toDouble attributeId.toNat))) := by
    simp [icDiscoveredClusterDetailsToJson, addNumber, id, isServer, attributeIds, whole]
  have filled := fill_array (fun attributeId => attributeId) few fun attributeId _ => by
    show attributeIdFromJson json true (.number (toDouble attributeId.toNat)) = .done attributeId
    rw [attributeIdFromJson, valueint_toDouble json (attributeId.toNat_lt.trans (by decide)), narrow16_ofNat]
    rfl
  have count : (UInt8.ofNat details.attributeIds.length).toUInt16 = details.numAttributeIds := by
    apply UInt16.toNat_inj.mp
    rw [UInt8.toNat_toUInt16, few, counted.attributeIds]
  rw [icDiscoveredClusterDetailsFromJson, named, server, listed]
  simp only [Reading.ofItem, Reading.bind, assign, if_true, filled, arraySize_map _ few, count, narrow16_ofNat,
    List.map_id']
  rfl

theorem endpointFromJson_toJson {details : IcDiscoveredEndpointDetails} (counted : details.Counted) :
    icDiscoveredEndpointDetailsFromJson json true (icDiscoveredEndpointDetailsToJson details) =
      .done details.withoutValues := by
  obtain ⟨id, _, _, profileId, deviceId, deviceVer, servers, clients, _⟩ := field_names
  have wholeServers : details.serverClusterDetails.take details.numServerClusterDetails.toNat =
      details.serverClusterDetails := by rw [counted.servers, List.take_length]
  have wholeClients : details.clientClusterDetails.take details.numClientClusterDetails.toNat =
      details.clientClusterDetails := by rw [counted.clients, List.take_length]
  have named : json.getCJSONInt (icDiscoveredEndpointDetailsToJson details) "id" =
      some (Int32.ofNat details.endpointId.toNat) := by
    apply getCJSONInt_number json (details.endpointId.toNat_lt.trans (by decide))
    simp [icDiscoveredEndpointDetailsToJson, addNumber]
  have profiled : json.getCJSONInt (icDiscoveredEndpointDetailsToJson details) "profileId" =
      some (Int32.ofNat details.appProfileId.toNat) := by
    apply getCJSONInt_number json (details.appProfileId.toNat_lt.trans (by decide))
    simp [icDiscoveredEndpointDetailsToJson, addNumber, id, profileId]
  have numbered : json.getCJSONInt (icDiscoveredEndpointDetailsToJson details) "deviceId" =
      some (Int32.ofNat details.appDeviceId.toNat) := by
    apply getCJSONInt_number json (details.appDeviceId.toNat_lt.trans (by decide))
    simp [icDiscoveredEndpointDetailsToJson, addNumber, id, profileId, deviceId]
  have versioned : json.getCJSONInt (icDiscoveredEndpointDetailsToJson details) "deviceVer" =
      some (Int32.ofNat details.appDeviceVersion.toNat) := by
    apply getCJSONInt_number json (details.appDeviceVersion.toNat_lt.trans (by decide))
    simp [icDiscoveredEndpointDetailsToJson, addNumber, id, profileId, deviceId, deviceVer]
  have serving : (icDiscoveredEndpointDetailsToJson details).getObjectItem "serverClusterInfos" =
      some (.array (details.serverClusterDetails.map icDiscoveredClusterDetailsToJson)) := by
    simp [icDiscoveredEndpointDetailsToJson, addNumber, id, profileId, deviceId, deviceVer, servers, wholeServers]
  have calling : (icDiscoveredEndpointDetailsToJson details).getObjectItem "clientClusterInfos" =
      some (.array (details.clientClusterDetails.map icDiscoveredClusterDetailsToJson)) := by
    simp [icDiscoveredEndpointDetailsToJson, addNumber, id, profileId, deviceId, deviceVer, servers, clients,
      wholeClients]
  have filledServers := fill_array _ counted.servers fun cluster member =>
    clusterFromJson_toJson json (counted.server cluster member)
  have filledClients := fill_array _ counted.clients fun cluster member =>
    clusterFromJson_toJson json (counted.client cluster member)
  rw [icDiscoveredEndpointDetailsFromJson, named, profiled, numbered, versioned, serving, calling]
  simp only [Reading.ofItem, Reading.bind, assign, if_true, arraySize_map _ counted.servers,
    arraySize_map _ counted.clients, filledServers, filledClients, narrow8_ofNat, narrow16_ofNat]
  rfl

theorem deviceTypeFromJson_label (deviceType : zhalDeviceType) : deviceTypeFromJson deviceType.label = deviceType := by
  cases deviceType <;> decide

theorem powerSourceFromJson_label (powerSource : zhalPowerSource) :
    powerSourceFromJson powerSource.label = powerSource := by
  cases powerSource <;> decide

/-- The details of a device are read back without the attribute values. -/
theorem DiscoveredDevice.fromJson_toJson (device : DiscoveredDevice) :
    icDiscoveredDeviceDetailsFromJson json (some (icDiscoveredDeviceDetailsToJson device.details)) =
      .done device.details.withoutValues := by
  obtain ⟨_, _, _, _, _, _, _, _, eui64, manufacturer, model, hwVer, fwVer, appVer, type, power, endpoints⟩ :=
    field_names
  have whole : device.details.endpointDetails.take device.details.numEndpoints.toNat =
      device.details.endpointDetails := by rw [device.endpoints, List.take_length]
  have addressed : json.getCJSONString (icDiscoveredDeviceDetailsToJson device.details) "eui64" =
      some (zigbeeSubsystemEui64ToId device.details.eui64) := by
    apply json.string_item
    simp [icDiscoveredDeviceDetailsToJson]
  have manufactured : json.getCJSONString (icDiscoveredDeviceDetailsToJson device.details) "manufacturer" =
      some device.manufacturer := by
    apply json.string_item
    simp [icDiscoveredDeviceDetailsToJson, addString, device.manufactured, eui64, manufacturer]
  have modelled : json.getCJSONString (icDiscoveredDeviceDetailsToJson device.details) "model" =
      some device.model := by
    apply json.string_item
    simp [icDiscoveredDeviceDetailsToJson, addString, device.manufactured, device.modelled, eui64, manufacturer, model]
  have hardware : json.getCJSONDouble (icDiscoveredDeviceDetailsToJson device.details) "hwVer" =
      some ((toDouble device.details.hardwareVersion.toNat : Nat) : ℚ) := by
    apply json.double_item
    simp [icDiscoveredDeviceDetailsToJson, addString, addNumber, device.manufactured, device.modelled, eui64,
      manufacturer, model, hwVer]
  have firmware : json.getCJSONDouble (icDiscoveredDeviceDetailsToJson device.details) "fwVer" =
      some ((toDouble device.details.firmwareVersion.toNat : Nat) : ℚ) := by
    apply json.double_item
    simp [icDiscoveredDeviceDetailsToJson, addString, addNumber, device.manufactured, device.modelled, eui64,
      manufacturer, model, hwVer, fwVer]
  have app : json.getCJSONDouble (icDiscoveredDeviceDetailsToJson device.details) "appVer" =
      some ((toDouble device.details.appVersion.toNat : Nat) : ℚ) := by
    apply json.double_item
    simp [icDiscoveredDeviceDetailsToJson, addString, addNumber, device.manufactured, device.modelled, eui64,
      manufacturer, model, hwVer, fwVer, appVer]
  have typed : json.getCJSONString (icDiscoveredDeviceDetailsToJson device.details) "type" =
      some device.details.deviceType.label := by
    apply json.string_item
    simp [icDiscoveredDeviceDetailsToJson, addString, addNumber, device.manufactured, device.modelled, eui64,
      manufacturer, model, hwVer, fwVer, appVer, type]
  have powered : json.getCJSONString (icDiscoveredDeviceDetailsToJson device.details) "power" =
      some device.details.powerSource.label := by
    apply json.string_item
    simp [icDiscoveredDeviceDetailsToJson, addString, addNumber, device.manufactured, device.modelled, eui64,
      manufacturer, model, hwVer, fwVer, appVer, type, power]
  have listed : (icDiscoveredDeviceDetailsToJson device.details).getObjectItem "endpoints" =
      some (.array (device.details.endpointDetails.map icDiscoveredEndpointDetailsToJson)) := by
    simp [icDiscoveredDeviceDetailsToJson, addString, addNumber, device.manufactured, device.modelled, eui64,
      manufacturer, model, hwVer, fwVer, appVer, type, power, endpoints, whole]
  have filled := fill_array _ device.endpoints fun endpoint member =>
    endpointFromJson_toJson json (device.endpoint endpoint member)
  rw [icDiscoveredDeviceDetailsFromJson]
  simp only [Reading.ofItem, Reading.bind, addressed, manufactured, modelled, hardware, firmware, app, listed,
    arraySize_map _ device.endpoints, filled, typed, powered, zigbeeSubsystemIdToEui64_toId, deviceTypeFromJson_label,
    powerSourceFromJson_label, castUint64_toDouble device.hardware, castUint64_toDouble device.firmware,
    castUint64_toDouble device.app, IcDiscoveredDeviceDetails.withoutValues, device.manufactured, device.modelled]

end RoundTrip

section Conditions
variable (json : JsonHelpers)

/-- The fields of a cluster are there. -/
structure ClusterReads (item : Json) : Prop where
  id : (json.getCJSONInt item "id").isSome = true
  isServer : (json.getCJSONBool item "isServer").isSome = true
  attributeIds : (item.getObjectItem "attributeIds").isSome = true

/-- A cluster that is read has at most 255 attribute ids. -/
def ClusterWithin (item : Json) : Prop :=
  ∀ attributeIds, ClusterReads json item → item.getObjectItem "attributeIds" = some attributeIds →
    attributeIds.children.length ≤ 255

/-- No entry with an id is reached behind the entries that are counted. -/
def EntriesWithin (reads within : Json → Prop) (size : Nat) : Nat → List Json → Prop
  | _, [] => True
  | index, item :: rest =>
      if index < size then within item ∧ (reads item → EntriesWithin reads within size (index + 1) rest)
      else json.getCJSONInt item "id" = none

def ArrayWithin (reads within : Json → Prop) (item : Json) : Prop :=
  EntriesWithin json reads within (arraySize item).toNat 0 item.children

/-- The numbers of an endpoint are there. -/
structure EndpointNumbers (item : Json) : Prop where
  id : (json.getCJSONInt item "id").isSome = true
  profileId : (json.getCJSONInt item "profileId").isSome = true
  deviceId : (json.getCJSONInt item "deviceId").isSome = true
  deviceVer : (json.getCJSONInt item "deviceVer").isSome = true

/-- There is a list under this name, and all of its clusters are there. -/
def ClustersRead (item : Json) (name : String) : Prop :=
  ∃ clusters, item.getObjectItem name = some clusters ∧ ∀ cluster ∈ clusters.children, ClusterReads json cluster

def ClustersWithin (item : Json) (name : String) : Prop :=
  ∀ clusters, item.getObjectItem name = some clusters →
    ArrayWithin json (ClusterReads json) (ClusterWithin json) clusters

structure EndpointReads (item : Json) : Prop where
  numbers : EndpointNumbers json item
  servers : ClustersRead json item "serverClusterInfos"
  clients : ClustersRead json item "clientClusterInfos"

/-- The client clusters are reached behind the server clusters. -/
def EndpointWithin (item : Json) : Prop :=
  EndpointNumbers json item → ClustersWithin json item "serverClusterInfos" ∧
    (ClustersRead json item "serverClusterInfos" → ClustersWithin json item "clientClusterInfos")

/-- The strings and versions before the endpoints are there. -/
structure DeviceFields (item : Json) : Prop where
  eui64 : (json.getCJSONString item "eui64").isSome = true
  manufacturer : (json.getCJSONString item "manufacturer").isSome = true
  model : (json.getCJSONString item "model").isSome = true
  hwVer : (json.getCJSONDouble item "hwVer").isSome = true
  fwVer : (json.getCJSONDouble item "fwVer").isSome = true
  appVer : (json.getCJSONDouble item "appVer").isSome = true

/-- Every array that is reached has at most 255 entries, or an entry that cannot be read comes before the first entry
that is not counted. -/
def DocumentWithin (item : Json) : Prop :=
  DeviceFields json item → ∀ endpoints, item.getObjectItem "endpoints" = some endpoints →
    ArrayWithin json (EndpointReads json) (EndpointWithin json) endpoints

end Conditions

section Judgements

theorem Reading.done_ne {Value : Type} {value : Value} : Reading.done value ≠ .outside := fun same => by cases same

theorem Reading.failed_ne {Value : Type} : (Reading.failed : Reading Value) ≠ .outside := fun same => by cases same

/-- A decoder stays inside the arrays under one condition, and there it is done under another one. -/
structure Judged {Value : Type} (reading : Reading Value) (reads within : Prop) : Prop where
  inside : reading ≠ .outside ↔ within
  done : within → ((∃ value, reading = .done value) ↔ reads)

theorem Judged.of_done {Value : Type} (value : Value) : Judged (.done value) True True :=
  ⟨iff_of_true Reading.done_ne trivial, fun _ => iff_of_true ⟨value, rfl⟩ trivial⟩

theorem Judged.congr {Value : Type} {reading : Reading Value} {reads within reads' within' : Prop}
    (judged : Judged reading reads within) (same : reads ↔ reads') (same' : within ↔ within') :
    Judged reading reads' within' :=
  ⟨judged.inside.trans same', fun ok => (judged.done (same'.mpr ok)).trans same⟩

/-- A missing item is a failure. -/
theorem Judged.item {First Second : Type} (item : Option First) {next : First → Reading Second}
    {reads within : First → Prop} (judged : ∀ value, Judged (next value) (reads value) (within value)) :
    Judged ((Reading.ofItem item).bind next) (∃ value, item = some value ∧ reads value)
      (∀ value, item = some value → within value) := by
  cases item with
  | none =>
      have missing (value : First) : (none : Option First) ≠ some value := (Option.some_ne_none value).symm
      refine ⟨iff_of_true Reading.failed_ne fun value same => absurd same (missing value), fun _ => iff_of_false ?_ ?_⟩
      · rintro ⟨value, same⟩
        cases same
      · rintro ⟨value, same, _⟩
        exact missing value same
  | some value =>
      refine (judged value).congr ?_ ?_
      · simp
      · simp

/-- The second decoder follows if the first one is done. -/
theorem Judged.bind {First Second : Type} {reading : Reading First} {next : First → Reading Second}
    {reads within reads' within' : Prop} (first : Judged reading reads within)
    (second : ∀ value, Judged (next value) reads' within') :
    Judged (reading.bind next) (reads ∧ reads') (within ∧ (reads → within')) := by
  cases reading with
  | outside =>
      have beyond : ¬within := fun ok => first.inside.mpr ok rfl
      exact ⟨iff_of_false (fun other => other rfl) fun both => beyond both.1, fun both => absurd both.1 beyond⟩
  | failed =>
      have ok := first.inside.mp Reading.failed_ne
      have unread : ¬reads := fun good => by
        obtain ⟨value, same⟩ := (first.done ok).mpr good
        cases same
      refine ⟨iff_of_true Reading.failed_ne ⟨ok, fun good => absurd good unread⟩, fun _ => iff_of_false ?_ ?_⟩
      · rintro ⟨value, same⟩
        cases same
      · exact fun both => unread both.1
  | done value =>
      have ok := first.inside.mp Reading.done_ne
      have good := (first.done ok).mp ⟨value, rfl⟩
      refine (second value).congr ?_ ?_
      · rw [and_iff_right good]
      · rw [and_iff_right ok, forall_prop_of_true good]

theorem ofItem_bind_done {First Second : Type} {item : Option First} {next : First → Reading Second} {result : Second}
    (read : (Reading.ofItem item).bind next = .done result) :
    ∃ value, item = some value ∧ next value = .done result := by
  cases item with
  | none => cases read
  | some value => exact ⟨value, rfl, read⟩

theorem bind_done {First Second : Type} {reading : Reading First} {next : First → Reading Second} {result : Second}
    (read : reading.bind next = .done result) : ∃ value, reading = .done value ∧ next value = .done result := by
  cases reading with
  | done value => exact ⟨value, rfl, read⟩
  | failed => cases read
  | outside => cases read

end Judgements

section Fill
variable {Entry : Type} {fromJson : Bool → Json → Reading Entry} {reads within : Json → Prop} (json : JsonHelpers)

/-- A decoder of entries: what it reads inside its array, and that nothing is written outside of it without an id. -/
structure Decodes (fromJson : Bool → Json → Reading Entry) (reads within : Json → Prop) : Prop where
  inside : ∀ item, fromJson true item ≠ .outside ↔ within item
  done : ∀ item, within item → ((∃ entry, fromJson true item = .done entry) ↔ reads item)
  beyond : ∀ item, fromJson false item = if (json.getCJSONInt item "id").isSome then .outside else .failed
  named : ∀ item, reads item → (json.getCJSONInt item "id").isSome = true

/-- The entries are judged in order, up to the first one that cannot be read. -/
theorem fill_judged (decodes : Decodes json fromJson reads within) (size index : Nat) (items : List Json) :
    Judged (fill fromJson size index items) (∀ item ∈ items, reads item)
      (EntriesWithin json reads within size index items) := by
  induction items generalizing index with
  | nil => exact (Judged.of_done []).congr (by simp) Iff.rfl
  | cons item rest ih =>
      rw [EntriesWithin, fill]
      by_cases counted : index < size
      · rw [if_pos counted, decide_eq_true counted]
        have first : Judged (fromJson true item) (reads item) (within item) := ⟨decodes.inside item, decodes.done item⟩
        have both := first.bind fun entry => (ih (index + 1)).bind fun entries => Judged.of_done (entry :: entries)
        refine both.congr ?_ ?_
        · simp
        · simp
      · rw [if_neg counted, decide_eq_false counted, decodes.beyond]
        cases known : json.getCJSONInt item "id" with
        | none =>
            refine ⟨iff_of_true Reading.failed_ne rfl, fun _ => iff_of_false ?_ fun both => ?_⟩
            · rintro ⟨entries, same⟩
              cases same
            · have named := decodes.named item (both item List.mem_cons_self)
              rw [known] at named
              cases named
        | some id =>
            exact ⟨iff_of_false (fun other => other rfl) (Option.some_ne_none id),
              fun same => absurd same (Option.some_ne_none id)⟩

/-- The filled entries are counted. -/
theorem fill_done (stops : ∀ item entry, fromJson false item ≠ .done entry) {size index : Nat} {items : List Json}
    {entries : List Entry} (filled : fill fromJson size index items = .done entries) :
    entries.length = items.length ∧ (items = [] ∨ index + items.length ≤ size) ∧
      ∀ entry ∈ entries, ∃ item, fromJson true item = .done entry := by
  induction items generalizing index entries with
  | nil =>
      cases filled
      exact ⟨rfl, Or.inl rfl, fun entry member => absurd member List.not_mem_nil⟩
  | cons item rest ih =>
      obtain ⟨first, read, filled⟩ := bind_done filled
      obtain ⟨others, later, filled⟩ := bind_done filled
      cases filled
      have counted : index < size := by
        by_contra beyond
        rw [decide_eq_false beyond] at read
        exact stops item first read
      rw [decide_eq_true counted] at read
      obtain ⟨length, room, each⟩ := ih later
      refine ⟨?_, Or.inr ?_, ?_⟩
      · rw [List.length_cons, length, List.length_cons]
      · rw [List.length_cons]
        rcases room with rfl | room
        · exact counted
        · omega
      · rw [List.forall_mem_cons]
        exact ⟨⟨item, read⟩, each⟩

/-- An array that is read whole is as long as its count. -/
theorem arraySize_done (stops : ∀ item entry, fromJson false item ≠ .done entry) {item : Json} {entries : List Entry}
    (filled : fill fromJson (arraySize item).toNat 0 item.children = .done entries) :
    (arraySize item).toNat = entries.length ∧ entries.length ≤ 255 := by
  obtain ⟨length, room, _⟩ := fill_done stops filled
  have bound := (arraySize item).toNat_lt
  have wraps : (arraySize item).toNat ≤ item.children.length := by
    rw [arraySize, UInt8.toNat_ofNat']
    exact Nat.mod_le _ _
  rw [length]
  rcases room with empty | room
  · rw [empty] at wraps ⊢
    exact ⟨Nat.le_zero.mp wraps, by decide⟩
  · omega

end Fill

section Decoders
variable (json : JsonHelpers)

theorem attributeIds_fill (size index : Nat) (items : List Json) :
    Judged (fill (attributeIdFromJson json) size index items) True (items = [] ∨ index + items.length ≤ size) := by
  induction items generalizing index with
  | nil => exact (Judged.of_done []).congr Iff.rfl (iff_of_true trivial (Or.inl rfl))
  | cons item rest ih =>
      have first : Judged (attributeIdFromJson json (decide (index < size)) item) True (index < size) := by
        by_cases counted : index < size
        · rw [decide_eq_true counted]
          exact (Judged.of_done _).congr Iff.rfl (iff_of_true trivial counted)
        · rw [decide_eq_false counted]
          exact ⟨iff_of_false (fun other => other rfl) counted, fun inside => absurd inside counted⟩
      refine (first.bind fun id => (ih (index + 1)).bind fun ids => Judged.of_done (id :: ids)).congr ?_ ?_
      · simp
      · simp only [true_implies, and_true, reduceCtorEq, false_or, List.length_cons]
        constructor
        · rintro ⟨counted, rfl | room⟩
          · exact counted
          · omega
        · intro room
          exact ⟨by omega, Or.inr (by omega)⟩

theorem Decodes.array {Entry : Type} {fromJson : Bool → Json → Reading Entry} {reads within : Json → Prop}
    (decodes : Decodes json fromJson reads within) (item : Json) :
    Judged (fill fromJson (arraySize item).toNat 0 item.children) (∀ child ∈ item.children, reads child)
      (ArrayWithin json reads within item) :=
  fill_judged json decodes _ _ _

/-- The ids are written inside their array exactly if there are at most 255 of them. -/
theorem attributeIds_judged (item : Json) :
    Judged (fill (attributeIdFromJson json) (arraySize item).toNat 0 item.children) True
      (item.children.length ≤ 255) := by
  refine (attributeIds_fill json (arraySize item).toNat 0 item.children).congr Iff.rfl ?_
  have size : (arraySize item).toNat = item.children.length % 2 ^ 8 := UInt8.toNat_ofNat'
  constructor
  · rintro (empty | room)
    · rw [empty]
      decide
    · omega
  · intro few
    exact Or.inr (by omega)

theorem cluster_judged (item : Json) :
    Judged (icDiscoveredClusterDetailsFromJson json true item) (ClusterReads json item) (ClusterWithin json item) := by
  have chain := Judged.item (json.getCJSONInt item "id") fun clusterId =>
    Judged.item (json.getCJSONBool item "isServer") fun isServer =>
    Judged.item (item.getObjectItem "attributeIds") fun attributeIds =>
    (attributeIds_judged json attributeIds).bind fun ids =>
    Judged.of_done (IcDiscoveredClusterDetails.mk (narrow16 clusterId) isServer ids none
      (arraySize attributeIds).toUInt16)
  refine Judged.congr chain ?_ ?_
  · constructor
    · rintro ⟨id, named, isServer, flagged, attributeIds, listed, _⟩
      exact ⟨Option.isSome_of_eq_some named, Option.isSome_of_eq_some flagged, Option.isSome_of_eq_some listed⟩
    · rintro ⟨named, flagged, listed⟩
      obtain ⟨id, named⟩ := Option.isSome_iff_exists.mp named
      obtain ⟨isServer, flagged⟩ := Option.isSome_iff_exists.mp flagged
      obtain ⟨attributeIds, listed⟩ := Option.isSome_iff_exists.mp listed
      exact ⟨id, named, isServer, flagged, attributeIds, listed, trivial, trivial⟩
  · constructor
    · rintro each attributeIds ⟨named, flagged, _⟩ listed
      obtain ⟨id, named⟩ := Option.isSome_iff_exists.mp named
      obtain ⟨isServer, flagged⟩ := Option.isSome_iff_exists.mp flagged
      exact (each id named isServer flagged attributeIds listed).1
    · intro few id named isServer flagged attributeIds listed
      refine ⟨few attributeIds ?_ listed, fun _ => trivial⟩
      exact ⟨Option.isSome_of_eq_some named, Option.isSome_of_eq_some flagged, Option.isSome_of_eq_some listed⟩

theorem cluster_decodes :
    Decodes json (icDiscoveredClusterDetailsFromJson json) (ClusterReads json) (ClusterWithin json) where
  inside item := (cluster_judged json item).inside
  done item := (cluster_judged json item).done
  beyond item := by
    rw [icDiscoveredClusterDetailsFromJson]
    cases json.getCJSONInt item "id" <;> rfl
  named item reads := reads.id

/-- The lists of clusters are read behind the numbers of the endpoint. -/
theorem endpoint_judged (item : Json) :
    Judged (icDiscoveredEndpointDetailsFromJson json true item) (EndpointReads json item)
      (EndpointWithin json item) := by
  have clusters := (cluster_decodes json).array
  have chain := Judged.item (json.getCJSONInt item "id") fun endpointId =>
    Judged.item (json.getCJSONInt item "profileId") fun profileId =>
    Judged.item (json.getCJSONInt item "deviceId") fun deviceId =>
    Judged.item (json.getCJSONInt item "deviceVer") fun deviceVer =>
    Judged.item (item.getObjectItem "serverClusterInfos") fun servers =>
    (clusters servers).bind fun serverClusterDetails =>
    Judged.item (item.getObjectItem "clientClusterInfos") fun clients =>
    (clusters clients).bind fun clientClusterDetails =>
    Judged.of_done (IcDiscoveredEndpointDetails.mk (narrow8 endpointId) (narrow16 profileId) (narrow16 deviceId)
      (narrow8 deviceVer) serverClusterDetails (arraySize servers) clientClusterDetails (arraySize clients))
  refine Judged.congr chain ?_ ?_
  · constructor
    · rintro ⟨id, one, profileId, two, deviceId, three, deviceVer, four, servers, served, read, clients, called, read',
        _⟩
      exact ⟨⟨Option.isSome_of_eq_some one, Option.isSome_of_eq_some two, Option.isSome_of_eq_some three,
        Option.isSome_of_eq_some four⟩, ⟨servers, served, read⟩, clients, called, read'⟩
    · rintro ⟨⟨one, two, three, four⟩, ⟨servers, served, read⟩, clients, called, read'⟩
      obtain ⟨id, one⟩ := Option.isSome_iff_exists.mp one
      obtain ⟨profileId, two⟩ := Option.isSome_iff_exists.mp two
      obtain ⟨deviceId, three⟩ := Option.isSome_iff_exists.mp three
      obtain ⟨deviceVer, four⟩ := Option.isSome_iff_exists.mp four
      exact ⟨id, one, profileId, two, deviceId, three, deviceVer, four, servers, served, read, clients, called, read',
        trivial⟩
  · constructor
    · rintro each ⟨one, two, three, four⟩
      obtain ⟨id, one⟩ := Option.isSome_iff_exists.mp one
      obtain ⟨profileId, two⟩ := Option.isSome_iff_exists.mp two
      obtain ⟨deviceId, three⟩ := Option.isSome_iff_exists.mp three
      obtain ⟨deviceVer, four⟩ := Option.isSome_iff_exists.mp four
      have rest := each id one profileId two deviceId three deviceVer four
      refine ⟨fun servers served => (rest servers served).1, ?_⟩
      rintro ⟨servers, served, read⟩ clients called
      exact ((rest servers served).2 read clients called).1
    · intro both id one profileId two deviceId three deviceVer four servers served
      obtain ⟨first, second⟩ := both ⟨Option.isSome_of_eq_some one, Option.isSome_of_eq_some two,
        Option.isSome_of_eq_some three, Option.isSome_of_eq_some four⟩
      exact ⟨first servers served, fun read clients called =>
        ⟨second ⟨servers, served, read⟩ clients called, fun _ => trivial⟩⟩

theorem endpoint_decodes :
    Decodes json (icDiscoveredEndpointDetailsFromJson json) (EndpointReads json) (EndpointWithin json) where
  inside item := (endpoint_judged json item).inside
  done item := (endpoint_judged json item).done
  beyond item := by
    rw [icDiscoveredEndpointDetailsFromJson]
    cases json.getCJSONInt item "id" <;> rfl
  named item reads := reads.numbers.id

end Decoders

section Documents
variable (json : JsonHelpers)

theorem cluster_stops (item : Json) (details : IcDiscoveredClusterDetails) :
    icDiscoveredClusterDetailsFromJson json false item ≠ .done details := by
  rw [(cluster_decodes json).beyond]
  split <;> exact fun same => by cases same

theorem endpoint_stops (item : Json) (details : IcDiscoveredEndpointDetails) :
    icDiscoveredEndpointDetailsFromJson json false item ≠ .done details := by
  rw [(endpoint_decodes json).beyond]
  split <;> exact fun same => by cases same

theorem cluster_counted {item : Json} {details : IcDiscoveredClusterDetails}
    (read : icDiscoveredClusterDetailsFromJson json true item = .done details) : details.Counted := by
  obtain ⟨clusterId, _, read⟩ := ofItem_bind_done read
  obtain ⟨_, _, read⟩ := bind_done read
  obtain ⟨isServer, _, read⟩ := ofItem_bind_done read
  obtain ⟨attributeIds, _, read⟩ := ofItem_bind_done read
  obtain ⟨ids, filled, read⟩ := bind_done read
  cases read
  obtain ⟨count, few⟩ := arraySize_done (fun item entry same => by cases same) filled
  exact ⟨(UInt8.toNat_toUInt16 _).trans count, few⟩

theorem endpoint_counted {item : Json} {details : IcDiscoveredEndpointDetails}
    (read : icDiscoveredEndpointDetailsFromJson json true item = .done details) : details.Counted := by
  obtain ⟨endpointId, _, read⟩ := ofItem_bind_done read
  obtain ⟨_, _, read⟩ := bind_done read
  obtain ⟨profileId, _, read⟩ := ofItem_bind_done read
  obtain ⟨deviceId, _, read⟩ := ofItem_bind_done read
  obtain ⟨deviceVer, _, read⟩ := ofItem_bind_done read
  obtain ⟨servers, _, read⟩ := ofItem_bind_done read
  obtain ⟨serverClusterDetails, served, read⟩ := bind_done read
  obtain ⟨clients, _, read⟩ := ofItem_bind_done read
  obtain ⟨clientClusterDetails, called, read⟩ := bind_done read
  cases read
  have stops := cluster_stops json
  refine ⟨(arraySize_done stops served).1, (arraySize_done stops called).1, ?_, ?_⟩
  · intro cluster member
    obtain ⟨item, read⟩ := (fill_done stops served).2.2 cluster member
    exact cluster_counted json read
  · intro cluster member
    obtain ⟨item, read⟩ := (fill_done stops called).2.2 cluster member
    exact cluster_counted json read

/-- The counts are the lengths of the arrays. -/
structure IcDiscoveredDeviceDetails.Counted (details : IcDiscoveredDeviceDetails) : Prop where
  endpoints : details.numEndpoints.toNat = details.endpointDetails.length
  endpoint : ∀ endpoint ∈ details.endpointDetails, endpoint.Counted

theorem device_counted {item : Option Json} {details : IcDiscoveredDeviceDetails}
    (read : icDiscoveredDeviceDetailsFromJson json item = .done details) : details.Counted := by
  obtain ⟨detailsJson, _, read⟩ := ofItem_bind_done read
  obtain ⟨eui64Str, _, read⟩ := ofItem_bind_done read
  obtain ⟨manufacturer, _, read⟩ := ofItem_bind_done read
  obtain ⟨model, _, read⟩ := ofItem_bind_done read
  obtain ⟨hardwareVersion, _, read⟩ := ofItem_bind_done read
  obtain ⟨firmwareVersion, _, read⟩ := ofItem_bind_done read
  obtain ⟨appVersion, _, read⟩ := ofItem_bind_done read
  obtain ⟨endpoints, _, read⟩ := ofItem_bind_done read
  obtain ⟨endpointDetails, filled, read⟩ := bind_done read
  obtain ⟨deviceType, _, read⟩ := ofItem_bind_done read
  obtain ⟨powerSource, _, read⟩ := ofItem_bind_done read
  cases read
  have stops := endpoint_stops json
  refine ⟨(arraySize_done stops filled).1, fun endpoint member => ?_⟩
  obtain ⟨item, read⟩ := (fill_done stops filled).2.2 endpoint member
  exact endpoint_counted json read

/-- The result is NULL or counted details, and nothing is written outside an array. -/
def ReadsWithin (detailsJson : Option Json) : Prop :=
  icDiscoveredDeviceDetailsFromJson json detailsJson = .failed ∨
    ∃ details, icDiscoveredDeviceDetailsFromJson json detailsJson = .done details ∧ details.Counted

theorem document_inside (item : Json) :
    icDiscoveredDeviceDetailsFromJson json (some item) ≠ .outside ↔ DocumentWithin json item := by
  have chain := Judged.item (json.getCJSONString item "eui64") fun eui64Str =>
    Judged.item (json.getCJSONString item "manufacturer") fun manufacturer =>
    Judged.item (json.getCJSONString item "model") fun model =>
    Judged.item (json.getCJSONDouble item "hwVer") fun hardwareVersion =>
    Judged.item (json.getCJSONDouble item "fwVer") fun firmwareVersion =>
    Judged.item (json.getCJSONDouble item "appVer") fun appVersion =>
    Judged.item (item.getObjectItem "endpoints") fun endpoints =>
    ((endpoint_decodes json).array json endpoints).bind fun endpointDetails =>
    Judged.item (json.getCJSONString item "type") fun deviceType =>
    Judged.item (json.getCJSONString item "power") fun powerSource =>
    Judged.of_done (IcDiscoveredDeviceDetails.mk (zigbeeSubsystemIdToEui64 eui64Str) (some manufacturer) (some model)
      (castUint64 hardwareVersion) (castUint64 firmwareVersion) (castUint64 appVersion) (arraySize endpoints)
      endpointDetails (deviceTypeFromJson deviceType) (powerSourceFromJson powerSource))
  refine chain.inside.trans ?_
  constructor
  · rintro each ⟨one, two, three, four, five, six⟩ endpoints listed
    obtain ⟨eui64, one⟩ := Option.isSome_iff_exists.mp one
    obtain ⟨manufacturer, two⟩ := Option.isSome_iff_exists.mp two
    obtain ⟨model, three⟩ := Option.isSome_iff_exists.mp three
    obtain ⟨hwVer, four⟩ := Option.isSome_iff_exists.mp four
    obtain ⟨fwVer, five⟩ := Option.isSome_iff_exists.mp five
    obtain ⟨appVer, six⟩ := Option.isSome_iff_exists.mp six
    exact (each eui64 one manufacturer two model three hwVer four fwVer five appVer six endpoints listed).1
  · intro within eui64 one manufacturer two model three hwVer four fwVer five appVer six endpoints listed
    refine ⟨within ?_ endpoints listed, fun _ _ _ _ _ => trivial⟩
    exact ⟨Option.isSome_of_eq_some one, Option.isSome_of_eq_some two, Option.isSome_of_eq_some three,
      Option.isSome_of_eq_some four, Option.isSome_of_eq_some five, Option.isSome_of_eq_some six⟩

theorem readsWithin_iff (detailsJson : Option Json) :
    ReadsWithin json detailsJson ↔ ∀ item, detailsJson = some item → DocumentWithin json item := by
  have whole : ReadsWithin json detailsJson ↔ icDiscoveredDeviceDetailsFromJson json detailsJson ≠ .outside := by
    rw [ReadsWithin]
    cases read : icDiscoveredDeviceDetailsFromJson json detailsJson with
    | done details => exact iff_of_true (Or.inr ⟨details, rfl, device_counted json read⟩) Reading.done_ne
    | failed => exact iff_of_true (Or.inl rfl) Reading.failed_ne
    | outside =>
        refine iff_of_false ?_ fun other => other rfl
        rintro (same | ⟨details, same, _⟩) <;> cases same
  rw [whole]
  cases detailsJson with
  | none => exact iff_of_true Reading.failed_ne fun item same => absurd same.symm (Option.some_ne_none item)
  | some item =>
      rw [document_inside]
      simp

/-- The details of every discovered device are read back, and a document is read within the arrays exactly if no entry
that is not counted is reached. -/
theorem deviceDetails_iff :
    (∀ device : DiscoveredDevice,
      icDiscoveredDeviceDetailsFromJson json (some (icDiscoveredDeviceDetailsToJson device.details)) =
        .done device.details.withoutValues) ∧
    ∀ detailsJson, ReadsWithin json detailsJson ↔ ∀ item, detailsJson = some item → DocumentWithin json item :=
  ⟨fun device => device.fromJson_toJson json, readsWithin_iff json⟩

end Documents

section Counterexample

/-- These helpers read the items of their type, and no others. -/
def plainHelpers : JsonHelpers where
  getCJSONString json name := match json.getObjectItem name with
    | some (.string value) => some value
    | _ => none
  getCJSONBool json name := match json.getObjectItem name with
    | some (.bool value) => some value
    | _ => none
  getCJSONInt json name := match json.getObjectItem name with
    | some (.number value) => some (Int32.ofInt value.num)
    | _ => none
  getCJSONDouble json name := match json.getObjectItem name with
    | some (.number value) => some value
    | _ => none
  valueint json := match json with
    | .number value => Int32.ofInt value.num
    | _ => 0
  string_item json name value item := by rw [item]
  bool_item json name value item := by rw [item]
  int_item json name value item := by
    rw [item]
    dsimp only
    rw [Rat.num_intCast, Int32.ofInt_toInt]
  double_item json name value item := by rw [item]
  valueint_number value := by
    dsimp only
    rw [Rat.num_intCast, Int32.ofInt_toInt]

/-- This light has one endpoint with the attributes of its on/off cluster. -/
def discoveredLight : DiscoveredDevice where
  details :=
    { eui64 := 0x000d6f000c25c831
      manufacturer := some "m"
      model := some "x"
      hardwareVersion := 1
      firmwareVersion := 0x100
      appVersion := 2
      numEndpoints := 1
      endpointDetails := [{
        endpointId := 1
        appProfileId := 0x104
        appDeviceId := 0x100
        appDeviceVersion := 1
        serverClusterDetails := [⟨6, true, [0, 0x4003], some [⟨0x10, 1, [1]⟩, ⟨0x30, 1, [255]⟩], 2⟩]
        numServerClusterDetails := 1
        clientClusterDetails := []
        numClientClusterDetails := 0 }]
      deviceType := .deviceTypeRouter
      powerSource := .powerSourceMains }
  manufacturer := "m"
  manufactured := rfl
  model := "x"
  modelled := rfl
  hardware := by decide
  firmware := by decide
  app := by decide
  endpoints := rfl
  endpoint := by
    intro endpoint member
    rw [List.mem_singleton.mp member]
    refine ⟨rfl, rfl, ?_, ?_⟩
    · intro cluster inside
      rw [List.mem_singleton.mp inside]
      exact ⟨rfl, by decide⟩
    · intro cluster inside
      cases inside

/-- The details of the light are read back without the values of its attributes. -/
theorem deviceDetails_iff_light :
    icDiscoveredDeviceDetailsFromJson plainHelpers (some (icDiscoveredDeviceDetailsToJson discoveredLight.details)) =
        .done discoveredLight.details.withoutValues ∧
      discoveredLight.details.withoutValues ≠ discoveredLight.details :=
  ⟨(deviceDetails_iff plainHelpers).1 discoveredLight, by decide⟩

/-- This document lists one endpoint 256 times. -/
def crowdedDocument : Json :=
  .object [("eui64", .string "000d6f000c25c831"), ("manufacturer", .string "m"), ("model", .string "x"),
    ("hwVer", .number 1), ("fwVer", .number 1), ("appVer", .number 1), ("type", .string "end"),
    ("power", .string "batt"), ("endpoints", .array (List.replicate 256 (.object [("id", .number 1)])))]

theorem not_deviceDetails :
    ¬ ∀ json : JsonHelpers,
      (∀ device : DiscoveredDevice,
        icDiscoveredDeviceDetailsFromJson json (some (icDiscoveredDeviceDetailsToJson device.details)) =
          .done device.details.withoutValues) ∧
      ∀ detailsJson, ReadsWithin json detailsJson := by
  intro always
  have read : icDiscoveredDeviceDetailsFromJson plainHelpers (some crowdedDocument) = .outside := by decide +kernel
  rcases (always plainHelpers).2 (some crowdedDocument) with failed | ⟨details, done, _⟩
  · rw [read] at failed
    cases failed
  · rw [read] at done
    cases done

end Counterexample
end Barton.DeviceDetails
