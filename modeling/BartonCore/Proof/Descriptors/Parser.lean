import BartonCore.Construction.Descriptors.Parser
import BartonCore.Proof.Descriptors.Versions

namespace Barton.Descriptors
open Strtol

section Reading
variable (helper : XmlHelper) (utils : StringUtils)

/-- The category after a child. -/
def nextCategory (category : CategoryType) (child : Node) : CategoryType :=
  if child.name = some "category" then ((helper.contents child).map (categoryOf category)).getD category
  else category

/-- These are the elements up to the one that ends the loop. -/
def handledChildren (category : CategoryType) : List Node → List Node
  | [] => []
  | child :: rest =>
      if !child.isElement then handledChildren category rest
      else if breaksAt helper utils category child then [child]
      else child :: handledChildren (nextCategory helper category child) rest

/-- The last child of a name decides. -/
def lastOf (name : String) (children : List Node) : Option Node :=
  (children.filter fun child => child.name = some name).getLast?

/-- These texts of an element are used without a check. -/
def Filled (type : DeviceDescriptorType) (child : Node) : Prop :=
  (type = .zigbee ∧ (child.name = some "hardwareVersions" ∨ child.name = some "firmwareVersions") →
    (helper.contents child).isSome) ∧
  (child.name = some "category" → (helper.contents child).isSome) ∧
  (child.name = some "latestFirmware" → ∀ part ∈ child.children, part.name ≠ none ∧
    (part.name = some "type" ∨ part.name = some "postUpgradeAction" → (helper.contents part).isSome))

/-- The part of a descriptor that the search uses. -/
structure Reading where
  uuid : Option Text
  manufacturer : Option Text
  model : Option Text
  hardwareVersions : Option DeviceVersionList
  firmwareVersions : Option DeviceVersionList
  deriving DecidableEq

def DeviceDescriptor.reading (dd : DeviceDescriptor) : Reading :=
  ⟨dd.uuid, dd.manufacturer, dd.model, dd.hardwareVersions, dd.firmwareVersions⟩

def readingOf (type : DeviceDescriptorType) (children : List Node) : Reading where
  uuid := (lastOf "uuid" children).bind helper.contents
  manufacturer := (lastOf "manufacturer" children).bind helper.contents
  model := (lastOf "model" children).bind helper.contents
  hardwareVersions := (lastOf "hardwareVersions" children).bind (parseVersions helper utils type true)
  firmwareVersions := (lastOf "firmwareVersions" children).bind (parseVersions helper utils type false)

/-- The category Matter needs a valid `matter` node. -/
def isRefused (children : List Node) : Bool :=
  children.foldl (nextCategory helper) .unknown = .matter &&
    ((lastOf "matter" children).bind (parseMatterTechnologyNode helper utils)).isNone

/-- The elements of a descriptor that are handled. -/
def elementsOf (node : Node) : List Node := handledChildren helper utils .unknown node.children

/-- A node describes a device when it has the name of a descriptor and is not refused. -/
def readNode (node : Node) : Option Reading :=
  (descriptorType node).bind fun type =>
    if isRefused helper utils (elementsOf helper utils node) then none
    else some (readingOf helper utils type (elementsOf helper utils node))

/-- Each text that a descriptor uses without a check is there. -/
def NodeFilled (node : Node) : Prop :=
  ∀ type, descriptorType node = some type → ∀ child ∈ elementsOf helper utils node, Filled helper type child

end Reading

section Children
variable {helper : XmlHelper} {utils : StringUtils} {dd next final : DeviceDescriptor} {child : Node}

theorem lastOf_cons (name : String) (child : Node) (rest : List Node) : lastOf name (child :: rest) =
    (lastOf name rest).or (if child.name = some name then some child else none) := by
  unfold lastOf
  by_cases named : child.name = some name
  · rw [List.filter_cons_of_pos (by simpa using named), List.getLast?_cons, if_pos named]
    cases (rest.filter fun child => child.name = some name).getLast? <;> rfl
  · rw [List.filter_cons_of_neg (by simpa using named), if_neg named, Option.or_none]

/-- A round for a part of the firmware fails when it uses an absent text. -/
theorem parseLatestFirmwareChild_isSome (firmware : DeviceFirmware) (part : Node) :
    (parseLatestFirmwareChild helper utils firmware part).isSome ↔ part.name ≠ none ∧
      (part.name = some "type" ∨ part.name = some "postUpgradeAction" → (helper.contents part).isSome) := by
  unfold parseLatestFirmwareChild
  cases part.name with
  | none => simp
  | some name =>
      by_cases version : name = "version"
      · simp [version]
      · by_cases fileName : name = "filename"
        · simp [fileName]
        · by_cases type : name = "type"
          · simp [type]
          · by_cases postUpgradeAction : name = "postUpgradeAction"
            · simp [postUpgradeAction]
            · simp [version, fileName, type, postUpgradeAction]

theorem foldlM_isSome {State Item : Type} {step : State → Item → Option State} {good : Item → Prop}
    (total : ∀ state item, (step state item).isSome ↔ good item) (items : List Item) (state : State) :
    (items.foldlM step state).isSome ↔ ∀ item ∈ items, good item := by
  induction items generalizing state with
  | nil => simp
  | cons item rest hypothesis =>
      rw [List.foldlM_cons, List.forall_mem_cons, ← total state item]
      cases step state item with
      | none => simp
      | some after =>
          show (rest.foldlM step after).isSome ↔ _
          rw [hypothesis after]
          simp

theorem parseLatestFirmware_isSome (type : DeviceDescriptorType) (node : Node) :
    (parseLatestFirmware helper utils type node).isSome ↔ ∀ part ∈ node.children, part.name ≠ none ∧
      (part.name = some "type" ∨ part.name = some "postUpgradeAction" → (helper.contents part).isSome) :=
  foldlM_isSome parseLatestFirmwareChild_isSome _ _

/-- A round of the loop fails when it uses an absent text. -/
theorem parseDescriptorChild_isSome (dd : DeviceDescriptor) (child : Node) :
    (parseDescriptorChild helper utils dd child).isSome ↔ Filled helper dd.deviceDescriptorType child := by
  have versions (forceDecimal : Bool) :
      (parseVersions helper utils dd.deviceDescriptorType forceDecimal child).isSome ↔
        (dd.deviceDescriptorType = .zigbee → (helper.contents child).isSome) := by
    unfold parseVersions
    cases dd.deviceDescriptorType <;> simp
  unfold parseDescriptorChild Filled
  split <;> simp_all [parseLatestFirmware_isSome]

/-- This is what a round of the loop changes of the part that the search uses. -/
structure ChildStep (helper : XmlHelper) (utils : StringUtils) (dd : DeviceDescriptor) (child : Node)
    (next : DeviceDescriptor) : Prop where
  type : next.deviceDescriptorType = dd.deviceDescriptorType
  category : next.category = nextCategory helper dd.category child
  uuid : next.uuid = if child.name = some "uuid" then helper.contents child else dd.uuid
  manufacturer : next.manufacturer =
    if child.name = some "manufacturer" then helper.contents child else dd.manufacturer
  model : next.model = if child.name = some "model" then helper.contents child else dd.model
  hardwareVersions : next.hardwareVersions = if child.name = some "hardwareVersions" then
    parseVersions helper utils dd.deviceDescriptorType true child else dd.hardwareVersions
  firmwareVersions : next.firmwareVersions = if child.name = some "firmwareVersions" then
    parseVersions helper utils dd.deviceDescriptorType false child else dd.firmwareVersions
  matter : next.matter = if child.name = some "matter" then parseMatterTechnologyNode helper utils child
    else dd.matter

theorem parseDescriptorChild_step (parsed : parseDescriptorChild helper utils dd child = some next) :
    ChildStep helper utils dd child next := by
  unfold parseDescriptorChild at parsed
  split at parsed
  all_goals
    first
    | obtain rfl := Option.some.inj parsed
      constructor <;> simp_all [nextCategory]
    | obtain ⟨value, known, rfl⟩ := Option.map_eq_some_iff.mp parsed
      constructor <;> simp_all [nextCategory]

/-- The loop handles its elements one after another. -/
theorem parseDescriptorChildren_eq (dd : DeviceDescriptor) (children : List Node) :
    parseDescriptorChildren helper utils dd children =
      (handledChildren helper utils dd.category children).foldlM (parseDescriptorChild helper utils) dd := by
  induction children generalizing dd with
  | nil => rfl
  | cons child rest hypothesis =>
      unfold parseDescriptorChildren handledChildren
      by_cases skipped : (!child.isElement) = true
      · rw [if_pos skipped, if_pos skipped]
        exact hypothesis dd
      · rw [if_neg skipped, if_neg skipped]
        by_cases breaks : breaksAt helper utils dd.category child = true
        · rw [if_pos breaks, if_pos breaks, List.foldlM_cons]
          cases parseDescriptorChild helper utils dd child <;> rfl
        · rw [if_neg breaks, if_neg breaks, List.foldlM_cons]
          cases parsed : parseDescriptorChild helper utils dd child with
          | none => rfl
          | some next =>
              show parseDescriptorChildren helper utils next rest = _
              rw [hypothesis next, (parseDescriptorChild_step parsed).category]
              rfl

/-- The type of the descriptor stays as it is. -/
theorem foldlM_parseDescriptorChild_type (children : List Node) (dd : DeviceDescriptor)
    (parsed : children.foldlM (parseDescriptorChild helper utils) dd = some final) :
    final.deviceDescriptorType = dd.deviceDescriptorType ∧
      final.category = children.foldl (nextCategory helper) dd.category := by
  induction children generalizing dd with
  | nil =>
      obtain rfl := Option.some.inj parsed
      exact ⟨rfl, rfl⟩
  | cons child rest hypothesis =>
      obtain ⟨next, first, others⟩ := Option.bind_eq_some_iff.mp parsed
      have step := parseDescriptorChild_step first
      obtain ⟨type, category⟩ := hypothesis next others
      rw [step.type] at type
      rw [step.category] at category
      exact ⟨type, category⟩

/-- The loop fails when a round uses an absent text. -/
theorem foldlM_parseDescriptorChild_isSome (children : List Node) (dd : DeviceDescriptor) :
    (children.foldlM (parseDescriptorChild helper utils) dd).isSome ↔
      ∀ child ∈ children, Filled helper dd.deviceDescriptorType child := by
  induction children generalizing dd with
  | nil => simp
  | cons child rest hypothesis =>
      rw [List.foldlM_cons, List.forall_mem_cons, ← @parseDescriptorChild_isSome helper utils dd child]
      cases parsed : parseDescriptorChild helper utils dd child with
      | none => simp
      | some next =>
          show (rest.foldlM (parseDescriptorChild helper utils) next).isSome ↔ _
          rw [hypothesis next, (parseDescriptorChild_step parsed).type]
          simp

/-- A field that only the children of one name set has the value of the last one. -/
theorem foldlM_parseDescriptorChild_field {Value : Type} (field : DeviceDescriptor → Option Value) (name : String)
    (type : DeviceDescriptorType) (read : Node → Option Value)
    (sets : ∀ dd child next, ChildStep helper utils dd child next → dd.deviceDescriptorType = type →
      field next = if child.name = some name then read child else field dd) (children : List Node)
    (dd : DeviceDescriptor) (typed : dd.deviceDescriptorType = type)
    (parsed : children.foldlM (parseDescriptorChild helper utils) dd = some final) :
    field final = (lastOf name children).elim (field dd) read := by
  induction children generalizing dd with
  | nil =>
      obtain rfl := Option.some.inj parsed
      rfl
  | cons child rest hypothesis =>
      obtain ⟨next, first, others⟩ := Option.bind_eq_some_iff.mp parsed
      have step := parseDescriptorChild_step first
      rw [hypothesis next (step.type.trans typed) others, sets dd child next step typed, lastOf_cons]
      cases lastOf name rest with
      | some last => rfl
      | none =>
          show (if child.name = some name then read child else field dd) = _
          by_cases named : child.name = some name
          · rw [if_pos named, if_pos named]
            rfl
          · rw [if_neg named, if_neg named]
            rfl

end Children

section Documents
variable {helper : XmlHelper} {utils : StringUtils}

/-- A node is parsed when each text that it uses without a check is there. -/
theorem parseDescriptorNode_isSome (node : Node) :
    (parseDescriptorNode helper utils node).isSome ↔ NodeFilled helper utils node := by
  unfold parseDescriptorNode NodeFilled
  cases descriptorType node with
  | none => simp
  | some type =>
      unfold parseDescriptorBase
      rw [Option.isSome_map, Option.isSome_map, parseDescriptorChildren_eq, foldlM_parseDescriptorChild_isSome]
      constructor
      · intro filled other same
        obtain rfl := Option.some.inj same
        exact filled
      · intro filled
        exact filled type rfl

/-- The part that the search uses is read off the elements that are handled. -/
theorem parseDescriptorChildren_reading {type : DeviceDescriptorType} {children : List Node}
    (parsed : parseDescriptorChildren helper utils (.new type) children = some final) :
    let elements := handledChildren helper utils .unknown children
    final.reading = readingOf helper utils type elements ∧
      (final.category = .matter && final.matter.isNone) = isRefused helper utils elements := by
  have bind {Value : Type} (last : Option Node) (read : Node → Option Value) : last.elim none read = last.bind read := by
    cases last <;> rfl
  rw [parseDescriptorChildren_eq] at parsed
  have category := (foldlM_parseDescriptorChild_type _ _ parsed).2
  have uuid := foldlM_parseDescriptorChild_field DeviceDescriptor.uuid "uuid" type helper.contents
    (fun _ _ _ step _ => step.uuid) _ _ rfl parsed
  have manufacturer := foldlM_parseDescriptorChild_field DeviceDescriptor.manufacturer "manufacturer" type
    helper.contents (fun _ _ _ step _ => step.manufacturer) _ _ rfl parsed
  have model := foldlM_parseDescriptorChild_field DeviceDescriptor.model "model" type helper.contents
    (fun _ _ _ step _ => step.model) _ _ rfl parsed
  have matter := foldlM_parseDescriptorChild_field DeviceDescriptor.matter "matter" type
    (parseMatterTechnologyNode helper utils) (fun _ _ _ step _ => step.matter) _ _ rfl parsed
  have hardwareVersions := foldlM_parseDescriptorChild_field DeviceDescriptor.hardwareVersions
    "hardwareVersions" type (parseVersions helper utils type true)
    (fun _ _ _ step typed => typed ▸ step.hardwareVersions) _ _ rfl parsed
  have firmwareVersions := foldlM_parseDescriptorChild_field DeviceDescriptor.firmwareVersions
    "firmwareVersions" type (parseVersions helper utils type false)
    (fun _ _ _ step typed => typed ▸ step.firmwareVersions) _ _ rfl parsed
  constructor
  · unfold DeviceDescriptor.reading readingOf
    rw [uuid, manufacturer, model, hardwareVersions, firmwareVersions]
    simp only [DeviceDescriptor.new, bind]
  · unfold isRefused
    rw [category, matter, ← bind]
    rfl

/-- What is parsed is what the node describes. -/
theorem parseDescriptorNode_reading {node : Node} {parsed : Option DeviceDescriptor}
    (complete : parseDescriptorNode helper utils node = some parsed) :
    parsed.map DeviceDescriptor.reading = readNode helper utils node := by
  unfold parseDescriptorNode at complete
  unfold readNode
  cases typed : descriptorType node with
  | none =>
      rw [typed] at complete
      obtain rfl := Option.some.inj complete
      rfl
  | some type =>
      rw [typed] at complete
      unfold parseDescriptorBase at complete
      dsimp only at complete
      rw [Option.map_map, Option.map_eq_some_iff] at complete
      obtain ⟨dd, children, rfl⟩ := complete
      obtain ⟨reading, refused⟩ := parseDescriptorChildren_reading children
      rw [Function.comp_apply, Option.bind_some]
      dsimp only
      rw [Bool.not_not, refused]
      unfold elementsOf
      by_cases isRefused : isRefused helper utils (handledChildren helper utils .unknown node.children) = true
      · rw [if_pos isRefused, if_pos isRefused]
        rfl
      · rw [if_neg isRefused, if_neg isRefused, ← reading]
        cases type <;> rfl

end Documents

section Law
variable (helper : XmlHelper) (utils : StringUtils)

def isUuidNode (node : Node) : Bool := node.isElement && node.name = some "uuid"

/-- These are the uuids of a denylist. -/
def denylistTexts (denylist : List Node) : List Text := (denylist.filter isUuidNode).filterMap helper.contents

/-- A split text is known by its first part. -/
def firstTexts (denylist : List Node) : List Text :=
  (denylist.filter isUuidNode).filterMap fun node => node.children.head?.bind Node.content

def Reading.isKept (uuids : List Text) (reading : Reading) : Bool := !reading.uuid.any uuids.contains

/-- A descriptor answers a query that has its manufacturer, its model and versions that it allows. -/
def Reading.answers (manufacturer model : Text) (hardwareVersion firmwareVersion : Option Text)
    (reading : Reading) : Bool :=
  reading.manufacturer = some manufacturer && reading.model = some model &&
    versionAllowed utils hardwareVersion reading.hardwareVersions &&
    versionAllowed utils firmwareVersion reading.firmwareVersions

/-- These are the descriptors of the lists in the order of the document. -/
def keptReadings (allowlist : List Node) (denylist : Option (List Node)) : List Reading :=
  (allowlist.filterMap (readNode helper utils)).filter (Reading.isKept (firstTexts (denylist.getD [])))

/-- No absent string is used, each kept descriptor can be matched, and the search returns the first one that answers,
which the denylist does not contain. -/
def Respects (allowlist : List Node) (denylist : Option (List Node)) : Prop :=
  ∃ kept, parseDeviceDescriptors helper utils ⟨some allowlist, denylist⟩ = some (some kept) ∧
    (∀ dd ∈ kept, dd.uuid ≠ none ∧ dd.manufacturer ≠ none ∧ dd.model ≠ none) ∧
    (kept.map DeviceDescriptor.reading).Sublist (allowlist.filterMap (readNode helper utils)) ∧
    ∀ loaded, loaded = none ∨ loaded = some kept → ∀ manufacturer model hardwareVersion firmwareVersion,
      ∃ found, deviceDescriptorsGet helper utils ⟨some allowlist, denylist⟩ loaded
          ⟨some manufacturer, some model, hardwareVersion, firmwareVersion⟩ = some (found, some kept) ∧
        found = kept.find? (fun dd =>
          dd.reading.answers utils manufacturer model hardwareVersion firmwareVersion) ∧
        ∀ dd ∈ found, ∀ uuid ∈ dd.uuid, uuid ∉ denylistTexts helper (denylist.getD [])

/-- The texts that the parser and the search need are there, and a descriptor that is kept though its uuid is on the
denylist is behind others that answer the same queries. -/
structure Regular (allowlist : List Node) (denylist : Option (List Node)) : Prop where
  nodes : ∀ node ∈ allowlist, NodeFilled helper utils node
  firsts : ∀ node ∈ denylist.getD [], isUuidNode node = true → ∀ first ∈ node.children.head?, first.content ≠ none
  uuids : ∀ reading ∈ allowlist.filterMap (readNode helper utils), reading.uuid ≠ none
  names : ∀ reading ∈ keptReadings helper utils allowlist denylist,
    reading.manufacturer ≠ none ∧ reading.model ≠ none
  hidden : ∀ before reading after, keptReadings helper utils allowlist denylist = before ++ reading :: after →
    (∃ uuid ∈ reading.uuid, uuid ∈ denylistTexts helper (denylist.getD [])) →
    ∀ manufacturer model hardwareVersion firmwareVersion,
      reading.answers utils manufacturer model hardwareVersion firmwareVersion = true →
      ∃ earlier ∈ before, earlier.answers utils manufacturer model hardwareVersion firmwareVersion = true

end Law

section Lists
variable {helper : XmlHelper} {utils : StringUtils}

theorem getDenylistedUuids_cons (node : Node) (rest : List Node) : getDenylistedUuids (node :: rest) =
    if isUuidNode node = true then
      match node.children with
      | [] => getDenylistedUuids rest
      | first :: _ => first.content.bind fun uuid => (getDenylistedUuids rest).map fun uuids => uuid :: uuids
    else getDenylistedUuids rest := rfl

theorem getDenylistedUuids_isSome (denylist : List Node) : (getDenylistedUuids denylist).isSome ↔
    ∀ node ∈ denylist, isUuidNode node = true → ∀ first ∈ node.children.head?, first.content ≠ none := by
  induction denylist with
  | nil => simp [getDenylistedUuids]
  | cons node rest hypothesis =>
      rw [List.forall_mem_cons, ← hypothesis]
      rw [getDenylistedUuids_cons]
      by_cases named : isUuidNode node = true
      · rw [if_pos named]
        cases node.children with
        | nil => simp
        | cons first others =>
            cases content : first.content with
            | none => simp [named, content]
            | some uuid => simp [content]
      · rw [if_neg named]
        simp [named]

theorem getDenylistedUuids_eq {denylist : List Node} {uuids : List Text}
    (complete : getDenylistedUuids denylist = some uuids) : uuids = firstTexts denylist := by
  induction denylist generalizing uuids with
  | nil =>
      obtain rfl := Option.some.inj complete
      rfl
  | cons node rest hypothesis =>
      rw [getDenylistedUuids_cons] at complete
      unfold firstTexts
      by_cases named : isUuidNode node = true
      · rw [List.filter_cons_of_pos named]
        rw [if_pos named] at complete
        cases children : node.children with
        | nil =>
            rw [children] at complete
            rw [List.filterMap_cons_none (by rw [children]; rfl)]
            exact hypothesis complete
        | cons first others =>
            rw [children] at complete
            obtain ⟨uuid, content, others⟩ := Option.bind_eq_some_iff.mp complete
            obtain ⟨tail, rest, rfl⟩ := Option.map_eq_some_iff.mp others
            rw [List.filterMap_cons_some (by rw [children]; exact content), hypothesis rest]
            rfl
      · rw [List.filter_cons_of_neg named]
        rw [if_neg named] at complete
        exact hypothesis complete

/-- A missing denylist contains nothing. -/
theorem isDenylisted_eq {uuids : Option (List Text)} {dd : DeviceDescriptor} {denylisted : Bool}
    (complete : isDenylisted uuids dd = some denylisted) : dd.reading.isKept (uuids.getD []) = !denylisted := by
  unfold isDenylisted at complete
  unfold Reading.isKept DeviceDescriptor.reading
  cases uuids with
  | none =>
      obtain rfl := Option.some.inj complete
      cases dd.uuid <;> rfl
  | some uuids =>
      obtain ⟨uuid, present, rfl⟩ := Option.map_eq_some_iff.mp complete
      rw [present]
      exact congrArg (fun listed => !listed) (List.contains_eq_mem uuid uuids)

/-- The kept descriptors are those of the document in its order, without the denylisted ones. -/
theorem keepDescriptors_eq {uuids : Option (List Text)} {allowlist : List Node} {kept : List DeviceDescriptor}
    (complete : keepDescriptors helper utils uuids allowlist = some kept) :
    kept.map DeviceDescriptor.reading =
      (allowlist.filterMap (readNode helper utils)).filter (Reading.isKept (uuids.getD [])) := by
  induction allowlist generalizing kept with
  | nil =>
      obtain rfl := Option.some.inj complete
      rfl
  | cons node rest hypothesis =>
      obtain ⟨parsed, first, others⟩ := Option.bind_eq_some_iff.mp complete
      have reading := parseDescriptorNode_reading first
      cases parsed with
      | none =>
          rw [List.filterMap_cons_none reading.symm]
          exact hypothesis others
      | some dd =>
          obtain ⟨denylisted, looked, others⟩ := Option.bind_eq_some_iff.mp others
          obtain ⟨tail, rest, rfl⟩ := Option.map_eq_some_iff.mp others
          have isKept := isDenylisted_eq looked
          rw [List.filterMap_cons_some reading.symm]
          cases denylisted with
          | true =>
              rw [List.filter_cons_of_neg (by rw [isKept]; decide)]
              exact hypothesis rest
          | false =>
              rw [List.filter_cons_of_pos (by rw [isKept]; decide), ← hypothesis rest]
              rfl

/-- The loop fails when it uses an absent text of a node or, with a denylist, an absent uuid. -/
theorem keepDescriptors_isSome (uuids : Option (List Text)) (allowlist : List Node) :
    (keepDescriptors helper utils uuids allowlist).isSome ↔ (∀ node ∈ allowlist, NodeFilled helper utils node) ∧
      (uuids ≠ none → ∀ reading ∈ allowlist.filterMap (readNode helper utils), reading.uuid ≠ none) := by
  induction allowlist with
  | nil => simp [keepDescriptors]
  | cons node rest hypothesis =>
      rw [List.forall_mem_cons, ← parseDescriptorNode_isSome, keepDescriptors]
      cases first : parseDescriptorNode helper utils node with
      | none => simp
      | some parsed =>
          have reading := parseDescriptorNode_reading first
          rw [Option.bind_some]
          cases parsed with
          | none =>
              rw [List.filterMap_cons_none reading.symm]
              simpa using hypothesis
          | some dd =>
              rw [List.filterMap_cons_some reading.symm, List.forall_mem_cons]
              unfold isDenylisted
              cases uuids with
              | none => simpa using hypothesis
              | some uuids =>
                  show ((dd.uuid.map _).bind _).isSome ↔ _ ∧ (_ → dd.uuid ≠ none ∧ _)
                  cases dd.uuid with
                  | none => simp
                  | some uuid => simpa using hypothesis

theorem parseDeviceDescriptors_isSome (allowlist : List Node) (denylist : Option (List Node)) :
    (parseDeviceDescriptors helper utils ⟨some allowlist, denylist⟩).isSome ↔
      (∀ node ∈ denylist.getD [], isUuidNode node = true → ∀ first ∈ node.children.head?, first.content ≠ none) ∧
      (∀ node ∈ allowlist, NodeFilled helper utils node) ∧
      (denylist ≠ none → ∀ reading ∈ allowlist.filterMap (readNode helper utils), reading.uuid ≠ none) := by
  unfold parseDeviceDescriptors
  cases denylist with
  | none =>
      show (Option.map _ _).isSome ↔ _
      rw [Option.isSome_map, keepDescriptors_isSome]
      simp
  | some denylist =>
      show ((getDenylistedUuids denylist).bind _).isSome ↔ _
      rw [Option.getD_some, ← getDenylistedUuids_isSome]
      cases getDenylistedUuids denylist with
      | none => simp
      | some uuids =>
          rw [Option.bind_some, Option.isSome_map, keepDescriptors_isSome]
          simp

theorem parseDeviceDescriptors_eq {allowlist : List Node} {denylist : Option (List Node)}
    {parsed : Option (List DeviceDescriptor)}
    (complete : parseDeviceDescriptors helper utils ⟨some allowlist, denylist⟩ = some parsed) :
    ∃ kept, parsed = some kept ∧
      kept.map DeviceDescriptor.reading = keptReadings helper utils allowlist denylist := by
  unfold parseDeviceDescriptors at complete
  cases denylist with
  | none =>
      obtain ⟨kept, list, rfl⟩ := Option.map_eq_some_iff.mp complete
      exact ⟨kept, rfl, keepDescriptors_eq list⟩
  | some denylist =>
      obtain ⟨uuids, denylisted, others⟩ := Option.bind_eq_some_iff.mp complete
      obtain ⟨kept, list, rfl⟩ := Option.map_eq_some_iff.mp others
      obtain rfl := getDenylistedUuids_eq denylisted
      exact ⟨kept, rfl, keepDescriptors_eq list⟩

/-- The search over descriptors with their names finds the first one that answers. -/
theorem findDescriptor_eq (manufacturer model : Text) (hardwareVersion firmwareVersion : Option Text)
    (kept : List DeviceDescriptor) (names : ∀ dd ∈ kept, dd.manufacturer ≠ none ∧ dd.model ≠ none) :
    findDescriptor utils manufacturer model ⟨some manufacturer, some model, hardwareVersion, firmwareVersion⟩ kept =
      some (kept.find? fun dd => dd.reading.answers utils manufacturer model hardwareVersion firmwareVersion) := by
  induction kept with
  | nil => rfl
  | cons dd rest hypothesis =>
      have others := hypothesis fun other member => names other (List.mem_cons_of_mem _ member)
      obtain ⟨hasManufacturer, hasModel⟩ := names dd List.mem_cons_self
      obtain ⟨other, manufacturerOf⟩ := Option.ne_none_iff_exists'.mp hasManufacturer
      obtain ⟨otherModel, modelOf⟩ := Option.ne_none_iff_exists'.mp hasModel
      rw [findDescriptor, manufacturerOf]
      dsimp only
      by_cases sameManufacturer : manufacturer = other
      · rw [if_neg (not_not.mpr sameManufacturer), modelOf]
        dsimp only
        by_cases sameModel : model = otherModel
        · rw [if_neg (not_not.mpr sameModel)]
          have answers : dd.reading.answers utils manufacturer model hardwareVersion firmwareVersion =
              (versionAllowed utils hardwareVersion dd.hardwareVersions &&
                versionAllowed utils firmwareVersion dd.firmwareVersions) := by
            simp [Reading.answers, DeviceDescriptor.reading, manufacturerOf, modelOf, sameManufacturer, sameModel]
          by_cases allowed : (versionAllowed utils hardwareVersion dd.hardwareVersions &&
              versionAllowed utils firmwareVersion dd.firmwareVersions) = true
          · rw [if_pos allowed, List.find?_cons_of_pos]
            exact answers.trans allowed
          · rw [if_neg allowed, others, List.find?_cons_of_neg]
            rw [answers]
            exact allowed
        · rw [if_pos sameModel, others, List.find?_cons_of_neg]
          simp [Reading.answers, DeviceDescriptor.reading, modelOf, Ne.symm sameModel]
      · rw [if_pos sameManufacturer, others, List.find?_cons_of_neg]
        simp [Reading.answers, DeviceDescriptor.reading, manufacturerOf, Ne.symm sameManufacturer]

/-- The search uses the loaded descriptors, or it parses the lists. -/
theorem deviceDescriptorsGet_eq {documents : Documents} {kept : List DeviceDescriptor}
    (parsed : parseDeviceDescriptors helper utils documents = some (some kept))
    (names : ∀ dd ∈ kept, dd.manufacturer ≠ none ∧ dd.model ≠ none) {loaded : Option (List DeviceDescriptor)}
    (current : loaded = none ∨ loaded = some kept) (manufacturer model : Text)
    (hardwareVersion firmwareVersion : Option Text) :
    deviceDescriptorsGet helper utils documents loaded
        ⟨some manufacturer, some model, hardwareVersion, firmwareVersion⟩ =
      some (kept.find? fun dd => dd.reading.answers utils manufacturer model hardwareVersion firmwareVersion,
        some kept) := by
  have found := @findDescriptor_eq utils manufacturer model hardwareVersion firmwareVersion kept names
  rcases current with rfl | rfl
  · show ((parseDeviceDescriptors helper utils documents).bind _) = _
    rw [parsed]
    show (findDescriptor utils manufacturer model _ kept).map _ = _
    rw [found]
    rfl
  · show (findDescriptor utils manufacturer model _ kept).map _ = _
    rw [found]
    rfl

end Lists

section Respects
variable {helper : XmlHelper} {utils : StringUtils} {allowlist : List Node} {denylist : Option (List Node)}

/-- A descriptor on the denylist is never found when others before it answer the same queries. -/
theorem Regular.not_denylisted (regular : Regular helper utils allowlist denylist) {manufacturer model : Text}
    {hardwareVersion firmwareVersion : Option Text} {reading : Reading}
    (found : (keptReadings helper utils allowlist denylist).find?
      (Reading.answers utils manufacturer model hardwareVersion firmwareVersion) = some reading) :
    ∀ uuid ∈ reading.uuid, uuid ∉ denylistTexts helper (denylist.getD []) := by
  intro uuid named listed
  obtain ⟨answers, before, after, position, silent⟩ := List.find?_eq_some_iff_append.mp found
  obtain ⟨earlier, member, sooner⟩ := regular.hidden before reading after position ⟨uuid, named, listed⟩ manufacturer
    model hardwareVersion firmwareVersion answers
  have contrary := silent earlier member
  rw [sooner] at contrary
  exact absurd contrary (by decide)

theorem Regular.respects (regular : Regular helper utils allowlist denylist) :
    Respects helper utils allowlist denylist := by
  have total := (parseDeviceDescriptors_isSome allowlist denylist).mpr ⟨regular.firsts, regular.nodes, fun _ => regular.uuids⟩
  obtain ⟨parsed, complete⟩ := Option.isSome_iff_exists.mp total
  obtain ⟨kept, rfl, readings⟩ := parseDeviceDescriptors_eq complete
  have listed (dd : DeviceDescriptor) (member : dd ∈ kept) :
      dd.reading ∈ keptReadings helper utils allowlist denylist :=
    readings ▸ List.mem_map_of_mem member
  have names (dd : DeviceDescriptor) (member : dd ∈ kept) : dd.manufacturer ≠ none ∧ dd.model ≠ none :=
    regular.names dd.reading (listed dd member)
  refine ⟨kept, complete, ?_, ?_, ?_⟩
  · intro dd member
    exact ⟨regular.uuids dd.reading (List.mem_of_mem_filter (listed dd member)), names dd member⟩
  · rw [readings]
    exact List.filter_sublist
  · intro loaded current manufacturer model hardwareVersion firmwareVersion
    refine ⟨_, deviceDescriptorsGet_eq complete names current manufacturer model hardwareVersion firmwareVersion,
      rfl, ?_⟩
    intro dd found
    have first : (keptReadings helper utils allowlist denylist).find?
        (Reading.answers utils manufacturer model hardwareVersion firmwareVersion) = some dd.reading := by
      rw [← readings, List.find?_map]
      exact congrArg (Option.map DeviceDescriptor.reading) found
    exact regular.not_denylisted first

theorem Respects.regular (respects : Respects helper utils allowlist denylist) :
    Regular helper utils allowlist denylist := by
  obtain ⟨kept, complete, fields, _, search⟩ := respects
  obtain ⟨_, same, readings⟩ := parseDeviceDescriptors_eq complete
  obtain rfl := Option.some.inj same
  obtain ⟨firsts, nodes, uuids⟩ := (parseDeviceDescriptors_isSome allowlist denylist).mp (Option.isSome_of_eq_some complete)
  have present (reading : Reading) (member : reading ∈ keptReadings helper utils allowlist denylist) :
      reading.uuid ≠ none ∧ reading.manufacturer ≠ none ∧ reading.model ≠ none := by
    rw [← readings] at member
    obtain ⟨dd, kept, rfl⟩ := List.mem_map.mp member
    exact fields dd kept
  constructor
  · exact nodes
  · exact firsts
  · intro reading member
    cases denylist with
    | some denylist => exact uuids nofun reading member
    | none =>
        intro absent
        have stays : reading.isKept [] = true := by
          unfold Reading.isKept
          rw [absent]
          rfl
        exact (present reading (List.mem_filter.mpr ⟨member, stays⟩)).1 absent
  · exact fun reading member => (present reading member).2
  · rintro before reading after position ⟨uuid, named, listed⟩ manufacturer model hardwareVersion firmwareVersion
      answers
    by_contra silent
    have first : (keptReadings helper utils allowlist denylist).find?
        (Reading.answers utils manufacturer model hardwareVersion firmwareVersion) = some reading := by
      rw [List.find?_eq_some_iff_append]
      refine ⟨answers, before, after, position, ?_⟩
      intro earlier member
      rw [Bool.not_eq_true', Bool.eq_false_iff]
      exact fun sooner => silent ⟨earlier, member, sooner⟩
    rw [← readings, List.find?_map, Option.map_eq_some_iff] at first
    obtain ⟨dd, found, rfl⟩ := first
    obtain ⟨_, _, rfl, absent⟩ := search none (Or.inl rfl) manufacturer model hardwareVersion firmwareVersion
    exact absent dd found uuid named listed

/-- The lists are respected exactly when the texts that are used are there and a denylisted descriptor that is kept is
behind others that answer the same queries. -/
theorem respects_iff (helper : XmlHelper) (utils : StringUtils) (allowlist : List Node)
    (denylist : Option (List Node)) :
    Respects helper utils allowlist denylist ↔ Regular helper utils allowlist denylist :=
  ⟨Respects.regular, Regular.respects⟩

end Respects

section Examples

def textOf : Node → Option Text
  | .other (some "text") content => content
  | _ => none

/-- The contents of an element are its texts. -/
def textHelper : XmlHelper where
  contents := fun node =>
    let text := (node.children.filterMap textOf).flatten
    if text = [] then none else some text
  attributeOf := fun node name => match node with
    | .element _ attributes _ => (attributes.find? fun entry => entry.1 = name).map Prod.snd
    | .other _ _ => none
  contentsAsBoolean := fun node default_ => match node.children.filterMap textOf with
    | [] => default_
    | text :: _ => text = "true".toList
  hexStringToUint16 := fun text => if text = "1234".toList then some 0x1234 else none
  contents_empty := fun _ _ => rfl

def text (value : String) : Node := .other (some "text") (some value.toList)

def leaf (name value : String) : Node := .element name [] [text value]

def anyVersion : List Node := [leaf "hardwareVersions" "*", leaf "firmwareVersions" "*"]

def sensor : Node :=
  .element "DeviceDescriptor" [] ([leaf "uuid" "sensor-1", leaf "manufacturer" "acme", leaf "model" "s1"] ++ anyVersion)

/-- The denylist names another sensor. -/
theorem respects_iff_sensor : Respects textHelper asciiUtils [sensor] (some [leaf "uuid" "sensor-2"]) := by
  have kept : keptReadings textHelper asciiUtils [sensor] (some [leaf "uuid" "sensor-2"]) =
      [⟨some "sensor-1".toList, some "acme".toList, some "s1".toList, some ⟨.wildcard, none, none⟩,
        some ⟨.wildcard, none, none⟩⟩] := by decide +kernel
  have complete : (parseDeviceDescriptors textHelper asciiUtils
      ⟨some [sensor], some [leaf "uuid" "sensor-2"]⟩).isSome = true := by decide +kernel
  obtain ⟨firsts, nodes, uuids⟩ := (parseDeviceDescriptors_isSome _ _).mp complete
  refine (respects_iff textHelper asciiUtils _ _).mpr ⟨nodes, firsts, uuids (Option.some_ne_none _), ?_, ?_⟩
  · rw [kept]
    decide +kernel
  · intro before reading after same listed
    have member : reading ∈ before ++ reading :: after := List.mem_append_right _ List.mem_cons_self
    rw [← same, kept, List.mem_singleton] at member
    subst member
    exact absurd listed (by decide +kernel)

/-- The category is empty. -/
def uncategorized : Node := .element "DeviceDescriptor" [] [leaf "uuid" "sensor-2", .element "category" [] []]

/-- The manufacturer and the model are missing. -/
def nameless : Node := .element "DeviceDescriptor" [] [leaf "uuid" "sensor-3"]

/-- The uuid is split by a comment. -/
def splitUuid : Node :=
  .element "uuid" [] [text "sensor", .other (some "comment") (some "the old one".toList), text "-1"]

/-- An empty category is used, a descriptor without a name is kept, and a split uuid is not found. -/
theorem not_respects : ¬ Respects textHelper asciiUtils [uncategorized] none ∧
    ¬ Respects textHelper asciiUtils [nameless] (some []) ∧
    ¬ Respects textHelper asciiUtils [sensor] (some [splitUuid]) := by
  refine ⟨?_, ?_, ?_⟩
  · rintro ⟨kept, complete, _⟩
    have fails : (parseDeviceDescriptors textHelper asciiUtils ⟨some [uncategorized], none⟩).isSome = false := by
      decide +kernel
    rw [complete] at fails
    exact absurd fails nofun
  · intro respects
    have kept : keptReadings textHelper asciiUtils [nameless] (some []) =
        [⟨some "sensor-3".toList, none, none, none, none⟩] := by decide +kernel
    exact (respects.regular.names _ (kept ▸ List.mem_cons_self)).1 rfl
  · intro respects
    have kept : keptReadings textHelper asciiUtils [sensor] (some [splitUuid]) =
        [] ++ [⟨some "sensor-1".toList, some "acme".toList, some "s1".toList, some ⟨.wildcard, none, none⟩,
          some ⟨.wildcard, none, none⟩⟩] := by decide +kernel
    obtain ⟨earlier, member, _⟩ := respects.regular.hidden [] _ [] kept
      ⟨"sensor-1".toList, rfl, by decide +kernel⟩ "acme".toList "s1".toList (some "1".toList) (some "1".toList)
      (by decide +kernel)
    exact absurd member List.not_mem_nil

end Examples
end Barton.Descriptors
