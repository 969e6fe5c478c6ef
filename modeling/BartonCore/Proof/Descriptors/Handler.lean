import BartonCore.Construction.Descriptors.Handler
import BartonCore.ToMathlib.Runs

namespace Barton.DescriptorHandler

section Origin

/-- What was last downloaded from a URL for a file and accepted by the validator. -/
abbrev Accepted : Type := DescriptorFile → String → Option Content

/-- An execution of a task downloads only when the file needs updating. -/
def accept (checksum : Checksum) (store : Store) (file : DescriptorFile) (url : String) (attempt : Attempt)
    (accepted : Accepted) : Accepted :=
  match attempt.download with
  | some content =>
      if attempt.path && fileNeedsUpdating checksum store file url && content ≠ [] && attempt.valid then
        Function.update accepted file (Function.update (accepted file) url (some content))
      else accepted
  | none => accepted

/-- Whenever no update is needed, the file is what was last downloaded from the URL and accepted. -/
def Consistent (checksum : Checksum) (store : Store) (accepted : Accepted) : Prop :=
  ∀ file url, fileNeedsUpdating checksum store file url = false →
    ∃ content, store.files file = some content ∧ accepted file url = some content

variable {checksum : Checksum} {store : Store} {file : DescriptorFile} {url : String} {attempt : Attempt}

theorem fileNeedsUpdating_eq_false : fileNeedsUpdating checksum store file url = false ↔
    ∃ currentMd5 content, store.systemProperties file.urlSystemKey = some url ∧
      store.systemProperties file.md5SystemKey = some currentMd5 ∧ store.files file = some content ∧
      equalIgnoringCase currentMd5 (checksum.md5HexString content) = true := by
  unfold fileNeedsUpdating
  cases store.systemProperties file.urlSystemKey with
  | none => simp
  | some currentUrl =>
      cases store.systemProperties file.md5SystemKey with
      | none => simp
      | some currentMd5 =>
          cases store.files file with
          | none | some => simp

/-- The answer depends on the two properties and on the file. -/
theorem fileNeedsUpdating_congr {other : Store}
    (sameUrl : other.systemProperties file.urlSystemKey = store.systemProperties file.urlSystemKey)
    (sameMd5 : other.systemProperties file.md5SystemKey = store.systemProperties file.md5SystemKey)
    (sameFile : other.files file = store.files file) :
    fileNeedsUpdating checksum other file url = fileNeedsUpdating checksum store file url := by
  unfold fileNeedsUpdating
  rw [sameUrl, sameMd5, sameFile]

/-- The keys of the properties are different. -/
theorem systemKeys_ne (file other : DescriptorFile) (different : file ≠ other) :
    other.urlSystemKey ≠ file.urlSystemKey ∧ other.urlSystemKey ≠ file.md5SystemKey ∧
      other.md5SystemKey ≠ file.urlSystemKey ∧ other.md5SystemKey ≠ file.md5SystemKey := by
  cases file <;> cases other <;> first | exact absurd rfl different | decide

theorem urlSystemKey_ne_md5SystemKey (file : DescriptorFile) : file.urlSystemKey ≠ file.md5SystemKey := by
  cases file <;> decide

/-- A write sets the property or deletes it, and it leaves the other properties and the files alone. -/
theorem setSystemProperty_spec (store : Store) (name : String) (value : Option String) (outcome : PropertyWrite) :
    let next := (setSystemProperty store name value outcome).2
    (next.systemProperties name = none ∨ next.systemProperties name = value) ∧
      (∀ other, other ≠ name → next.systemProperties other = store.systemProperties other) ∧
      next.files = store.files := by
  refine ⟨?_, fun other different => Function.update_of_ne different _ _, rfl⟩
  cases outcome with
  | notPut => exact Or.inl (Function.update_self ..)
  | notSaved | saved => exact Or.inr (Function.update_self ..)

/-- The two writes for a file concern its two properties only. -/
theorem setOrigin_spec (store : Store) (file : DescriptorFile) (url md5 : Option String)
    (urlWrite md5Write : PropertyWrite) :
    let next := (setSystemProperty (setSystemProperty store file.urlSystemKey url urlWrite).2
      file.md5SystemKey md5 md5Write).2
    (next.systemProperties file.urlSystemKey = none ∨ next.systemProperties file.urlSystemKey = url) ∧
      (next.systemProperties file.md5SystemKey = none ∨ next.systemProperties file.md5SystemKey = md5) ∧
      (∀ other, file ≠ other → next.systemProperties other.urlSystemKey = store.systemProperties other.urlSystemKey ∧
        next.systemProperties other.md5SystemKey = store.systemProperties other.md5SystemKey) ∧
      next.files = store.files := by
  obtain ⟨first, keepsFirst, _⟩ := setSystemProperty_spec store file.urlSystemKey url urlWrite
  obtain ⟨second, keepsSecond, _⟩ :=
    setSystemProperty_spec (setSystemProperty store file.urlSystemKey url urlWrite).2 file.md5SystemKey md5 md5Write
  refine ⟨?_, second, ?_, rfl⟩
  · rw [keepsSecond _ (urlSystemKey_ne_md5SystemKey file)]
    exact first
  · intro other different
    obtain ⟨urls, urlMd5, md5Url, md5s⟩ := systemKeys_ne file other different
    exact ⟨(keepsSecond _ urlMd5).trans (keepsFirst _ urls), (keepsSecond _ md5s).trans (keepsFirst _ md5Url)⟩

/-- An execution fails or finds the file current, and the store is as it was, or it puts what it downloaded into place
and records the origin. -/
theorem updateFile_cases (checksum : Checksum) (store : Store) (file : DescriptorFile) (url : String)
    (attempt : Attempt) :
    ((updateFile checksum store file url attempt).1 ≠ .updated ∧
      (updateFile checksum store file url attempt).2 = store) ∨
    ∃ content, (updateFile checksum store file url attempt).1 = .updated ∧ attempt.path = true ∧
      fileNeedsUpdating checksum store file url = true ∧ attempt.download = some content ∧ content ≠ [] ∧
      attempt.valid = true ∧ (updateFile checksum store file url attempt).2 =
        recordOrigin checksum { store with files := Function.update store.files file (some content) } file url attempt := by
  unfold updateFile
  cases path : attempt.path with
  | false => exact Or.inl ⟨nofun, rfl⟩
  | true =>
      cases needs : fileNeedsUpdating checksum store file url with
      | false => exact Or.inl ⟨nofun, rfl⟩
      | true =>
          unfold downloadFile
          cases download : attempt.download with
          | none => exact Or.inl ⟨nofun, rfl⟩
          | some content =>
              by_cases moved : (content ≠ [] && attempt.valid && attempt.renamed) = true
              · right
                simp only [Bool.and_eq_true, decide_eq_true_eq] at moved
                refine ⟨content, ?_, rfl, rfl, rfl, moved.1.1, moved.1.2, ?_⟩
                · simp [moved.1.1, moved.1.2, moved.2]
                · simp [moved.1.1, moved.1.2, moved.2]
              · left
                rw [Bool.not_eq_true] at moved
                simp only [moved]
                exact ⟨nofun, rfl⟩

/-- An accepted download changes what is expected of its URL only, and that URL needs an update. -/
theorem accept_of_current {accepted : Accepted} {other : DescriptorFile} {otherUrl : String}
    (current : fileNeedsUpdating checksum store other otherUrl = false) :
    accept checksum store file url attempt accepted other otherUrl = accepted other otherUrl := by
  unfold accept
  cases attempt.download with
  | none => rfl
  | some content =>
      dsimp only
      split
      · rename_i taken
        by_cases same : other = file
        · subst same
          rw [Function.update_self]
          by_cases equal : otherUrl = url
          · subst equal
            simp [current] at taken
          · rw [Function.update_of_ne equal]
        · rw [Function.update_of_ne same]
      · rfl

theorem Consistent.update {accepted : Accepted} (consistent : Consistent checksum store accepted) :
    Consistent checksum (updateFile checksum store file url attempt).2
      (accept checksum store file url attempt accepted) := by
  rcases updateFile_cases checksum store file url attempt with
    ⟨_, same⟩ | ⟨content, _, path, needs, download, present, valid, recorded⟩
  · rw [same]
    intro other otherUrl current
    rw [accept_of_current current]
    exact consistent other otherUrl current
  · have accepts : accept checksum store file url attempt accepted =
        Function.update accepted file (Function.update (accepted file) url (some content)) := by
      unfold accept
      rw [download]
      simp [path, needs, present, valid]
    obtain ⟨urls, _, others, files⟩ := setOrigin_spec
      { store with files := Function.update store.files file (some content) } file (some url)
      ((Function.update store.files file (some content) file).map checksum.md5HexString)
      attempt.urlWrite attempt.md5Write
    rw [recorded, accepts]
    intro other otherUrl current
    by_cases same : other = file
    · subst same
      obtain ⟨_, _, recordedUrl, _, _, _⟩ := fileNeedsUpdating_eq_false.mp current
      have equal : url = otherUrl := by
        rcases urls with none | some
        · exact absurd (none.symm.trans recordedUrl) nofun
        · exact Option.some.inj (some.symm.trans recordedUrl)
      refine ⟨content, ?_, ?_⟩
      · exact (congrFun files other).trans (Function.update_self ..)
      · rw [Function.update_self, equal, Function.update_self]
    · have unchanged := others other (Ne.symm same)
      have still : Function.update store.files file (some content) other = store.files other :=
        Function.update_of_ne same _ _
      have before : fileNeedsUpdating checksum store other otherUrl = false :=
        (@fileNeedsUpdating_congr checksum store other otherUrl _ unchanged.1 unchanged.2
          ((congrFun files other).trans still)).symm.trans current
      obtain ⟨old, inFile, isAccepted⟩ := consistent other otherUrl before
      refine ⟨old, (congrFun files other).trans (still.trans inFile), ?_⟩
      rw [Function.update_of_ne same]
      exact isAccepted

/-- The empty text is no checksum. -/
theorem not_equalIgnoringCase_empty (content : Content) :
    equalIgnoringCase "" (checksum.md5HexString content) ≠ true := by
  intro same
  have texts : Descriptors.stringToLowerCase "".toList =
      Descriptors.stringToLowerCase (checksum.md5HexString content).toList := of_decide_eq_true same
  have lengths := congrArg List.length texts
  rw [Descriptors.stringToLowerCase, Descriptors.stringToLowerCase, List.length_map, List.length_map,
    String.length_toList, String.length_toList, checksum.length] at lengths
  exact absurd lengths (by decide)

theorem Consistent.unset {accepted : Accepted} (consistent : Consistent checksum store accepted) (unset : Unset) :
    Consistent checksum (unsetDenylist store unset) accepted := by
  unfold unsetDenylist
  split
  · obtain ⟨_, md5s, others, files⟩ := setOrigin_spec
      (if unset.unlinked then { store with files := Function.update store.files .denylist none } else store)
      .denylist (some "") (some "") unset.urlWrite unset.md5Write
    intro other url current
    cases other with
    | denylist =>
        obtain ⟨currentMd5, content, _, recorded, _, same⟩ := fileNeedsUpdating_eq_false.mp current
        rcases md5s with none | empty
        · exact absurd (none.symm.trans recorded) nofun
        · have equal : "" = currentMd5 := Option.some.inj (empty.symm.trans recorded)
          rw [← equal] at same
          exact absurd same (not_equalIgnoringCase_empty content)
    | allowlist =>
        obtain ⟨sameUrl, sameMd5⟩ := others .allowlist nofun
        have sameFile : (if unset.unlinked = true then
            { store with files := Function.update store.files .denylist none } else store).files .allowlist =
              store.files .allowlist := by
          split <;> rfl
        have sameProperties : (if unset.unlinked = true then
            { store with files := Function.update store.files .denylist none } else store).systemProperties =
              store.systemProperties := by
          split <;> rfl
        rw [sameProperties] at sameUrl sameMd5
        have before : fileNeedsUpdating checksum store .allowlist url = false :=
          (fileNeedsUpdating_congr sameUrl sameMd5 ((congrFun files .allowlist).trans sameFile)).symm.trans current
        obtain ⟨old, inFile, isAccepted⟩ := consistent .allowlist url before
        exact ⟨old, (congrFun files .allowlist).trans (sameFile.trans inFile), isAccepted⟩
  · exact consistent

/-- A system with what was accepted so far. -/
structure Traced where
  system : System
  accepted : Accepted

def acceptInput (checksum : Checksum) (traced : Traced) : Input → Accepted
  | .allowlistTask attempt =>
      (traced.system.handler.allowlistTask.map fun url =>
        accept checksum traced.system.store .allowlist url attempt traced.accepted).getD traced.accepted
  | .denylistTask attempt =>
      (traced.system.handler.denylistTask.map fun url =>
        accept checksum traced.system.store .denylist url attempt traced.accepted).getD traced.accepted
  | _ => traced.accepted

def tracedStep (checksum : Checksum) (traced : Traced) (input : Input) : Option Traced :=
  (step checksum traced.system input).map fun next => ⟨next, acceptInput checksum traced input⟩

theorem Consistent.step {traced next : Traced} {input : Input}
    (consistent : Consistent checksum traced.system.store traced.accepted)
    (stepped : tracedStep checksum traced input = some next) :
    Consistent checksum next.system.store next.accepted := by
  obtain ⟨system, taken, rfl⟩ := Option.map_eq_some_iff.mp stepped
  cases input with
  | updateAllowlist url =>
      cases taken
      exact consistent
  | updateDenylist url unset =>
      cases taken
      show Consistent checksum
        (if startsDenylistUpdate url then traced.system.store else unsetDenylist traced.system.store unset) _
      split
      · exact consistent
      · exact consistent.unset unset
  | allowlistTask | denylistTask =>
      obtain ⟨url, task, rfl⟩ := Option.map_eq_some_iff.mp taken
      simp only [acceptInput, task]
      exact consistent.update

/-- After every run, a file that needs no update is what was last downloaded from the URL and accepted, and an update
that fails leaves the files and the properties as they are. -/
theorem run_consistent {start final : Traced} {inputs : List Input}
    (consistent : Consistent checksum start.system.store start.accepted)
    (reached : Runs.run (tracedStep checksum) start inputs = some final) :
    Consistent checksum final.system.store final.accepted ∧
      ∀ file url attempt, (updateFile checksum final.system.store file url attempt).1 = .failed →
        (updateFile checksum final.system.store file url attempt).2 = final.system.store := by
  constructor
  · exact Runs.invariant _ (fun traced => Consistent checksum traced.system.store traced.accepted)
      (fun _ _ _ holds stepped => holds.step stepped) consistent reached
  · intro file url attempt failed
    rcases updateFile_cases checksum final.system.store file url attempt with ⟨_, same⟩ | ⟨_, updated, _⟩
    · exact same
    · rw [failed] at updated
      cases updated

/-- A list without descriptors. -/
def sampleList : Content := "<DeviceDescriptorList/>".toUTF8.toList

/-- The checksum of the sample list. -/
def sampleMd5 (content : Content) : String :=
  if content = sampleList then "88cd7d3c4d4d5172e0f392f453459a5e" else "00000000000000000000000000000000"

def sampleChecksum : Checksum where
  md5HexString := sampleMd5
  length := by
    intro content
    unfold sampleMd5
    split <;> decide +kernel

/-- The list is downloaded, accepted and recorded. -/
def downloaded : Attempt := ⟨true, some sampleList, true, true, .saved, .saved⟩

/-- Nothing is recorded, and no task is started. -/
def emptySystem : System :=
  ⟨deviceServiceDeviceDescriptorsInit false false "", ⟨fun _ => none, fun _ => none⟩⟩

theorem consistent_empty : Consistent sampleChecksum emptySystem.store fun _ _ => none := by
  intro file url current
  have needs : fileNeedsUpdating sampleChecksum emptySystem.store file url = true := rfl
  rw [needs] at current
  cases current

/-- The list of one URL stays in place when the update from another URL cannot be moved into place. -/
theorem run_consistent_notRenamed :
    ∃ final, Runs.run (tracedStep sampleChecksum) ⟨emptySystem, fun _ _ => none⟩
        [.updateAllowlist "http://first", .allowlistTask downloaded, .updateAllowlist "http://second",
          .allowlistTask { downloaded with renamed := false }] = some final ∧
      ∃ content, final.system.store.files .allowlist = some content ∧
        final.accepted .allowlist "http://first" = some content := by
  have computed : (Runs.run (tracedStep sampleChecksum) ⟨emptySystem, fun _ _ => none⟩
      [.updateAllowlist "http://first", .allowlistTask downloaded, .updateAllowlist "http://second",
        .allowlistTask { downloaded with renamed := false }]).map
      (fun final => fileNeedsUpdating sampleChecksum final.system.store .allowlist "http://first") = some false := by
    decide +kernel
  obtain ⟨final, reached, current⟩ := Option.map_eq_some_iff.mp computed
  exact ⟨final, reached, (run_consistent consistent_empty reached).1 .allowlist "http://first" current⟩

end Origin

section Ready

/-- A call of an update function or the end of one execution of an update task. -/
inductive Event where
  | updateAllowlist (url : String)
  | updateDenylist (url : String) (removed : Bool)
  | finishAllowlist (result : UpdateResult)
  | finishDenylist (result : UpdateResult)
  deriving DecidableEq

def Handler.step (handler : Handler) : Event → Option Handler
  | .updateAllowlist url => some (deviceDescriptorsUpdateAllowlist handler url)
  | .updateDenylist url _ => some (deviceDescriptorsUpdateDenylist handler url)
  | .finishAllowlist result => handler.allowlistTask.map fun _ => finishAllowlistUpdate handler result
  | .finishDenylist result => handler.denylistTask.map fun _ => finishDenylistUpdate handler result

/-- The event that an input is for the handler. -/
def eventOf (checksum : Checksum) (system : System) : Input → Event
  | .updateAllowlist url => .updateAllowlist url
  | .updateDenylist url unset => .updateDenylist url unset.removed
  | .allowlistTask attempt => .finishAllowlist
      (updateFile checksum system.store .allowlist (system.handler.allowlistTask.getD "") attempt).1
  | .denylistTask attempt => .finishDenylist
      (updateFile checksum system.store .denylist (system.handler.denylistTask.getD "") attempt).1

/-- A step of the system is a step of its handler. -/
theorem step_event {checksum : Checksum} {system next : System} {input : Input}
    (stepped : step checksum system input = some next) :
    system.handler.step (eventOf checksum system input) = some next.handler := by
  cases input with
  | updateAllowlist | updateDenylist =>
      cases stepped
      rfl
  | allowlistTask | denylistTask =>
      obtain ⟨url, task, rfl⟩ := Option.map_eq_some_iff.mp stepped
      simp [Handler.step, eventOf, task]

/-- A run of the system is a run of its handler. -/
theorem run_events {checksum : Checksum} {start final : System} {inputs : List Input}
    (reached : Runs.run (step checksum) start inputs = some final) :
    ∃ events, events.length = inputs.length ∧ Runs.run Handler.step start.handler events = some final.handler := by
  induction inputs generalizing start with
  | nil =>
      cases reached
      exact ⟨[], rfl, rfl⟩
  | cons input rest ih =>
      obtain ⟨next, stepped, later⟩ := Option.bind_eq_some_iff.mp reached
      obtain ⟨events, length, run⟩ := ih later
      refine ⟨eventOf checksum start input :: events, congrArg Nat.succ length, ?_⟩
      rw [Runs.run, step_event stepped]
      exact run

/-- This is what the lists are. The default invalid URL may count as a URL or as none. -/
structure Lists where
  allowlistValid : Bool
  denylistValid : Bool
  denylistConfigured : Bool
  deriving DecidableEq

def isConfigured (defaultCounts : Bool) (url : String) : Bool :=
  !url.isEmpty && (defaultCounts || !isDefaultInvalidDenylistUrl url)

/-- The denylist is valid or not configured. -/
def Lists.denylistReady (lists : Lists) : Bool := lists.denylistValid || !lists.denylistConfigured

def Lists.ready (lists : Lists) : Bool := lists.allowlistValid && lists.denylistReady

def Lists.step (defaultCounts : Bool) (lists : Lists) : Event → Lists
  | .updateAllowlist _ => lists
  | .updateDenylist url removed =>
      { lists with
        denylistValid := lists.denylistValid && (startsDenylistUpdate url || !removed)
        denylistConfigured := isConfigured defaultCounts url }
  | .finishAllowlist result => { lists with allowlistValid := lists.allowlistValid || result ≠ .failed }
  | .finishDenylist result => { lists with denylistValid := lists.denylistValid || result ≠ .failed }

/-- The handler with the state of the lists, and whether they were ready at some moment. -/
structure Watched where
  handler : Handler
  lists : Lists
  everReady : Bool
  deriving DecidableEq

def Watched.start (defaultCounts localAllowlistIsValid localDenylistIsValid : Bool) (denylistUrl : String) : Watched :=
  let lists : Lists := ⟨localAllowlistIsValid, localDenylistIsValid, isConfigured defaultCounts denylistUrl⟩
  ⟨deviceServiceDeviceDescriptorsInit localAllowlistIsValid localDenylistIsValid denylistUrl, lists, lists.ready⟩

def Watched.step (defaultCounts : Bool) (watched : Watched) (event : Event) : Option Watched :=
  (watched.handler.step event).map fun handler =>
    let lists := watched.lists.step defaultCounts event
    ⟨handler, lists, watched.everReady || lists.ready⟩

/-- Until the signal is given, a URL of the denylist leaves its flag right, and a list that is found current is not the
last one that was missing. -/
def keepsFlags (defaultCounts : Bool) (watched : Watched) (event : Event) : Bool :=
  watched.everReady || match event with
  | .updateDenylist _ _ =>
      watched.handler.isDenylistValid = (watched.lists.step defaultCounts event).denylistReady
  | .finishAllowlist .current => !watched.handler.isDenylistValid
  | .finishDenylist .current => !watched.handler.isAllowlistValid
  | _ => true

section Check
variable {handler : Handler}

theorem checkAndSetReadyForPairing_given (given : handler.readyForPairingCB = false) :
    checkAndSetReadyForPairing handler = handler := by
  unfold checkAndSetReadyForPairing
  rw [given, Bool.and_false]
  rfl

theorem checkAndSetReadyForPairing_missing (missing : (handler.isAllowlistValid && handler.isDenylistValid) = false) :
    checkAndSetReadyForPairing handler = handler := by
  unfold checkAndSetReadyForPairing
  rw [missing, Bool.false_and]
  rfl

theorem checkAndSetReadyForPairing_both (both : (handler.isAllowlistValid && handler.isDenylistValid) = true)
    (waiting : handler.readyForPairingCB = true) : checkAndSetReadyForPairing handler =
      { handler with readyForPairingCB := false, readyForPairingCalls := handler.readyForPairingCalls + 1 } := by
  unfold checkAndSetReadyForPairing
  rw [both, waiting]
  rfl

/-- Once the signal is given, no event changes the callback and the number of its calls. -/
theorem step_given {next : Handler} {event : Event} (given : handler.readyForPairingCB = false)
    (stepped : handler.step event = some next) :
    next.readyForPairingCB = false ∧ next.readyForPairingCalls = handler.readyForPairingCalls := by
  cases event with
  | updateAllowlist | updateDenylist =>
      cases stepped
      exact ⟨given, rfl⟩
  | finishAllowlist result =>
      obtain ⟨url, _, rfl⟩ := Option.map_eq_some_iff.mp stepped
      cases result with
      | updated =>
          unfold finishAllowlistUpdate
          dsimp only
          rw [checkAndSetReadyForPairing_given]
          · exact ⟨given, rfl⟩
          · exact given
      | _ => exact ⟨given, rfl⟩
  | finishDenylist result =>
      obtain ⟨url, _, rfl⟩ := Option.map_eq_some_iff.mp stepped
      cases result with
      | updated =>
          unfold finishDenylistUpdate
          dsimp only
          rw [checkAndSetReadyForPairing_given]
          · exact ⟨given, rfl⟩
          · exact given
      | _ => exact ⟨given, rfl⟩

end Check

section Watch
variable {defaultCounts : Bool} {watched next : Watched} {event : Event}

/-- The state before the signal. -/
structure Waiting (handler : Handler) (lists : Lists) : Prop where
  waiting : handler.readyForPairingCB = true
  uncalled : handler.readyForPairingCalls = 0
  allowlist : handler.isAllowlistValid = lists.allowlistValid
  denylist : handler.isDenylistValid = lists.denylistReady

/-- A check in a waiting state signals exactly when the lists are ready. -/
theorem Waiting.check {handler : Handler} {lists : Lists} (waiting : Waiting handler lists) :
    (lists.ready = false → Waiting (checkAndSetReadyForPairing handler) lists) ∧
      (lists.ready = true → (checkAndSetReadyForPairing handler).readyForPairingCB = false ∧
        (checkAndSetReadyForPairing handler).readyForPairingCalls = 1) := by
  have flags : (handler.isAllowlistValid && handler.isDenylistValid) = lists.ready := by
    rw [waiting.allowlist, waiting.denylist]
    rfl
  constructor
  · intro missing
    rw [checkAndSetReadyForPairing_missing (flags.trans missing)]
    exact waiting
  · intro both
    rw [checkAndSetReadyForPairing_both (flags.trans both) waiting.waiting]
    exact ⟨rfl, congrArg Nat.succ waiting.uncalled⟩

/-- The signal is given once, when the lists are ready for the first time. -/
structure Signalled (watched : Watched) : Prop where
  before : watched.everReady = false → Waiting watched.handler watched.lists ∧ watched.lists.ready = false
  after : watched.everReady = true →
    watched.handler.readyForPairingCB = false ∧ watched.handler.readyForPairingCalls = 1

theorem signalled_start (localAllowlistIsValid localDenylistIsValid : Bool) (denylistUrl : String)
    (counts : defaultCounts = false ∨ isDefaultInvalidDenylistUrl denylistUrl = false ∨ localDenylistIsValid = true) :
    Signalled (Watched.start defaultCounts localAllowlistIsValid localDenylistIsValid denylistUrl) := by
  have flag : (localDenylistIsValid || denylistUrl.isEmpty || isDefaultInvalidDenylistUrl denylistUrl) =
      (localDenylistIsValid || !isConfigured defaultCounts denylistUrl) := by
    unfold isConfigured
    rcases counts with rfl | other | valid
    · cases localDenylistIsValid <;> cases denylistUrl.isEmpty <;>
        cases isDefaultInvalidDenylistUrl denylistUrl <;> rfl
    · rw [other]
      cases localDenylistIsValid <;> cases denylistUrl.isEmpty <;> cases defaultCounts <;> rfl
    · rw [valid]
      rfl
  have waiting : Waiting ⟨localAllowlistIsValid, localDenylistIsValid || denylistUrl.isEmpty ||
      isDefaultInvalidDenylistUrl denylistUrl, true, 0, 0, none, none⟩
      ⟨localAllowlistIsValid, localDenylistIsValid, isConfigured defaultCounts denylistUrl⟩ := ⟨rfl, rfl, rfl, flag⟩
  exact ⟨fun unready => ⟨waiting.check.1 unready, unready⟩, waiting.check.2⟩

theorem Signalled.step (signalled : Signalled watched) (keeps : keepsFlags defaultCounts watched event = true)
    (stepped : watched.step defaultCounts event = some next) : Signalled next := by
  obtain ⟨handler, taken, rfl⟩ := Option.map_eq_some_iff.mp stepped
  cases ever : watched.everReady with
  | true =>
      obtain ⟨given, once⟩ := signalled.after ever
      obtain ⟨still, same⟩ := step_given given taken
      refine ⟨?_, fun _ => ⟨still, same.trans once⟩⟩
      intro never
      cases never
  | false =>
      obtain ⟨waiting, unready⟩ := signalled.before ever
      unfold keepsFlags at keeps
      rw [ever, Bool.false_or] at keeps
      have silent (lists : Lists) (waits : Waiting handler lists) (missing : lists.ready = false)
          (same : lists = watched.lists.step defaultCounts event) :
          Signalled ⟨handler, watched.lists.step defaultCounts event,
            false || (watched.lists.step defaultCounts event).ready⟩ := by
        rw [← same, missing]
        exact ⟨fun _ => ⟨waits, missing⟩, nofun⟩
      have missing : (watched.lists.allowlistValid && watched.lists.denylistReady) = false := unready
      cases event with
      | updateAllowlist url =>
          cases taken
          exact silent watched.lists ⟨waiting.waiting, waiting.uncalled, waiting.allowlist, waiting.denylist⟩
            unready rfl
      | updateDenylist url removed =>
          cases taken
          have flag := of_decide_eq_true keeps
          refine silent (watched.lists.step defaultCounts (.updateDenylist url removed))
            ⟨waiting.waiting, waiting.uncalled, waiting.allowlist, flag⟩ ?_ rfl
          show (watched.lists.allowlistValid && _) = false
          rw [← flag, waiting.denylist]
          exact missing
      | finishAllowlist result =>
          obtain ⟨url, _, rfl⟩ := Option.map_eq_some_iff.mp taken
          cases result with
          | failed =>
              refine silent watched.lists waiting unready ?_
              simp [Lists.step]
          | current =>
              have unset : watched.handler.isDenylistValid = false := by simpa using keeps
              refine silent (watched.lists.step defaultCounts (.finishAllowlist .current))
                ⟨waiting.waiting, waiting.uncalled, ?_, waiting.denylist⟩ ?_ rfl
              · simp [Lists.step, finishAllowlistUpdate]
              · rw [waiting.denylist] at unset
                show (_ && watched.lists.denylistReady) = false
                rw [unset, Bool.and_false]
          | updated =>
              have updated : Waiting { watched.handler with allowlistTask := none, isAllowlistValid := true }
                  (watched.lists.step defaultCounts (.finishAllowlist .updated)) :=
                ⟨waiting.waiting, waiting.uncalled, by simp [Lists.step], waiting.denylist⟩
              exact ⟨fun unready => ⟨⟨(updated.check.1 unready).1, (updated.check.1 unready).2,
                (updated.check.1 unready).3, (updated.check.1 unready).4⟩, unready⟩, updated.check.2⟩
      | finishDenylist result =>
          obtain ⟨url, _, rfl⟩ := Option.map_eq_some_iff.mp taken
          cases result with
          | failed =>
              refine silent watched.lists waiting unready ?_
              simp [Lists.step]
          | current =>
              have unset : watched.handler.isAllowlistValid = false := by simpa using keeps
              refine silent (watched.lists.step defaultCounts (.finishDenylist .current))
                ⟨waiting.waiting, waiting.uncalled, waiting.allowlist, ?_⟩ ?_ rfl
              · simp [Lists.step, Lists.denylistReady, finishDenylistUpdate]
              · rw [waiting.allowlist] at unset
                show (watched.lists.allowlistValid && _) = false
                rw [unset, Bool.false_and]
          | updated =>
              have updated : Waiting { watched.handler with denylistTask := none, isDenylistValid := true }
                  (watched.lists.step defaultCounts (.finishDenylist .updated)) :=
                ⟨waiting.waiting, waiting.uncalled, waiting.allowlist, by simp [Lists.step, Lists.denylistReady]⟩
              exact ⟨fun unready => ⟨⟨(updated.check.1 unready).1, (updated.check.1 unready).2,
                (updated.check.1 unready).3, (updated.check.1 unready).4⟩, unready⟩, updated.check.2⟩

/-- In every run in which the flags are kept right, the callback has been called once if the lists were ready at some
moment so far, and it has not been called otherwise. -/
theorem run_readyOnce {localAllowlistIsValid localDenylistIsValid : Bool} {denylistUrl : String}
    {events : List Event} {final : Watched}
    (counts : defaultCounts = false ∨ isDefaultInvalidDenylistUrl denylistUrl = false ∨ localDenylistIsValid = true)
    (guarded : Runs.Guarded (Watched.step defaultCounts)
      (fun watched event => keepsFlags defaultCounts watched event = true)
      (Watched.start defaultCounts localAllowlistIsValid localDenylistIsValid denylistUrl) events)
    (reached : Runs.run (Watched.step defaultCounts)
      (Watched.start defaultCounts localAllowlistIsValid localDenylistIsValid denylistUrl) events = some final) :
    final.handler.readyForPairingCalls = if final.everReady then 1 else 0 := by
  have signalled : Signalled final := Runs.Guarded.invariant _ _
    (fun _ _ _ holds keeps stepped => holds.step keeps stepped) guarded
    (signalled_start localAllowlistIsValid localDenylistIsValid denylistUrl counts) reached
  cases ever : final.everReady with
  | false => exact (signalled.before ever).1.uncalled
  | true => exact (signalled.after ever).2

end Watch

/-- The denylist is configured while the allowlist is loading, and the last download signals. -/
theorem run_readyOnce_downloaded :
    ∃ final, Runs.run (Watched.step false) (Watched.start false false false "http://deny")
        [.updateAllowlist "http://allow", .updateDenylist "http://deny" false, .finishAllowlist .failed,
          .finishDenylist .updated, .finishAllowlist .updated] = some final ∧
      final.handler.readyForPairingCalls = 1 := by
  have computed : (Runs.run (Watched.step false) (Watched.start false false false "http://deny")
      [.updateAllowlist "http://allow", .updateDenylist "http://deny" false, .finishAllowlist .failed,
        .finishDenylist .updated, .finishAllowlist .updated]).map Watched.everReady = some true := by decide +kernel
  obtain ⟨final, reached, ever⟩ := Option.map_eq_some_iff.mp computed
  refine ⟨final, reached, ?_⟩
  rw [run_readyOnce (Or.inl rfl) (by decide +kernel) reached, ever]
  rfl

/-- An unset denylist leaves its flag unset, so the signal is missing. A denylist that is configured after none leaves
its flag set, so the signal comes before the denylist is valid. An allowlist that is found current makes the lists ready
without the signal. -/
theorem not_run_readyOnce :
    (Runs.run (Watched.step false) (Watched.start false true false "http://deny")
        [.updateDenylist "http://deny" false, .updateDenylist "" true]).map
      (fun final => (final.handler.readyForPairingCalls, final.everReady)) = some (0, true) ∧
    (Runs.run (Watched.step false) (Watched.start false false false "")
        [.updateAllowlist "http://allow", .updateDenylist "" true, .updateDenylist "http://deny" false,
          .finishAllowlist .updated]).map
      (fun final => (final.handler.readyForPairingCalls, final.everReady)) = some (1, false) ∧
    (Runs.run (Watched.step false) (Watched.start false false false "")
        [.updateAllowlist "http://allow", .updateDenylist "" true, .finishAllowlist .current]).map
      (fun final => (final.handler.readyForPairingCalls, final.everReady)) = some (0, true) := by
  decide +kernel

end Ready

end Barton.DescriptorHandler
