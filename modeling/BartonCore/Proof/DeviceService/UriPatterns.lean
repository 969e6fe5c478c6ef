import BartonCore.Proof.Database.Locators
import BartonCore.Proof.DeviceService.Access
import BartonCore.Construction.DeviceService.UriPatterns

namespace Barton.UriPatterns
open Database Globs

/-- The URI leads to a resource, and the resource is accessible. -/
def AccessibleResource (db : JsonDatabase) (uri : String) (resource : DeviceResource) : Prop :=
  jsonDatabaseGetResourceByUri db uri = some (some resource) ∧ jsonDatabaseIsUriAccessible db uri = some true

/-- The whole URI matches the pattern as a glob. -/
def Matches (pattern uri : String) : Prop := uri.toList ∈ glob pattern.toList

/-- The glob of a pattern decides as the search for its pieces. -/
theorem matches_iff (pattern uri : String) :
    Matches pattern uri ↔ matchPieces (pattern.toList.map globPiece) uri.toList = true := by
  rw [matchPieces_iff, Matches, map_globPiece]

/-- A read selects exactly the accessible resources that match, and each of them once. -/
structure Selects (db : JsonDatabase) (pattern : String) (resources : List DeviceResource) : Prop where
  distinct : (resources.map DeviceResource.uri).Nodup
  exact : ∀ resource, resource ∈ resources ↔ ∃ uri, AccessibleResource db uri resource ∧ Matches pattern uri

/-- A write selects exactly the URIs of the accessible resources that match, and each of them once. -/
structure SelectsUris (db : JsonDatabase) (pattern : String) (uris : List String) : Prop where
  distinct : uris.Nodup
  exact : ∀ uri, uri ∈ uris ↔ (∃ resource, AccessibleResource db uri resource) ∧ Matches pattern uri

/-- In an expression made from a pattern the period stands for any letter. -/
def letterLanguage (letter : Char) : Language Char :=
  if letter = '*' then anyText else if letter = '.' then anyLetter else {[letter]}

/-- The texts with a part that matches the pattern. The part starts at the beginning of the text when the
pattern starts with a circumflex, and it reaches the end of the text when the pattern ends with a dollar. -/
def partLanguage (pattern : List Char) : Language Char :=
  (if pattern.head? = some '^' then 1 else anyText) *
    ((dropEnd (dropStart pattern)).map letterLanguage).prod *
    (if (dropStart pattern).getLast? = some '$' then 1 else anyText)

/-- The pattern has neither brackets nor escapes. -/
def Plain (pattern : String) : Prop := '[' ∉ pattern.toList ∧ '\\' ∉ pattern.toList

instance (pattern : String) : Decidable (Plain pattern) := inferInstanceAs (Decidable (_ ∧ _))

/-- The expression of the pattern finds something in the URI. -/
def Finds (other : String → Option Regex) (pattern uri : String) : Prop :=
  if Plain pattern then uri.toList ∈ partLanguage pattern.toList
  else ∃ regexec, other (createRegexFromPattern pattern) = some regexec ∧ regexec uri = true

/-- The two readings of the pattern agree on the accessible resources. -/
def Agrees (other : String → Option Regex) (db : JsonDatabase) (pattern : String) : Prop :=
  ∀ uri resource, AccessibleResource db uri resource → (Finds other pattern uri ↔ Matches pattern uri)

/-- The pointers of the resource locators that the pattern finds do not dangle. -/
def Sound (other : String → Option Regex) (db : JsonDatabase) (pattern : String) : Prop :=
  ∀ uri, Finds other pattern uri → jsonDatabaseGetResourceByUri db uri ≠ none ∧
    ∀ resource, jsonDatabaseGetResourceByUri db uri = some (some resource) → jsonDatabaseIsUriAccessible db uri ≠ none

section Translation

/-- The letters that stand for one letter of the pattern. -/
def translated (letter : Char) : List Char := if letter = '*' then ['.', '*'] else [letter]

theorem createRegexFromPattern_toList (pattern : String) :
    (createRegexFromPattern pattern).toList = pattern.toList.flatMap translated :=
  String.toList_ofList

/-- The piece of one letter of the pattern. -/
def pieceOfLetter (letter : Char) : Piece := if letter = '*' then Piece.anything else ⟨letterOf letter, false⟩

theorem pieceOfLetter_language (letter : Char) : (pieceOfLetter letter).language = letterLanguage letter := by
  unfold pieceOfLetter letterLanguage
  by_cases star : letter = '*'
  · rw [if_pos star, if_pos star, anything_language]
  · rw [if_neg star, if_neg star]
    ext text
    rw [mem_single rfl]
    by_cases period : letter = '.'
    · rw [if_pos period, period, mem_anyLetter]
      simp [letterOf, Piece.accepts]
    · rw [if_neg period]
      constructor
      · rintro ⟨other, rfl, accepted⟩
        simp only [Piece.accepts, letterOf, if_neg period, Option.all_some, beq_iff_eq] at accepted
        rw [accepted]
        rfl
      · intro same
        exact ⟨letter, same, by simp [Piece.accepts, letterOf, period]⟩

/-- A translation does not start with a star. -/
theorem head_translated (pattern : List Char) : (pattern.flatMap translated).head? ≠ some '*' := by
  cases pattern with
  | nil => simp
  | cons letter rest =>
      by_cases star : letter = '*'
      · simp [translated, star]
      · simp [translated, star]

/-- The translation has one piece for each letter of the pattern. -/
theorem parsePieces_translated (pattern : List Char) :
    parsePieces (pattern.flatMap translated) = pattern.map pieceOfLetter := by
  induction pattern with
  | nil => rfl
  | cons letter rest ih =>
      have first := head_translated rest
      rw [List.flatMap_cons, List.map_cons, ← ih]
      by_cases star : letter = '*'
      · subst star
        rfl
      · rw [translated, if_neg star, pieceOfLetter, if_neg star]
        generalize rest.flatMap translated = tail at first
        cases tail with
        | nil => rfl
        | cons next more =>
            have other : next ≠ '*' := by simpa using first
            rw [List.singleton_append, parsePieces, if_neg other]

theorem dropStart_translated (pattern : List Char) :
    dropStart (pattern.flatMap translated) = (dropStart pattern).flatMap translated ∧
      ((pattern.flatMap translated).head? = some '^' ↔ pattern.head? = some '^') := by
  cases pattern with
  | nil => simp [dropStart]
  | cons letter rest =>
      by_cases star : letter = '*'
      · subst star
        simp [dropStart, translated]
      · by_cases anchor : letter = '^'
        · subst anchor
          simp [dropStart, translated]
        · simp [dropStart, translated, star, anchor]

theorem dropEnd_translated (pattern : List Char) :
    dropEnd (pattern.flatMap translated) = (dropEnd pattern).flatMap translated ∧
      ((pattern.flatMap translated).getLast? = some '$' ↔ pattern.getLast? = some '$') := by
  induction pattern using List.reverseRecOn with
  | nil => simp [dropEnd]
  | append_singleton rest letter _ =>
      by_cases star : letter = '*'
      · subst star
        simp [dropEnd, translated]
      · by_cases anchor : letter = '$'
        · subst anchor
          simp [dropEnd, translated]
        · simp [dropEnd, translated, star, anchor]

/-- The expression of a pattern finds the texts with a matching part. -/
theorem parse_translated (pattern : List Char) :
    (parse (pattern.flatMap translated)).language = partLanguage pattern := by
  obtain ⟨start, first⟩ := dropStart_translated pattern
  obtain ⟨stop, last⟩ := dropEnd_translated (dropStart pattern)
  have letters : ((dropEnd (dropStart pattern)).map pieceOfLetter).map Piece.language =
      (dropEnd (dropStart pattern)).map letterLanguage := by
    rw [List.map_map]
    exact List.map_congr_left fun letter _ => pieceOfLetter_language letter
  unfold Expression.language parse partLanguage
  rw [start, stop, parsePieces_translated, letters]
  simp only [decide_eq_true_eq, first, last]

/-- No two stars of a translation stand next to each other. -/
theorem stars_translated (pattern : List Char) :
    ((pattern.flatMap translated).zip (pattern.flatMap translated).tail).all
      (fun pair => pair.1 != '*' || pair.2 != '*') = true := by
  induction pattern with
  | nil => rfl
  | cons letter rest ih =>
      have first := head_translated rest
      rw [List.flatMap_cons]
      generalize rest.flatMap translated = tail at first ih
      by_cases star : letter = '*'
      · subst star
        cases tail with
        | nil => rfl
        | cons next more =>
            have other : next ≠ '*' := by simpa using first
            simp_all [translated]
      · cases tail with
        | nil => simp [translated, star]
        | cons next more => simp_all [translated]

theorem mem_translated (pattern : List Char) {letter : Char} (other : letter ≠ '*') (period : letter ≠ '.') :
    letter ∈ pattern.flatMap translated ↔ letter ∈ pattern := by
  constructor
  · intro member
    obtain ⟨source, inside, found⟩ := List.mem_flatMap.mp member
    unfold translated at found
    split at found
    · simp [other, period] at found
    · rw [List.mem_singleton.mp found]
      exact inside
  · intro member
    exact List.mem_flatMap.mpr ⟨letter, member, by simp [translated, other]⟩

theorem supported_translated (pattern : List Char) :
    supported (pattern.flatMap translated) = true ↔ '[' ∉ pattern ∧ '\\' ∉ pattern := by
  rw [← mem_translated pattern (show '[' ≠ '*' by decide) (by decide),
    ← mem_translated pattern (show '\\' ≠ '*' by decide) (by decide)]
  unfold supported
  rw [stars_translated]
  simp

/-- The compiled expression of a pattern finds what the pattern finds. -/
theorem regcomp_finds (other : String → Option Regex) (pattern uri : String) :
    (∃ regexec, regcomp other (createRegexFromPattern pattern) = some regexec ∧ regexec uri = true) ↔
      Finds other pattern uri := by
  have plain := supported_translated pattern.toList
  rw [← createRegexFromPattern_toList] at plain
  unfold regcomp Finds
  by_cases simple : Plain pattern
  · rw [if_pos (plain.mpr simple), if_pos simple]
    simp only [Option.some.injEq, exists_eq_left']
    rw [search_iff, createRegexFromPattern_toList, parse_translated]
  · have unsupported : ¬supported (createRegexFromPattern pattern).toList = true := fun held => simple (plain.mp held)
    rw [if_neg unsupported, if_neg simple]

end Translation

/-- The loop succeeds when no element faults, and it keeps what the elements give. -/
theorem collect_eq_some {Source Item : Type} {visit : Source → Option (Option Item)} {sources : List Source}
    {items : List Item} : collect visit sources = some items ↔
      (∀ source ∈ sources, visit source ≠ none) ∧ items = sources.filterMap fun source => (visit source).join := by
  induction sources generalizing items with
  | nil => simp [collect, eq_comm]
  | cons source rest ih =>
      unfold collect
      cases visited : visit source with
      | none => simp [visited]
      | some item =>
          simp only [Option.bind_some, Option.map_eq_some_iff, ih, List.forall_mem_cons, visited,
            List.filterMap_cons, Option.join_some]
          constructor
          · rintro ⟨others, ⟨later, rfl⟩, rfl⟩
            refine ⟨⟨by simp, later⟩, ?_⟩
            cases item <;> rfl
          · rintro ⟨⟨_, later⟩, rfl⟩
            refine ⟨_, ⟨later, rfl⟩, ?_⟩
            cases item <;> rfl

theorem collect_isSome {Source Item : Type} {visit : Source → Option (Option Item)} {sources : List Source} :
    (∃ items, collect visit sources = some items) ↔ ∀ source ∈ sources, visit source ≠ none := by
  constructor
  · rintro ⟨items, done⟩
    exact (collect_eq_some.mp done).1
  · exact fun each => ⟨_, collect_eq_some.mpr ⟨each, rfl⟩⟩

/-- Kept elements that keep a projection appear in the order of their sources. -/
theorem map_filterMap_sublist {Source Item Key : Type} {keep : Source → Option Item} {key : Item → Key}
    {sourceKey : Source → Key} {sources : List Source}
    (same : ∀ source ∈ sources, ∀ item, keep source = some item → key item = sourceKey source) :
    ((sources.filterMap keep).map key).Sublist (sources.map sourceKey) := by
  induction sources with
  | nil => exact List.Sublist.slnil
  | cons source rest ih =>
      rw [List.forall_mem_cons] at same
      rw [List.filterMap_cons, List.map_cons]
      cases kept : keep source with
      | none => exact (ih same.2).cons _
      | some item =>
          rw [List.map_cons, same.1 item kept]
          exact (ih same.2).cons_cons _

section Reads
variable {other : String → Option Regex} {db : JsonDatabase} {pattern uri : String} {resources : List DeviceResource}

theorem getResourceByUri_of_lookup {locator : Locator} (located : db.resourcesByUri.lookup uri = some locator) :
    jsonDatabaseGetResourceByUri db uri = resourceOf db locator := by
  unfold jsonDatabaseGetResourceByUri
  rw [located]
  cases locator <;> rfl

theorem getResourceByUri_of_missing (missing : db.resourcesByUri.lookup uri = none) :
    jsonDatabaseGetResourceByUri db uri = some none := by
  unfold jsonDatabaseGetResourceByUri
  rw [missing]

theorem getResourcesInternal_plain (plain : ¬isUriPattern uri = true) :
    deviceServiceGetResourcesByUriPatternInternal other db (some uri) =
      (jsonDatabaseGetResourceByUri db uri).map fun resource => some resource.toList :=
  if_neg plain

/-- The resource behind a locator has the URI of the locator. -/
theorem resource_uri (labelled : Labelled db) {resource : DeviceResource}
    (found : jsonDatabaseGetResourceByUri db uri = some (some resource)) : resource.uri = some uri := by
  unfold jsonDatabaseGetResourceByUri at found
  split at found
  · rename_i entryAddress owner address located
    obtain ⟨cached, read, same⟩ := Option.map_eq_some_iff.mp found
    cases same
    obtain ⟨entry, held, inside⟩ := Option.bind_eq_some_iff.mp read
    obtain ⟨holder, member⟩ := resourceItem_mem_treeItems entry.address (Cells.read_mem inside)
    have listed := (Heap.treeItems_sublist (Cells.read_mem held)).subset member
    have place : cached.address = address := Cells.read_address inside
    exact (labelled uri _ located).2 _ listed place
  · cases found

/-- The answer of `regexec` for a compiled pattern. An invalid expression finds nothing. -/
def verdict (other : String → Option Regex) (pattern uri : String) : Bool :=
  (regcomp other (createRegexFromPattern pattern)).any fun regexec => regexec uri

theorem verdict_iff (other : String → Option Regex) (pattern uri : String) :
    verdict other pattern uri = true ↔ Finds other pattern uri := by
  rw [← regcomp_finds, verdict, Option.any_eq_true]

/-- The loop over the locators visits each of them with the verdict on its key. -/
def visitLocator (other : String → Option Regex) (db : JsonDatabase) (pattern : String)
    (entry : Sigma fun _ : String => Locator) : Option (Option DeviceResource) :=
  if verdict other pattern entry.1 then resourceOf db entry.2 else some none

theorem getResourcesByUriRegex_eq (other : String → Option Regex) (db : JsonDatabase) (pattern : String) :
    jsonDatabaseGetResourcesByUriRegex other db (createRegexFromPattern pattern) =
      collect (visitLocator other db pattern) db.resourcesByUri.entries := by
  unfold jsonDatabaseGetResourcesByUriRegex getItemsByUriRegex
  cases compiled : regcomp other (createRegexFromPattern pattern) with
  | none =>
      have nothing : collect (visitLocator other db pattern) db.resourcesByUri.entries = some [] := by
        refine collect_eq_some.mpr ⟨?_, ?_⟩
        · intro entry _
          simp [visitLocator, verdict, compiled]
        · symm
          rw [List.filterMap_eq_nil_iff]
          intro entry _
          simp [visitLocator, verdict, compiled]
      exact nothing.symm
  | some regexec =>
      have same : visitLocator other db pattern =
          fun entry => if regexec entry.1 then resourceOf db entry.2 else some none := by
        funext entry
        simp [visitLocator, verdict, compiled]
      rw [same]

/-- The loop returns exactly when no found locator dangles. -/
theorem getResourcesByUriRegex_returns :
    (∃ resources, jsonDatabaseGetResourcesByUriRegex other db (createRegexFromPattern pattern) = some resources) ↔
      ∀ uri, Finds other pattern uri → jsonDatabaseGetResourceByUri db uri ≠ none := by
  rw [getResourcesByUriRegex_eq, collect_isSome]
  constructor
  · intro each uri found
    cases located : db.resourcesByUri.lookup uri with
    | none =>
        rw [getResourceByUri_of_missing located]
        exact Option.some_ne_none _
    | some locator =>
        have visited := each ⟨uri, locator⟩ (AList.mem_lookup_iff.mp located)
        rw [getResourceByUri_of_lookup located]
        rwa [visitLocator, if_pos ((verdict_iff other pattern uri).mpr found)] at visited
  · rintro each ⟨uri, locator⟩ member
    have located : db.resourcesByUri.lookup uri = some locator := AList.mem_lookup_iff.mpr member
    rw [visitLocator]
    split
    · rename_i found
      rw [← getResourceByUri_of_lookup located]
      exact each uri ((verdict_iff other pattern uri).mp found)
    · exact Option.some_ne_none _

/-- The list holds each resource whose URI the pattern finds once. -/
theorem getResourcesByUriRegex_exact (labelled : Labelled db)
    (returned : jsonDatabaseGetResourcesByUriRegex other db (createRegexFromPattern pattern) = some resources) :
    (resources.map DeviceResource.uri).Nodup ∧ ∀ resource, resource ∈ resources ↔
      ∃ uri, jsonDatabaseGetResourceByUri db uri = some (some resource) ∧ Finds other pattern uri := by
  rw [getResourcesByUriRegex_eq] at returned
  obtain ⟨_, rfl⟩ := collect_eq_some.mp returned
  have visits (uri : String) (locator : Locator) (member : ⟨uri, locator⟩ ∈ db.resourcesByUri.entries)
      (resource : DeviceResource) : (visitLocator other db pattern ⟨uri, locator⟩).join = some resource ↔
        jsonDatabaseGetResourceByUri db uri = some (some resource) ∧ Finds other pattern uri := by
    rw [getResourceByUri_of_lookup (AList.mem_lookup_iff.mpr member), ← verdict_iff, visitLocator]
    by_cases found : verdict other pattern uri = true <;> simp [found, Option.join_eq_some_iff]
  constructor
  · have keys : (db.resourcesByUri.entries.map fun entry => some entry.1).Nodup := by
      have distinct := db.resourcesByUri.nodupKeys
      rw [List.NodupKeys, List.keys] at distinct
      have options := distinct.map (Option.some_injective String)
      rwa [List.map_map] at options
    refine List.Nodup.sublist (map_filterMap_sublist ?_) keys
    rintro ⟨uri, locator⟩ member resource visited
    exact resource_uri labelled ((visits uri locator member resource).mp visited).1
  · intro resource
    rw [List.mem_filterMap]
    constructor
    · rintro ⟨⟨uri, locator⟩, member, visited⟩
      exact ⟨uri, (visits uri locator member resource).mp visited⟩
    · rintro ⟨uri, read, found⟩
      cases located : db.resourcesByUri.lookup uri with
      | none =>
          rw [getResourceByUri_of_missing located] at read
          cases read
      | some locator =>
          have member := AList.mem_lookup_iff.mp located
          exact ⟨⟨uri, locator⟩, member, (visits uri locator member resource).mpr ⟨read, found⟩⟩

theorem getResourcesInternal_eq (wild : isUriPattern pattern = true) :
    deviceServiceGetResourcesByUriPatternInternal other db (some pattern) =
      (jsonDatabaseGetResourcesByUriRegex other db (createRegexFromPattern pattern)).map some :=
  if_pos wild

/-- The result keeps a found resource when it is accessible. -/
def visitResource (db : JsonDatabase) (resource : DeviceResource) : Option (Option DeviceResource) :=
  (deviceServiceIsUriAccessible db resource.uri).map fun accessible => if accessible then some resource else none

theorem getResources_eq_some (wild : isUriPattern pattern = true) :
    deviceServiceGetResourcesByUriPattern other db (some pattern) = some (some resources) ↔
      ∃ found, jsonDatabaseGetResourcesByUriRegex other db (createRegexFromPattern pattern) = some found ∧
        collect (visitResource db) found = some resources := by
  unfold deviceServiceGetResourcesByUriPattern
  rw [getResourcesInternal_eq wild]
  cases jsonDatabaseGetResourcesByUriRegex other db (createRegexFromPattern pattern) with
  | none => simp
  | some found =>
      simp only [Option.map_some, Option.bind_some, Option.some.injEq, exists_eq_left', Option.map_eq_some_iff,
        exists_eq_right]
      rfl

theorem visitResource_eq_none (resource : DeviceResource) : visitResource db resource = none ↔
    ∃ uri, resource.uri = some uri ∧ jsonDatabaseIsUriAccessible db uri = none := by
  unfold visitResource deviceServiceIsUriAccessible
  cases resource.uri with
  | none => simp
  | some uri => simp

theorem visitResource_eq_some {resource kept : DeviceResource} (named : resource.uri = some uri) :
    (visitResource db resource).join = some kept ↔
      resource = kept ∧ jsonDatabaseIsUriAccessible db uri = some true := by
  unfold visitResource deviceServiceIsUriAccessible
  rw [named]
  cases checked : jsonDatabaseIsUriAccessible db uri with
  | none => simp [checked]
  | some accessible => cases accessible <;> simp [checked]

/-- The call returns exactly when no found pointer dangles. -/
theorem getResources_returns (labelled : Labelled db) (wild : isUriPattern pattern = true) :
    (∃ resources, deviceServiceGetResourcesByUriPattern other db (some pattern) = some (some resources)) ↔
      Sound other db pattern := by
  simp only [getResources_eq_some wild]
  constructor
  · rintro ⟨resources, found, returned, collected⟩ uri finds
    refine ⟨getResourcesByUriRegex_returns.mp ⟨found, returned⟩ uri finds, ?_⟩
    intro resource read dangling
    have member := ((getResourcesByUriRegex_exact labelled returned).2 resource).mpr ⟨uri, read, finds⟩
    apply (collect_eq_some.mp collected).1 resource member
    rw [visitResource_eq_none]
    exact ⟨uri, resource_uri labelled read, dangling⟩
  · intro sound
    obtain ⟨found, returned⟩ := getResourcesByUriRegex_returns.mpr fun uri finds => (sound uri finds).1
    have visits : ∀ resource ∈ found, visitResource db resource ≠ none := by
      intro resource member dangling
      obtain ⟨uri, read, finds⟩ := ((getResourcesByUriRegex_exact labelled returned).2 resource).mp member
      obtain ⟨name, named, unknown⟩ := (visitResource_eq_none resource).mp dangling
      rw [resource_uri labelled read, Option.some.injEq] at named
      subst named
      exact (sound uri finds).2 resource read unknown
    obtain ⟨resources, collected⟩ := collect_isSome.mpr visits
    exact ⟨resources, found, returned, collected⟩

/-- The result holds each accessible resource whose URI the pattern finds once. -/
theorem getResources_exact (labelled : Labelled db) (wild : isUriPattern pattern = true)
    (returned : deviceServiceGetResourcesByUriPattern other db (some pattern) = some (some resources)) :
    (resources.map DeviceResource.uri).Nodup ∧ ∀ resource, resource ∈ resources ↔
      ∃ uri, AccessibleResource db uri resource ∧ Finds other pattern uri := by
  obtain ⟨found, looped, collected⟩ := (getResources_eq_some wild).mp returned
  obtain ⟨distinct, exact⟩ := getResourcesByUriRegex_exact labelled looped
  obtain ⟨_, rfl⟩ := collect_eq_some.mp collected
  have visits (resource kept : DeviceResource) (member : resource ∈ found) :
      (visitResource db resource).join = some kept ↔ resource = kept ∧ ∃ uri, AccessibleResource db uri resource ∧
        Finds other pattern uri := by
    obtain ⟨uri, read, finds⟩ := (exact resource).mp member
    have named := resource_uri labelled read
    rw [visitResource_eq_some named]
    refine and_congr_right fun _ => ⟨fun accessible => ⟨uri, ⟨read, accessible⟩, finds⟩, ?_⟩
    rintro ⟨name, ⟨other, accessible⟩, _⟩
    rw [resource_uri labelled other, Option.some.injEq] at named
    exact named ▸ accessible
  constructor
  · refine List.Nodup.sublist (map_filterMap_sublist ?_) distinct
    intro resource member kept visited
    rw [((visits resource kept member).mp visited).1]
  · intro resource
    rw [List.mem_filterMap]
    constructor
    · rintro ⟨source, member, visited⟩
      obtain ⟨rfl, selected⟩ := (visits source resource member).mp visited
      exact selected
    · rintro ⟨uri, accessible, finds⟩
      have member := (exact resource).mpr ⟨uri, accessible.1, finds⟩
      exact ⟨resource, member, (visits resource resource member).mpr ⟨rfl, uri, accessible, finds⟩⟩

/-- A read selects by glob exactly when the two readings of the pattern agree. -/
theorem selects_iff (labelled : Labelled db) (wild : isUriPattern pattern = true)
    (returned : deviceServiceGetResourcesByUriPattern other db (some pattern) = some (some resources)) :
    Selects db pattern resources ↔ Agrees other db pattern := by
  obtain ⟨distinct, exact⟩ := getResources_exact labelled wild returned
  constructor
  · intro selects uri resource accessible
    have unique {name : String} (known : AccessibleResource db name resource) : name = uri := by
      have first := resource_uri labelled known.1
      rwa [resource_uri labelled accessible.1, Option.some.injEq, eq_comm] at first
    constructor
    · intro finds
      obtain ⟨name, known, matched⟩ :=
        (selects.exact resource).mp ((exact resource).mpr ⟨uri, accessible, finds⟩)
      exact unique known ▸ matched
    · intro matched
      obtain ⟨name, known, finds⟩ :=
        (exact resource).mp ((selects.exact resource).mpr ⟨uri, accessible, matched⟩)
      exact unique known ▸ finds
  · intro agrees
    refine ⟨distinct, fun resource => (exact resource).trans ?_⟩
    exact exists_congr fun uri => and_congr_right fun accessible => agrees uri resource accessible

end Reads

section Writes
variable {other : String → Option Regex} {db next : JsonDatabase} {pattern uri : String}
  {drivers : DriverManager} {value : Option String}

/-- The contract of the drivers: a write changes the database only through `updateResource` and mode changes. -/
def Contract (lib : Library) (drivers : DriverManager) : Prop :=
  ∀ name driver write, drivers name = some driver → driver.writeResource = some write →
    ∀ db resource previous value result next, write db resource previous value = some (result, next) →
      ∃ threads schedule final, Resources.run lib ⟨⟨db, [], []⟩, threads⟩ schedule = some final ∧ final.shared.db = next

/-- The write of a driver keeps the accessibility of every URI. -/
def KeepsAccess (drivers : DriverManager) : Prop :=
  ∀ name driver write, drivers name = some driver → driver.writeResource = some write →
    ∀ db resource previous value result next, write db resource previous value = some (result, next) →
      ∀ uri, jsonDatabaseIsUriAccessible next uri = jsonDatabaseIsUriAccessible db uri

theorem Contract.keepsAccess {lib : Library} (contract : Contract lib drivers) : KeepsAccess drivers := by
  intro name driver write managed provides db resource previous value result next written uri
  obtain ⟨threads, schedule, final, reached, same⟩ :=
    contract name driver write managed provides db resource previous value result next written
  rw [← same]
  exact Access.run_access reached uri

theorem writeNoPattern_access (keeps : KeepsAccess drivers) {result : Bool}
    (written : deviceServiceWriteResourceNoPattern db drivers uri value = some (result, next)) (name : String) :
    jsonDatabaseIsUriAccessible next name = jsonDatabaseIsUriAccessible db name := by
  obtain ⟨found, _, rest⟩ := Option.bind_eq_some_iff.mp written
  cases found with
  | none =>
      cases rest
      rfl
  | some resource =>
      dsimp only at rest
      split at rest
      · cases rest
        rfl
      · obtain ⟨driver, managed, rest⟩ := Option.bind_eq_some_iff.mp rest
        split at rest
        · cases rest
          rfl
        · rename_i write given
          obtain ⟨chosen, held, provides⟩ := Option.bind_eq_some_iff.mp given
          obtain ⟨device, _, same⟩ := Option.map_eq_some_iff.mp managed
          rw [← same] at held
          obtain ⟨record, _, manager⟩ := Option.bind_eq_some_iff.mp held
          exact keeps _ _ _ manager provides _ _ _ _ _ _ rest name

/-- The URI that a write selects for a found resource. -/
def selectedUri (db : JsonDatabase) (resource : DeviceResource) : Option String :=
  resource.uri.filter fun uri => jsonDatabaseIsUriAccessible db uri == some true

/-- The loop selects the found resources that are accessible. -/
theorem writeEach_selected (keeps : KeepsAccess drivers) {resources : List DeviceResource} {outcome final : WriteOutcome}
    (same : ∀ uri, jsonDatabaseIsUriAccessible outcome.db uri = jsonDatabaseIsUriAccessible db uri)
    (written : writeEach drivers value outcome resources = some final) :
    final.selected = outcome.selected ++ resources.filterMap (selectedUri db) := by
  induction resources generalizing outcome with
  | nil =>
      cases written
      exact (List.append_nil _).symm
  | cons resource rest ih =>
      unfold writeEach at written
      obtain ⟨accessible, checked, rest⟩ := Option.bind_eq_some_iff.mp written
      rw [List.filterMap_cons]
      cases accessible with
      | false =>
          have skipped : selectedUri db resource = none := by
            unfold selectedUri
            cases named : resource.uri with
            | none => rfl
            | some uri =>
                rw [named] at checked
                have closed : jsonDatabaseIsUriAccessible db uri = some false := (same uri).symm.trans checked
                simp [closed]
          rw [skipped]
          exact @ih { outcome with result := false } same rest
      | true =>
          obtain ⟨uri, named, rest⟩ := Option.bind_eq_some_iff.mp rest
          obtain ⟨⟨result, next⟩, wrote, rest⟩ := Option.bind_eq_some_iff.mp rest
          rw [named] at checked
          have opened : jsonDatabaseIsUriAccessible db uri = some true := (same uri).symm.trans checked
          have chosen : selectedUri db resource = some uri := by simp [selectedUri, named, opened]
          have after := @ih ⟨outcome.result && result, next, outcome.selected ++ [uri]⟩
            (fun name => (writeNoPattern_access keeps wrote name).trans (same name)) rest
          rw [chosen, after, List.append_assoc]
          rfl

/-- A write selects by glob exactly when the two readings of the pattern agree. -/
theorem selectsUris_iff (labelled : Labelled db) (wild : isUriPattern pattern = true) (keeps : KeepsAccess drivers)
    {outcome : WriteOutcome} (written : deviceServiceWriteResource drivers value other db (some pattern) = some outcome) :
    SelectsUris db pattern outcome.selected ↔ Agrees other db pattern := by
  unfold deviceServiceWriteResource at written
  obtain ⟨found, internal, rest⟩ := Option.bind_eq_some_iff.mp written
  rw [getResourcesInternal_eq wild] at internal
  obtain ⟨resources, looped, rfl⟩ := Option.map_eq_some_iff.mp internal
  obtain ⟨distinct, exact⟩ := getResourcesByUriRegex_exact labelled looped
  have chosen := writeEach_selected keeps (fun _ => rfl) rest
  rw [List.nil_append] at chosen
  have member (uri : String) : uri ∈ outcome.selected ↔
      ∃ resource, AccessibleResource db uri resource ∧ Finds other pattern uri := by
    rw [chosen, List.mem_filterMap]
    constructor
    · rintro ⟨resource, inside, selected⟩
      obtain ⟨named, accessible⟩ := Option.filter_eq_some_iff.mp selected
      obtain ⟨name, read, finds⟩ := (exact resource).mp inside
      rw [resource_uri labelled read, Option.some.injEq] at named
      subst named
      exact ⟨resource, ⟨read, by simpa using accessible⟩, finds⟩
    · rintro ⟨resource, accessible, finds⟩
      refine ⟨resource, (exact resource).mpr ⟨uri, accessible.1, finds⟩, ?_⟩
      exact Option.filter_eq_some_iff.mpr ⟨resource_uri labelled accessible.1, by simp [accessible.2]⟩
  constructor
  · intro selects uri resource accessible
    have both := (member uri).symm.trans (selects.exact uri)
    constructor
    · exact fun finds => (both.mp ⟨resource, accessible, finds⟩).2
    · intro matched
      obtain ⟨_, _, finds⟩ := both.mpr ⟨⟨resource, accessible⟩, matched⟩
      exact finds
  · intro agrees
    constructor
    · have uris := @map_filterMap_sublist _ _ _ (selectedUri db) some DeviceResource.uri resources
        fun resource _ uri selected => (Option.filter_eq_some_iff.mp selected).1.symm
      rw [← chosen] at uris
      exact (List.Nodup.sublist uris distinct).of_map
    · intro uri
      rw [member]
      constructor
      · rintro ⟨resource, accessible, finds⟩
        exact ⟨⟨resource, accessible⟩, (agrees uri resource accessible).mp finds⟩
      · rintro ⟨⟨resource, accessible⟩, matched⟩
        exact ⟨resource, accessible, (agrees uri resource accessible).mpr matched⟩

end Writes

section Literal
variable {other : String → Option Regex} {db : JsonDatabase} {pattern : String}

/-- Only the star of the pattern has a meaning in a basic regular expression. -/
def Literal (pattern : String) : Prop :=
  Plain pattern ∧ '.' ∉ pattern.toList ∧ pattern.toList.head? ≠ some '^' ∧ pattern.toList.getLast? ≠ some '$'

instance (pattern : String) : Decidable (Literal pattern) := inferInstanceAs (Decidable (_ ∧ _ ∧ _ ∧ _))

/-- A literal pattern is found in the texts with a part that matches the glob. -/
theorem finds_of_literal (literal : Literal pattern) (uri : String) :
    Finds other pattern uri ↔ ∃ part, part <:+: uri.toList ∧ part ∈ glob pattern.toList := by
  obtain ⟨plain, period, start, stop⟩ := literal
  have whole : dropStart pattern.toList = pattern.toList := if_neg start
  have letters : pattern.toList.map letterLanguage = pattern.toList.map globLetter := by
    apply List.map_congr_left
    intro letter member
    have different : letter ≠ '.' := fun same => period (same ▸ member)
    rw [letterLanguage, if_neg different, globLetter]
  have part : partLanguage pattern.toList = anyText * glob pattern.toList * anyText := by
    unfold partLanguage
    rw [whole, if_neg start, if_neg stop, dropEnd, if_neg stop, letters]
    rfl
  rw [Finds, if_pos plain, part, Language.mem_mul]
  constructor
  · rintro ⟨left, inside, after, _, same⟩
    obtain ⟨before, _, middle, matched, joined⟩ := Language.mem_mul.mp inside
    exact ⟨middle, ⟨before, after, by rw [joined, same]⟩, matched⟩
  · rintro ⟨middle, ⟨before, after, same⟩, matched⟩
    exact ⟨before ++ middle, Language.append_mem_mul (mem_anyText before) matched, after, mem_anyText after, same⟩

/-- For a literal pattern the readings agree when every URI with a matching part matches as a whole. -/
theorem agrees_iff_of_literal (literal : Literal pattern) : Agrees other db pattern ↔
    ∀ uri resource part, AccessibleResource db uri resource → part <:+: uri.toList → part ∈ glob pattern.toList →
      Matches pattern uri := by
  constructor
  · intro agrees uri resource part accessible inside matched
    exact (agrees uri resource accessible).mp ((finds_of_literal literal uri).mpr ⟨part, inside, matched⟩)
  · intro whole uri resource accessible
    rw [finds_of_literal literal]
    constructor
    · rintro ⟨part, inside, matched⟩
      exact whole uri resource part accessible inside matched
    · intro matched
      exact ⟨uri.toList, List.infix_rfl, matched⟩

end Literal

/-- In every reachable state a read and a write by a pattern select exactly the accessible resources whose whole URI
matches the pattern as a glob if and only if no found pointer dangles and the two readings of the pattern agree.
For a literal pattern they agree when every accessible URI with a matching part matches as a whole. -/
theorem uriPattern_selects_iff {lib : Library} {other : String → Option Regex} {drivers : DriverManager}
    {storage : Storage} {calls : List (Call × Bool)} {db : JsonDatabase} {pattern : String}
    (reached : Database.run lib (JsonDatabase.empty storage) calls = some db) (wild : isUriPattern pattern = true)
    (contract : Contract lib drivers) :
    ((∃ resources, deviceServiceGetResourcesByUriPattern other db (some pattern) = some (some resources) ∧
        Selects db pattern resources) ↔ Sound other db pattern ∧ Agrees other db pattern) ∧
    (∀ value outcome, deviceServiceWriteResource drivers value other db (some pattern) = some outcome →
      (SelectsUris db pattern outcome.selected ↔ Agrees other db pattern)) ∧
    (Literal pattern → (Agrees other db pattern ↔ ∀ uri resource part, AccessibleResource db uri resource →
      part <:+: uri.toList → part ∈ glob pattern.toList → Matches pattern uri)) := by
  obtain ⟨_, labelled⟩ := run_labelled lib reached
  refine ⟨?_, ?_, agrees_iff_of_literal⟩
  · rw [← getResources_returns labelled wild]
    constructor
    · rintro ⟨resources, returned, selects⟩
      exact ⟨⟨resources, returned⟩, (selects_iff labelled wild returned).mp selects⟩
    · rintro ⟨⟨resources, returned⟩, agrees⟩
      exact ⟨resources, returned, (selects_iff labelled wild returned).mpr agrees⟩
  · intro value outcome written
    exact selectsUris_iff labelled wild contract.keepsAccess written

/-- One resource is stored under the URI `/a/r/on`. -/
def sampleCalls : List (Call × Bool) :=
  [(.addDevice sampleDevice, true), (.addResource (some "/a") { sampleResource with mode := resourceModeWriteable }, true)]

def sampleState : JsonDatabase :=
  (Database.run sampleLibrary (JsonDatabase.empty ∅) sampleCalls).getD (JsonDatabase.empty ∅)

/-- The write of this driver calls `updateResource`. -/
def sampleWrite : WriteResource := fun db resource _ value =>
  (Resources.run sampleLibrary
    ⟨⟨db, [], []⟩, [[.update ⟨resource.deviceUuid, resource.endpointId, resource.id, value, none⟩]]⟩
    [(0, ⟨7, true⟩), (0, ⟨7, true⟩)]).map fun final => (true, final.shared.db)

def sampleManager : DriverManager := fun _ => some ⟨some sampleWrite⟩

theorem sampleManager_contract : Contract sampleLibrary sampleManager := by
  intro name driver write managed provides db resource previous value result next written
  cases managed
  cases provides
  obtain ⟨final, reached, same⟩ := Option.map_eq_some_iff.mp written
  cases same
  exact ⟨_, _, final, reached, rfl⟩

theorem sampleState_resource (uri : String) :
    uri = "/a/r/on" ∨ jsonDatabaseGetResourceByUri sampleState uri = some none := by
  have keys : sampleState.resourcesByUri.keys = ["/a/r/on", "/a"] := rfl
  by_cases known : uri ∈ sampleState.resourcesByUri.keys
  · rw [keys, List.mem_cons, List.mem_singleton] at known
    refine known.imp_right fun device => ?_
    rw [device]
    rfl
  · exact Or.inr (getResourceByUri_of_missing (AList.lookup_eq_none.mpr known))

theorem sampleState_sound (pattern : String) : Sound (fun _ => none) sampleState pattern := by
  intro uri _
  rcases sampleState_resource uri with rfl | nothing
  · have read : (jsonDatabaseGetResourceByUri sampleState "/a/r/on").isSome = true := rfl
    have accessible : jsonDatabaseIsUriAccessible sampleState "/a/r/on" = some true := rfl
    exact ⟨Option.isSome_iff_ne_none.mp read, fun _ _ => by rw [accessible]; exact Option.some_ne_none _⟩
  · rw [nothing]
    exact ⟨Option.some_ne_none _, fun _ found => by cases found⟩

theorem uriPattern_selects_iff_sample : ∃ resources,
    deviceServiceGetResourcesByUriPattern (fun _ => none) sampleState (some "/a/r/*") = some (some resources) ∧
      Selects sampleState "/a/r/*" resources := by
  have reached : Database.run sampleLibrary (JsonDatabase.empty ∅) sampleCalls = some sampleState := rfl
  have selects := @uriPattern_selects_iff _ (fun _ => none) _ _ _ _ "/a/r/*" reached (by decide) sampleManager_contract
  refine selects.1.mpr ⟨sampleState_sound _, (selects.2.2 (by decide)).mpr ?_⟩
  intro uri resource part accessible _ _
  rcases sampleState_resource uri with rfl | nothing
  · rw [matches_iff]
    decide
  · rw [AccessibleResource, nothing] at accessible
    cases accessible.1

/-- The expression of the pattern `*/r/o` finds a part of the URI `/a/r/on`. -/
theorem not_uriPattern_selects : ¬ ∀ (lib : Library) (other : String → Option Regex) (storage : Storage)
    (calls : List (Call × Bool)) (db : JsonDatabase) (pattern : String),
    Database.run lib (JsonDatabase.empty storage) calls = some db → isUriPattern pattern = true →
      ∃ resources, deviceServiceGetResourcesByUriPattern other db (some pattern) = some (some resources) ∧
        Selects db pattern resources := by
  intro claim
  have reached : Database.run sampleLibrary (JsonDatabase.empty ∅) sampleCalls = some sampleState := rfl
  have wild : isUriPattern "*/r/o" = true := by decide
  obtain ⟨resources, returned, selects⟩ := claim sampleLibrary (fun _ => none) ∅ sampleCalls sampleState "*/r/o" reached wild
  obtain ⟨_, labelled⟩ := run_labelled sampleLibrary reached
  have agrees := (selects_iff labelled wild returned).mp selects
  have read : (jsonDatabaseGetResourceByUri sampleState "/a/r/on").join.isSome = true := rfl
  obtain ⟨resource, stored⟩ := Option.isSome_iff_exists.mp read
  have finds : Finds (fun _ => none) "*/r/o" "/a/r/on" :=
    (regcomp_finds _ _ _).mp ⟨_, if_pos (by decide), by decide⟩
  have matched := (agrees "/a/r/on" resource ⟨Option.join_eq_some_iff.mp stored, rfl⟩).mp finds
  rw [matches_iff] at matched
  revert matched
  decide

end Barton.UriPatterns
