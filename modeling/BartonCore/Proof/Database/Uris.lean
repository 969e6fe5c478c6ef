import BartonCore.Construction.Database.Queries
import BartonCore.Proof.Database.IndexRuns
import BartonCore.ToMathlib.Parsing

namespace Barton.Database

/-- An id is not empty, and it has no slash and no white space. -/
structure PlainId where
  text : String
  present : text ≠ ""
  slash : '/' ∉ text.toList
  space : ∀ letter ∈ text.toList, isspace letter = false

theorem PlainId.letters_inj {first second : PlainId} : first.text.toList = second.text.toList ↔ first = second := by
  rw [String.toList_inj]
  constructor
  · intro same
    cases first
    cases second
    cases same
    rfl
  · exact fun same => congrArg PlainId.text same

section Scans
variable (id : PlainId) (rest : List Char)

theorem PlainId.letters_ne_nil : id.text.toList ≠ [] := by
  rw [Ne, String.toList_eq_nil_iff]
  exact id.present

theorem scanLiteral_append (literal : String) : scanLiteral literal (literal.toList ++ rest) = some rest := by
  rw [scanLiteral, if_pos (List.prefix_append _ _), List.drop_left]

/-- A segment ends before a slash. -/
theorem scanSegment_id : scanSegment (id.text.toList ++ '/' :: rest) = some (id.text, '/' :: rest) := by
  have plain : ∀ letter ∈ id.text.toList, (letter != '/') = true := fun letter member =>
    bne_iff_ne.mpr fun same => id.slash (same ▸ member)
  have run : (id.text.toList ++ '/' :: rest).takeWhile (· != '/') = id.text.toList := by
    rw [List.takeWhile_append_of_pos plain, List.takeWhile_cons_of_neg (by decide), List.append_nil]
  rw [scanSegment, run]
  split
  · rename_i empty
    exact absurd empty id.letters_ne_nil
  · rw [List.drop_left, String.ofList_toList]

theorem scanWord_id : scanWord id.text.toList = some id.text := by
  have start : id.text.toList.dropWhile isspace = id.text.toList := by
    obtain ⟨first, others, letters⟩ := List.exists_cons_of_ne_nil id.letters_ne_nil
    rw [letters, List.dropWhile_cons_of_neg]
    rw [id.space first (letters ▸ List.mem_cons_self)]
    exact Bool.false_ne_true
  have whole : id.text.toList.takeWhile (fun letter => !isspace letter) = id.text.toList := by
    have visible : ∀ letter ∈ id.text.toList, (!isspace letter) = true := fun letter member => by
      rw [id.space letter member, Bool.not_false]
    rw [← List.append_nil id.text.toList, List.takeWhile_append_of_pos visible, List.takeWhile_nil]
  rw [scanWord, start, whole]
  split
  · rename_i empty
    exact absurd empty id.letters_ne_nil
  · rw [String.ofList_toList]

end Scans

section Parse
variable (device : PlainId) (endpoint : Option PlainId) (name : PlainId)

def metadataUri : String := metadataUriCreate (some device.text) (endpoint.map PlainId.text) (some name.text)

theorem metadataUri_device : (metadataUri device none name).toList =
    '/' :: (device.text.toList ++ '/' :: 'm' :: '/' :: name.text.toList) := by
  simp [metadataUri, metadataUriCreate, text]

theorem metadataUri_endpoint (endpoint : PlainId) : (metadataUri device (some endpoint) name).toList =
    '/' :: (device.text.toList ++ '/' :: 'e' :: 'p' :: '/' :: (endpoint.text.toList ++
      '/' :: 'm' :: '/' :: name.text.toList)) := by
  simp [metadataUri, metadataUriCreate, endpointUriCreate, text]

theorem scanDeviceMetadata_uri :
    scanDeviceMetadata (metadataUri device none name) = some ⟨device.text, "", name.text⟩ := by
  have slash (rest : List Char) : scanLiteral "/" ('/' :: rest) = some rest := scanLiteral_append rest "/"
  have marker (rest : List Char) : scanLiteral "/m/" ('/' :: 'm' :: '/' :: rest) = some rest :=
    scanLiteral_append rest "/m/"
  rw [scanDeviceMetadata, metadataUri_device]
  simp only [Option.bind_eq_bind, slash, Option.bind_some, scanSegment_id, marker, scanWord_id]
  rfl

theorem scanEndpointMetadata_uri (endpoint : PlainId) :
    scanEndpointMetadata (metadataUri device (some endpoint) name) =
      some ⟨device.text, endpoint.text, name.text⟩ := by
  have slash (rest : List Char) : scanLiteral "/" ('/' :: rest) = some rest := scanLiteral_append rest "/"
  have between (rest : List Char) : scanLiteral "/ep/" ('/' :: 'e' :: 'p' :: '/' :: rest) = some rest :=
    scanLiteral_append rest "/ep/"
  have marker (rest : List Char) : scanLiteral "/m/" ('/' :: 'm' :: '/' :: rest) = some rest :=
    scanLiteral_append rest "/m/"
  rw [scanEndpointMetadata, metadataUri_endpoint]
  simp only [Option.bind_eq_bind, slash, Option.bind_some, scanSegment_id, between, marker, scanWord_id]
  rfl

/-- The marker of an endpoint is in the URI of root metadata exactly if the device has its name. -/
theorem strstr_deviceMetadata : strstr (metadataUri device none name) endpointMarker = true ↔ device.text = "ep" := by
  have word : '/' ∉ ['e', 'p'] := by decide
  have marker : '/' :: (['e', 'p'] ++ ['/']) = endpointMarker.toList := rfl
  have middle : '/' :: 'm' :: '/' :: name.text.toList = '/' :: (['m'] ++ '/' :: name.text.toList) := rfl
  rw [strstr, decide_eq_true_iff, ← marker, metadataUri_device, Parsing.infix_segment_iff word device.slash, middle,
    Parsing.infix_segment_iff word (by decide), ← String.toList_inj]
  constructor
  · rintro (same | same | inside)
    · exact same.symm
    · exact absurd same (by decide)
    · exact absurd inside (Parsing.not_infix_last name.slash)
  · exact fun same => Or.inl same.symm

theorem strstr_endpointMetadata (endpoint : PlainId) :
    strstr (metadataUri device (some endpoint) name) endpointMarker = true := by
  rw [strstr, decide_eq_true_iff, metadataUri_endpoint]
  refine ⟨'/' :: device.text.toList, endpoint.text.toList ++ '/' :: 'm' :: '/' :: name.text.toList, ?_⟩
  simp [endpointMarker]

/-- The URI of root metadata does not pass the scan for an endpoint. -/
theorem scanEndpointMetadata_marker : scanEndpointMetadata (metadataUri device none name) = none := by
  have slash (rest : List Char) : scanLiteral "/" ('/' :: rest) = some rest := scanLiteral_append rest "/"
  have refused : scanLiteral "/ep/" ('/' :: 'm' :: '/' :: name.text.toList) = none := by
    rw [scanLiteral, if_neg]
    rintro ⟨rest, same⟩
    cases same
  rw [scanEndpointMetadata, metadataUri_device]
  simp only [Option.bind_eq_bind, slash, Option.bind_some, scanSegment_id, refused, Option.bind_none]

/-- The ids are read back unless the device of root metadata has the name of the endpoint marker. -/
theorem parseMetadataUri_iff :
    parseMetadataUri (metadataUri device endpoint name) =
        some ⟨device.text, (endpoint.map PlainId.text).getD "", name.text⟩ ↔
      (endpoint = none → device.text ≠ "ep") := by
  cases endpoint with
  | some endpoint =>
      rw [parseMetadataUri, if_pos (strstr_endpointMetadata device name endpoint), scanEndpointMetadata_uri]
      exact iff_of_true rfl fun same => by cases same
  | none =>
      by_cases named : device.text = "ep"
      · rw [parseMetadataUri, if_pos ((strstr_deviceMetadata device name).mpr named),
          scanEndpointMetadata_marker]
        exact iff_of_false (fun same => by cases same) fun apart => apart rfl named
      · rw [parseMetadataUri, if_neg fun marked => named ((strstr_deviceMetadata device name).mp marked),
          scanDeviceMetadata_uri]
        exact iff_of_true rfl fun _ => named

end Parse

section Objects

/-- The library knows the empty text. -/
structure TextLibrary extends Library where
  none_empty : stringIsEmpty none = true
  some_empty : ∀ text, stringIsEmpty (some text) = decide (text = "")

/-- These objects have a URI. -/
inductive UriObject where
  | device (uuid : PlainId)
  | endpoint (owner id : PlainId)
  | resource (owner : PlainId) (place : Option PlainId) (id : PlainId)
  | metadata (owner : PlainId) (place : Option PlainId) (id : PlainId)

/-- The URI of a device is its id behind a slash. -/
def UriObject.uri (lib : TextLibrary) : UriObject → String
  | .device uuid => "/" ++ text (some uuid.text)
  | .endpoint owner id => endpointUriCreate (some owner.text) (some id.text)
  | .resource owner place id =>
      resourceUriCreate lib.toLibrary (some owner.text) (place.map PlainId.text) (some id.text)
  | .metadata owner place id => metadataUri owner place id

/-- The fixed words stand between the ids. -/
def UriObject.segments : UriObject → List (List Char)
  | .device uuid => [uuid.text.toList]
  | .endpoint owner id => [owner.text.toList, ['e', 'p'], id.text.toList]
  | .resource owner none id => [owner.text.toList, ['r'], id.text.toList]
  | .resource owner (some place) id => [owner.text.toList, ['e', 'p'], place.text.toList, ['r'], id.text.toList]
  | .metadata owner none id => [owner.text.toList, ['m'], id.text.toList]
  | .metadata owner (some place) id => [owner.text.toList, ['e', 'p'], place.text.toList, ['m'], id.text.toList]

/-- A URI is its segments, each behind a slash. -/
theorem UriObject.uri_segments (lib : TextLibrary) (object : UriObject) :
    (object.uri lib).toList = ['/'].intercalate ([] :: object.segments) := by
  cases object with
  | device uuid => simp [uri, segments, text]
  | endpoint owner id => simp [uri, segments, endpointUriCreate, text]
  | resource owner place id =>
      cases place with
      | none => simp [uri, segments, resourceUriCreate, lib.none_empty, text]
      | some place => simp [uri, segments, resourceUriCreate, lib.some_empty, place.present, endpointUriCreate, text]
  | metadata owner place id =>
      cases place with
      | none => simp [uri, segments, metadataUri, metadataUriCreate, text]
      | some place => simp [uri, segments, metadataUri, metadataUriCreate, endpointUriCreate, text]

theorem UriObject.segments_slash (object : UriObject) : ∀ segment ∈ object.segments, '/' ∉ segment := by
  cases object with
  | device uuid => simp [segments, uuid.slash]
  | endpoint owner id => simp [segments, owner.slash, id.slash]
  | resource owner place id | metadata owner place id =>
      cases place with
      | none => simp [segments, owner.slash, id.slash]
      | some place => simp [segments, owner.slash, place.slash, id.slash]

/-- The number of the segments and the fixed words tell the kinds apart, whatever the ids are. -/
theorem UriObject.segments_injective : Function.Injective UriObject.segments := by
  rintro (_ | _ | ⟨_, _ | _, _⟩ | ⟨_, _ | _, _⟩) (_ | _ | ⟨_, _ | _, _⟩ | ⟨_, _ | _, _⟩) same <;>
    simp [segments, PlainId.letters_inj] at same ⊢ <;> exact same

/-- Two objects never share a URI. -/
theorem UriObject.uri_injective (lib : TextLibrary) : Function.Injective (UriObject.uri lib) := by
  intro first second same
  have plain (object : UriObject) : ∀ segment ∈ [] :: object.segments, '/' ∉ segment := by
    intro segment member
    rcases List.mem_cons.mp member with rfl | inside
    · exact List.not_mem_nil
    · exact object.segments_slash segment inside
  have letters := congrArg String.toList same
  rw [uri_segments, uri_segments] at letters
  have parts := congrArg (List.splitOn '/') letters
  rw [List.splitOn_intercalate '/' (plain first) (List.cons_ne_nil _ _),
    List.splitOn_intercalate '/' (plain second) (List.cons_ne_nil _ _)] at parts
  exact segments_injective (List.cons.inj parts).2

/-- No two objects share a URI, and the ids of a metadata item are read back from its URI, exactly unless it belongs to
the root of a device that has the name of the endpoint marker. -/
theorem uris_iff (owner : PlainId) (place : Option PlainId) (id : PlainId) (lib : TextLibrary) :
    (parseMetadataUri (metadataUri owner place id) = some ⟨owner.text, (place.map PlainId.text).getD "", id.text⟩ ↔
      (place = none → owner.text ≠ "ep")) ∧ Function.Injective (UriObject.uri lib) :=
  ⟨parseMetadataUri_iff owner place id, UriObject.uri_injective lib⟩

/-- This id is the marker of an endpoint. -/
def markerId : PlainId where
  text := "ep"
  present := by decide
  slash := by decide
  space := by
    intro letter member
    rcases List.mem_pair.mp member with rfl | rfl
    · rfl
    · rfl

def sampleTexts : TextLibrary where
  toLibrary := sampleLibrary
  none_empty := rfl
  some_empty _ := rfl

/-- The URI of endpoint metadata is read back when all its ids are the marker, and no resource shares it. -/
theorem uris_iff_marker :
    parseMetadataUri (metadataUri markerId (some markerId) markerId) = some ⟨"ep", "ep", "ep"⟩ ∧
      UriObject.uri sampleTexts (.metadata markerId (some markerId) markerId) ≠
        UriObject.uri sampleTexts (.resource markerId (some markerId) markerId) := by
  obtain ⟨parsed, injective⟩ := uris_iff markerId (some markerId) markerId sampleTexts
  refine ⟨parsed.mpr fun root => absurd root (Option.some_ne_none _), ?_⟩
  intro same
  cases injective same

theorem not_uris :
    ¬ ((∀ (owner : PlainId) (place : Option PlainId) (id : PlainId),
      parseMetadataUri (metadataUri owner place id) = some ⟨owner.text, (place.map PlainId.text).getD "", id.text⟩) ∧
      ∀ lib : TextLibrary, Function.Injective (UriObject.uri lib)) := by
  intro claim
  have refused : parseMetadataUri (metadataUri markerId none markerId) = none := by decide +kernel
  rw [claim.1 markerId none markerId] at refused
  cases refused

end Objects
end Barton.Database
