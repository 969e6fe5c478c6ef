import BartonCore.Construction.DeviceService.Lifecycle

namespace Barton.Lifecycle
open Database

section Definitions

/-- The first resource with the id has the value. -/
def Holds (id : String) (value : Option String) (resources : List DeviceResource) : Prop :=
  (resources.find? fun resource => resource.id = some id).map DeviceResource.value = some value

/-- There is a resource with the id. -/
def hasResource (id : String) (resources : List DeviceResource) : Bool :=
  resources.any fun resource => resource.id = some id

/-- The resources without the values of one id. -/
def blank (id : String) (resources : List DeviceResource) : List DeviceResource :=
  resources.map fun resource => if resource.id = some id then { resource with value := none } else resource

/-- The endpoint without its metadata and its label. -/
def blankEndpoint (endpoint : DeviceEndpoint) : DeviceEndpoint :=
  { endpoint with metadata := [], resources := blank "label" endpoint.resources }

/-- The tree without its metadata, its labels, and its date. -/
def blankDevice (device : DeviceRecord) : DeviceRecord :=
  { device with
    metadata := []
    resources := blank "dateAdded" device.resources
    endpoints := device.endpoints.map blankEndpoint }

end Definitions

section Resources
variable {id : String} {value : Option String} {resources : List DeviceResource}

theorem yoinkResource_holds (has : hasResource id resources = true) :
    Holds id value (yoinkResource id value resources).2 := by
  unfold Holds
  induction resources with
  | nil => cases has
  | cons resource rest ih =>
      rw [yoinkResource]
      by_cases same : resource.id = some id
      · simp [same]
      · have later : hasResource id rest = true := by
          simpa [hasResource, same] using has
        simp only [same, ↓reduceIte]
        rw [List.find?_cons_of_neg (by simpa using same)]
        exact ih later

theorem blank_yoinkResource (resources : List DeviceResource) :
    blank id (yoinkResource id value resources).2 = blank id resources := by
  unfold blank
  induction resources with
  | nil => rfl
  | cons resource rest ih =>
      rw [yoinkResource]
      by_cases same : resource.id = some id
      · simp [same]
      · simp only [same, ↓reduceIte, List.map_cons]
        rw [ih]

theorem setUrisOnResources_holds (baseUri : String) (holds : Holds id value resources) :
    Holds id value (setUrisOnResources baseUri resources) := by
  unfold Holds setUrisOnResources at *
  rw [List.find?_map, Option.map_map]
  exact holds

end Resources

section Endpoints
variable {id : Option String} {metadata : List DeviceMetadata} {label : Option (Option String)}
  {endpoints after : List DeviceEndpoint}

/-- The matching endpoint takes the metadata and the label. -/
def yoinkedEndpoint (metadata : List DeviceMetadata) (label : Option (Option String))
    (endpoint : DeviceEndpoint) : DeviceEndpoint :=
  { endpoint with
    metadata := metadata
    resources := ((label.map fun value => yoinkResource "label" value endpoint.resources).map
      Prod.snd).getD endpoint.resources }

theorem blankEndpoint_yoinked (endpoint : DeviceEndpoint) :
    blankEndpoint (yoinkedEndpoint metadata label endpoint) = blankEndpoint endpoint := by
  unfold blankEndpoint yoinkedEndpoint
  cases label with
  | none => rfl
  | some value =>
      simp only [Option.map_some, Option.getD_some]
      rw [blank_yoinkResource]

/-- The first endpoint with the id takes everything, and the search goes on with what is left. -/
theorem yoinkEndpoint_cons (endpoint : DeviceEndpoint) (rest : List DeviceEndpoint) :
    ∃ left, yoinkEndpoint id metadata label (endpoint :: rest) =
      if endpoint.id = id then
        (true, yoinkedEndpoint metadata label endpoint :: (yoinkEndpoint id [] left rest).2)
      else ((yoinkEndpoint id metadata label rest).1, endpoint :: (yoinkEndpoint id metadata label rest).2) := by
  refine ⟨(label.map fun value => yoinkResource "label" value endpoint.resources).map Prod.fst, ?_⟩
  rw [yoinkEndpoint]
  by_cases same : endpoint.id = id
  · rw [if_pos same, if_pos same]
    rfl
  · rw [if_neg same, if_neg same]

/-- The new endpoints keep everything but metadata and labels. -/
theorem blank_yoinkEndpoint (id : Option String) (metadata : List DeviceMetadata)
    (label : Option (Option String)) (endpoints : List DeviceEndpoint) :
    (yoinkEndpoint id metadata label endpoints).2.map blankEndpoint = endpoints.map blankEndpoint := by
  induction endpoints generalizing metadata label with
  | nil => rfl
  | cons endpoint rest ih =>
      obtain ⟨left, step⟩ := @yoinkEndpoint_cons id metadata label endpoint rest
      rw [step]
      by_cases same : endpoint.id = id
      · rw [if_pos same, List.map_cons, List.map_cons, ih, blankEndpoint_yoinked]
      · rw [if_neg same, List.map_cons, List.map_cons, ih]

/-- An endpoint with another id is not touched. -/
theorem mem_yoinkEndpoint_of_ne {endpoint : DeviceEndpoint} (member : endpoint ∈ endpoints)
    (other : endpoint.id ≠ id) : endpoint ∈ (yoinkEndpoint id metadata label endpoints).2 := by
  induction endpoints generalizing metadata label with
  | nil => cases member
  | cons first rest ih =>
      obtain ⟨left, step⟩ := @yoinkEndpoint_cons id metadata label first rest
      rw [step]
      by_cases same : first.id = id
      · rw [if_pos same]
        rcases List.mem_cons.mp member with rfl | later
        · exact absurd same other
        · exact List.mem_cons_of_mem _ (ih later)
      · rw [if_neg same]
        rcases List.mem_cons.mp member with rfl | later
        · exact List.mem_cons_self
        · exact List.mem_cons_of_mem _ (ih later)

/-- A new endpoint with the id gets the metadata and the label. -/
theorem yoinkEndpoint_matched (matched : (yoinkEndpoint id metadata label endpoints).1 = true)
    (places : label.isSome = true → ∀ endpoint ∈ endpoints, endpoint.id = id →
      hasResource "label" endpoint.resources = true) :
    ∃ endpoint ∈ (yoinkEndpoint id metadata label endpoints).2,
      endpoint.id = id ∧ endpoint.metadata = metadata ∧
      ∀ value ∈ label, Holds "label" value endpoint.resources := by
  induction endpoints with
  | nil => cases matched
  | cons first rest ih =>
      obtain ⟨left, step⟩ := @yoinkEndpoint_cons id metadata label first rest
      rw [step] at matched ⊢
      by_cases same : first.id = id
      · rw [if_pos same]
        refine ⟨_, List.mem_cons_self, same, rfl, ?_⟩
        intro value given
        rw [Option.mem_def] at given
        subst given
        exact yoinkResource_holds (places rfl first List.mem_cons_self same)
      · rw [if_neg same] at matched ⊢
        obtain ⟨endpoint, member, facts⟩ := ih matched fun given endpoint inside =>
          places given endpoint (List.mem_cons_of_mem _ inside)
        exact ⟨endpoint, List.mem_cons_of_mem _ member, facts⟩

end Endpoints

end Barton.Lifecycle
