import ResponsesBridge.Proofs.Url.Steps
import ResponsesBridge.Service.Model

/-!
# Where requests go

The endpoint of a model is the text of the base with one more step at its end. That is meant to
lengthen the path, but the end of the text is the end of the path only where the base has no query
and no fragment (`endpoint_by_base`): a step behind these changes them, and the path stays that of
the base (`endpoint_in_query`).

In every case the endpoint is cut into the parts of the longer base, and it is read as the base with
that step.
-/

set_option autoImplicit false

namespace ResponsesBridge.Service

open Settings (Configuration Connection)

/-- The step that leads from a base to the endpoint. -/
def responsesStep : String := "responses"

theorem isStep_responsesStep : Url.IsStep responsesStep where
  name := ⟨Url.clear_of_all (by decide), Url.clear_of_all (by decide), by decide⟩
  query := Url.clear_of_all (by decide)

/-! ## Bases -/

/-- The address of the service where none is configured. -/
def defaultUrl : Url where
  scheme := "https"
  authority := some { host := .name "api.openai.com" }
  path := .segments ["v1"]

theorem toText_defaultUrl : defaultUrl.toText = defaultBase := by decide

theorem written_defaultUrl : defaultUrl.Written where
  scheme := .inr rfl
  authority := by
    refine ⟨_, rfl, by simp, by simp, ?_⟩
    exact ⟨by decide, List.all_eq_true.mp (by decide)⟩
  path := by
    refine ⟨_, rfl, List.cons_ne_nil _ _, ?_⟩
    intro name member
    obtain rfl := List.mem_singleton.mp member
    exact ⟨Url.clear_of_all (by decide), Url.clear_of_all (by decide), by decide⟩
  query := nofun
  fragment := nofun

/-- The base of a connection. -/
def baseOf (connection : Connection) : Url := connection.baseUrl.getD defaultUrl

/-- The base of a valid configuration is an address of the web. -/
theorem written_baseOf {configuration : Configuration} (valid : configuration.validate = .ok ())
    (accepted : ∀ base ∈ configuration.connection.baseUrl, ∃ text, Url.ofText? text = some base) :
    (baseOf configuration.connection).Written := by
  rw [baseOf]
  rw [Configuration.validate] at valid
  split at valid
  · cases valid
  · split at valid
    · rename_i absent
      rw [absent]
      exact written_defaultUrl
    · rename_i base given
      split at valid
      · rename_i web
        obtain ⟨text, reads⟩ := accepted base given
        rw [given]
        exact Url.written_ofText? reads web
      · cases valid

/-- The endpoint is the base with one more step. -/
theorem endpointOf_eq (connection : Connection) :
    endpointOf connection.baseUrl = Url.stepBehind responsesStep (baseOf connection).toText := by
  have text : (connection.baseUrl.map Url.toText).getD defaultBase =
      (baseOf connection).toText := by
    rw [baseOf, ← toText_defaultUrl]
    cases connection.baseUrl <;> rfl
  rw [endpointOf, text, ← String.toList_inj, Url.toList_stepBehind]
  simp [withoutSlashes, List.rdropWhile, responsesStep]

/-! ## Endpoints -/

/-- What an endpoint is meant to be. Up to its first mark it is the base with one more name at the
end of its path, without the slashes there, and its query is that of the base. -/
structure Extends (base : Url) (endpoint : String) : Prop where
  front : (Url.splitTail endpoint.toList).1 =
    (base.scheme ++ ":" ++ (base.authority.map Url.Authority.toText).getD "" ++
      withoutSlashes base.path.toText ++ "/responses").toList
  query : (Url.splitTail endpoint.toList).2.1 = base.query.map String.toList

/-- What an endpoint is: the text of the base with one more step at its end. -/
structure Assembled (base : Url) (endpoint : String) : Prop where
  text : endpoint = (base.stepped responsesStep).toText
  parts : Url.splitTail endpoint.toList =
    ((base.stepped responsesStep).frontText.toList,
      (base.stepped responsesStep).query.map String.toList,
      (base.stepped responsesStep).fragment.map String.toList)
  extends_iff : Extends base endpoint ↔ base.query = none ∧ base.fragment = none
  reads : Url.ofText? endpoint = (Url.ofText? base.toText).map (Url.stepped responsesStep)

/-- The front that is meant is that of the base with one more step. -/
theorem meantFront_eq {base : Url} (written : base.Written) :
    base.scheme ++ ":" ++ (base.authority.map Url.Authority.toText).getD "" ++
      withoutSlashes base.path.toText ++ "/responses" =
        Url.stepBehind responsesStep base.frontText := by
  obtain ⟨authority, given, -⟩ := written.authority
  obtain ⟨names, named, settled⟩ := written.path
  have path : (base.path.below responsesStep).toText =
      withoutSlashes base.path.toText ++ "/responses" := by
    rw [named, Url.toText_below settled, ← String.toList_inj, Url.toList_stepBehind]
    simp [withoutSlashes, List.rdropWhile, responsesStep]
  rw [← written.frontText_below, Url.frontText, Url.hierarchyText, given, path]
  simp [String.append_assoc]

/-- The text of a base with one more step is meant only where the path is the last part. -/
theorem extends_iff {base : Url} (written : base.Written) :
    Extends base (base.stepped responsesStep).toText ↔
      base.query = none ∧ base.fragment = none := by
  have parts := (written.stepped isStep_responsesStep).splitTail
  have seen : Url.stepBehind responsesStep base.frontText ≠ base.frontText :=
    Url.stepBehind_ne (List.mem_cons_self) (by decide) _
  constructor
  · rintro ⟨front, -⟩
    rw [parts, meantFront_eq written, String.toList_inj] at front
    cases last : base.fragment with
    | some fragment =>
        rw [Url.frontText_stepped_of_fragment last] at front
        exact absurd front.symm seen
    | none =>
        cases bare : base.query with
        | some query =>
            rw [Url.frontText_stepped_of_query last bare] at front
            exact absurd front.symm seen
        | none => exact ⟨rfl, rfl⟩
  · rintro ⟨bare, last⟩
    rw [Url.stepped_of_path last bare] at parts ⊢
    refine ⟨?_, ?_⟩
    · rw [parts, meantFront_eq written, written.frontText_below]
    · rw [parts]

/-- **The endpoint of a model** is the text of the base with one more step. -/
theorem endpoint_by_base {name key : String} {configuration : Configuration} (named : name ≠ "")
    (given : configuration.connection.apiKey = some key) (filled : key ≠ "")
    (valid : configuration.validate = .ok ())
    (accepted : ∀ base ∈ configuration.connection.baseUrl, ∃ text, Url.ofText? text = some base) :
    ∃ model, Model.ofConnection name configuration.connection = .ok model ∧
      Assembled (baseOf configuration.connection) model.endpoint := by
  have written := written_baseOf valid accepted
  have unnamed : name.isEmpty = false := by simpa using named
  have paid : given? configuration.connection.apiKey = some key := by
    simp [given?, given, Option.filter, filled]
  have made : Model.ofConnection name configuration.connection = .ok {
      name
      endpoint := endpointOf configuration.connection.baseUrl
      apiKey := key
      organization := given? configuration.connection.organization
      project := given? configuration.connection.project } := by
    rw [Model.ofConnection, unnamed, paid]
    rfl
  have stepped : endpointOf configuration.connection.baseUrl =
      ((baseOf configuration.connection).stepped responsesStep).toText := by
    rw [endpointOf_eq, written.toText_stepped]
  refine ⟨_, made, ?_⟩
  rw [stepped]
  refine ⟨rfl, ?_, extends_iff written, ?_⟩
  · exact (written.stepped isStep_responsesStep).splitTail
  · rw [written.toText_stepped]
    exact Url.ofText?_stepped written isStep_responsesStep

/-- A valid configuration with a base. -/
def configurationAt (base : Url) : Configuration where
  connection := { model := "model", apiKey := some "key", baseUrl := some base }

/-- The base of `http://[::1]:9000/v1//`. -/
def localBase : Url where
  scheme := "http"
  authority := some { host := .longAddress [0, 0, 0, 0, 0, 0, 0, 1], port := some 9000 }
  path := .segments ["v1", "", ""]

/-- The base of `https://[::1]/v1/?version=1`. -/
def versionedBase : Url where
  scheme := "https"
  authority := some { host := .longAddress [0, 0, 0, 0, 0, 0, 0, 1] }
  path := .segments ["v1", ""]
  query := some "version=1"

theorem ofText?_localBase : Url.ofText? "http://[::1]:9000/v1//" = some localBase := rfl

theorem ofText?_versionedBase :
    Url.ofText? "https://[::1]/v1/?version=1" = some versionedBase := rfl

theorem endpoint_by_base_local :
    (∃ model, Model.ofConnection "model" (configurationAt localBase).connection = .ok model ∧
      model.endpoint = "http://[::1]:9000/v1/responses" ∧ Extends localBase model.endpoint ∧
      Url.ofText? model.endpoint = some { localBase with path := .segments ["v1", "responses"] }) ∧
    ∃ model, Model.ofConnection "model" (configurationAt versionedBase).connection = .ok model ∧
      model.endpoint = "https://[::1]/v1/?version=1/responses" ∧
      Url.ofText? model.endpoint =
        some { versionedBase with query := some "version=1/responses" } := by
  have plain := @endpoint_by_base "model" "key" (configurationAt localBase) (by decide) rfl
    (by decide) rfl (by rintro _ ⟨⟩; exact ⟨_, ofText?_localBase⟩)
  have versioned := @endpoint_by_base "model" "key" (configurationAt versionedBase) (by decide) rfl
    (by decide) rfl (by rintro _ ⟨⟩; exact ⟨_, ofText?_versionedBase⟩)
  refine ⟨?_, ?_⟩
  · obtain ⟨model, made, assembled⟩ := plain
    have text : model.endpoint = "http://[::1]:9000/v1/responses" := assembled.text.trans rfl
    have reads : Url.ofText? (baseOf (configurationAt localBase).connection).toText =
        some localBase := rfl
    refine ⟨model, made, text, assembled.extends_iff.mpr ⟨rfl, rfl⟩, ?_⟩
    rw [assembled.reads, reads]
    rfl
  · obtain ⟨model, made, assembled⟩ := versioned
    have text : model.endpoint = "https://[::1]/v1/?version=1/responses" :=
      assembled.text.trans rfl
    have reads : Url.ofText? (baseOf (configurationAt versionedBase).connection).toText =
        some versionedBase := rfl
    refine ⟨model, made, text, ?_⟩
    rw [assembled.reads, reads]
    rfl

/-- A base with a query keeps its path: the step ends up in the query. -/
theorem endpoint_in_query :
    (configurationAt versionedBase).validate = .ok () ∧
    (∃ text, Url.ofText? text = some versionedBase) ∧
    ∃ model, Model.ofConnection "model" (configurationAt versionedBase).connection = .ok model ∧
      model.endpoint = "https://[::1]/v1/?version=1/responses" ∧
      ¬ Extends versionedBase model.endpoint := by
  refine ⟨rfl, ⟨_, ofText?_versionedBase⟩, _, rfl, rfl, ?_⟩
  rintro ⟨front, -⟩
  exact absurd front (by decide)

end ResponsesBridge.Service
