import ResponsesBridge.Outbound.Request
import ResponsesBridge.Proofs.Number.Widening

/-!
# What a request cannot ask for

The obstacles of a request are listed in the order in which they are reported (`obstacles`): each is
a condition of the conversation or of one setting, and the failure that says that it does not hold.
A request with an obstacle fails with the first one, and a request without obstacles becomes a body
that carries everything that was asked for (`wireRequest_by_obstacles`).

Steps that can fail are described by the obstacles in their way and by what holds of their result
(`Guarded`). One step behind another has the obstacles of both, in this order (`Guarded.bind`), so
the obstacles of the whole are put together along the definition.
-/

set_option autoImplicit false

namespace ResponsesBridge.Outbound

open Conversation (CallingPolicy Part Settings Schema)
open Wire (AllowedMode InputItem JsonFormat TextConfig ToolChoice)

/-! ## Guarded steps -/

/-- The obstacle of a condition: a failure if the condition does not hold. -/
def demand (condition : Prop) [Decidable condition] (failure : Failure) : Option Failure :=
  if condition then none else some failure

/-- The failure of an outcome. -/
def failureOf {Value : Type} : Except Failure Value → Option Failure
  | .ok _ => none
  | .error failure => some failure

/-- The first obstacle in a list, if there is one. -/
def firstObstacle (obstacles : List (Option Failure)) : Option Failure :=
  obstacles.findSome? id

/-- An outcome is the failure of the first obstacle, and a good value if there is no obstacle. -/
def Guarded {Value : Type} (obstacles : List (Option Failure)) (outcome : Except Failure Value)
    (Good : Value → Prop) : Prop :=
  match firstObstacle obstacles with
  | none => ∃ value, outcome = .ok value ∧ Good value
  | some failure => outcome = .error failure

namespace Guarded

variable {Value Result : Type} {Good : Value → Prop}

theorem done {value : Value} (good : Good value) : Guarded [] (.ok value) Good :=
  ⟨value, rfl, good⟩

/-- An outcome is guarded by its own failure. -/
theorem self (outcome : Except Failure Value) :
    Guarded [failureOf outcome] outcome (outcome = .ok ·) := by
  cases outcome with
  | ok value => exact ⟨value, rfl, rfl⟩
  | error failure => rfl

/-- A condition that holds is no obstacle. -/
theorem free {obstacles : List (Option Failure)} {outcome : Except Failure Value}
    (guarded : Guarded obstacles outcome Good) : Guarded (none :: obstacles) outcome Good :=
  guarded

theorem refuseIf {condition : Prop} [Decidable condition] {asked : Bool} {failure : Failure}
    (opposite : asked = true ↔ ¬condition) :
    Guarded [demand condition failure] (refuseIf asked failure) fun _ => condition := by
  by_cases holds : condition
  · have unasked : asked = false := by simpa [holds] using opposite
    rw [demand, if_pos holds, unasked]
    exact ⟨(), rfl, holds⟩
  · have isAsked : asked = true := opposite.mpr holds
    rw [demand, if_neg holds, isAsked]
    rfl

/-- A step behind another one: first the obstacles of the first step, then those of the second. -/
theorem bind {first second : List (Option Failure)} {outcome : Except Failure Value}
    {next : Value → Except Failure Result} {Good' : Result → Prop}
    (guarded : Guarded first outcome Good)
    (behind : ∀ value, Good value → Guarded second (next value) Good') :
    Guarded (first ++ second) (outcome >>= next) Good' := by
  unfold Guarded at guarded
  have split : firstObstacle (first ++ second) =
      (firstObstacle first).or (firstObstacle second) := List.findSome?_append
  cases found : firstObstacle first with
  | none =>
      rw [found] at guarded
      obtain ⟨value, rfl, good⟩ := guarded
      rw [Guarded, split, found]
      exact behind value good
  | some failure =>
      rw [found] at guarded
      obtain rfl : outcome = .error failure := guarded
      rw [Guarded, split, found]
      rfl

/-- A step with one obstacle in front of others. -/
theorem cons {obstacle : Option Failure} {obstacles : List (Option Failure)}
    {outcome : Except Failure Value} {next : Value → Except Failure Result} {Good' : Result → Prop}
    (guarded : Guarded [obstacle] outcome Good)
    (behind : ∀ value, Good value → Guarded obstacles (next value) Good') :
    Guarded (obstacle :: obstacles) (outcome >>= next) Good' :=
  bind guarded behind

theorem mono {obstacles : List (Option Failure)} {outcome : Except Failure Value}
    {Good' : Value → Prop} (guarded : Guarded obstacles outcome Good)
    (better : ∀ value, Good value → Good' value) : Guarded obstacles outcome Good' := by
  unfold Guarded at guarded ⊢
  split at guarded
  case h_1 =>
    obtain ⟨value, succeeds, good⟩ := guarded
    exact ⟨value, succeeds, better value good⟩
  case h_2 => exact guarded

/-- A value that comes out is good. -/
theorem good {obstacles : List (Option Failure)} {value : Value}
    (guarded : Guarded obstacles (.ok value) Good) : Good value := by
  unfold Guarded at guarded
  split at guarded
  case h_1 =>
    obtain ⟨_, ⟨⟩, good⟩ := guarded
    exact good
  case h_2 => cases guarded

end Guarded

/-! ## The obstacles of a request -/

/-- The parts of the instruction; none without an instruction. -/
def instructionParts (settings : Settings) : List Part :=
  (settings.instruction.map fun instruction => instruction.parts).getD []

/-- The texts of the passages of the instruction. -/
def instructionPassages (settings : Settings) : List String :=
  ((instructionParts settings).filterMap Part.passage?).map fun passage => passage.text

/-- The obstacle of a part of an instruction: it has to be a passage. -/
def notText? (part : Part) : Option Failure :=
  demand part.passage?.isSome (.instructionNotText part.kind)

/-- The JSON form of the schema that the output has to satisfy: the raw one, else the other one. -/
def wantedSchema (settings : Settings) : Option Json.Value :=
  settings.rawSchema.or (settings.schema.map Schema.codec.write)

/-- The calling policy, if there is one. -/
def callingPolicy? (settings : Settings) : Option CallingPolicy :=
  settings.toolUse.bind fun use => use.calling

/-- The obstacle of a calling policy. -/
def notChosen? (policy : CallingPolicy) : Option Failure :=
  demand (policy.mode ≠ .validated) (.callingMode "VALIDATED")

/-- The obstacles of the settings of the generation, in the order in which they are reported. -/
def generationObstacles (settings : Settings) : List (Option Failure) :=
  [demand settings.topK.isNone .topK,
    demand settings.stopSequences.isEmpty .stopSequences,
    demand (settings.candidateCount ≤ 1) .multipleCandidates,
    demand (settings.frequencyPenalty.isNone ∧ settings.presencePenalty.isNone) .penalties,
    (instructionParts settings).findSome? notText?,
    demand (settings.mediaType ∈ ["", "text/plain", "application/json"])
      (.mediaType settings.mediaType),
    demand (settings.mediaType = "application/json" → (wantedSchema settings).isSome)
      .jsonWithoutSchema,
    (wantedSchema settings).bind fun schema => failureOf (schemaFields schema),
    demand settings.labels.isNone .labels,
    demand settings.safety.isNone .safetySettings]

/-- The obstacles of the tools and of the choice among them. -/
def toolObstacles (settings : Settings) : List (Option Failure) :=
  [failureOf (functionTools settings.tools),
    (callingPolicy? settings).bind notChosen?]

/-- The obstacles of settings, in the order in which they are reported. -/
def settingsObstacles (settings : Settings) : List (Option Failure) :=
  generationObstacles settings ++ toolObstacles settings

/-- The obstacle of a conversation that is converted to no items. -/
def noItems? (converted : Except Failure (List InputItem)) : Option Failure :=
  match converted with
  | .ok [] => some .noContents
  | _ => none

/-- The obstacles of a request, in the order in which they are reported. -/
def obstacles (request : Conversation.Request) : List (Option Failure) :=
  failureOf (inputItems request.turns) :: noItems? (inputItems request.turns) ::
    (request.settings.map settingsObstacles).getD []

/-! ## What a body carries -/

/-- The text configuration that the settings ask for: a JSON format under the title of the schema,
or under a general name where the schema has no title. -/
inductive CarriesFormat (settings : Settings) : Option TextConfig → Prop
  | free (unwanted : wantedSchema settings = none) : CarriesFormat settings none
  | json {format : JsonFormat} (wanted : wantedSchema settings = some (.object format.schema))
      (titled : ∀ schema ∈ settings.schema, schema.title ≠ "" → format.name = schema.title)
      (untitled : (∀ schema ∈ settings.schema, schema.title = "") →
        format.name = "relay_response")
      (lenient : format.strict = none) : CarriesFormat settings (some ⟨.json format⟩)

/-- The functions that a calling policy names. -/
def namedFunctions (policy : CallingPolicy) : List String :=
  policy.allowed.filter fun name => !name.isEmpty

/-- The tool choice that a calling policy asks for. -/
inductive CarriesPolicy (policy : CallingPolicy) : Option ToolChoice → Prop
  | forbidden (mode : policy.mode = .none) : CarriesPolicy policy (some (.mode .none))
  | required (mode : policy.mode = .any) (anyFunction : policy.allowed = []) :
      CarriesPolicy policy (some (.mode .required))
  | among {allowed : AllowedMode}
      (mode : policy.mode = .any ∧ allowed = .required ∨
        policy.mode ∈ [.unspecified, .auto] ∧ allowed = .auto)
      (named : namedFunctions policy ≠ []) :
      CarriesPolicy policy (some (.allowed
        { mode := allowed, tools := (namedFunctions policy).map fun name => { name } }))
  /-- The policy restricts nothing, or all names in it are empty. -/
  | free (mode : policy.mode ∈ [.any, .unspecified, .auto])
      (restricted : policy.mode = .any → policy.allowed ≠ [])
      (unnamed : namedFunctions policy = []) : CarriesPolicy policy none

/-- The body carries every setting. -/
structure CarriesSettings (settings : Settings) (body : Wire.Request) : Prop where
  temperature : Option.Rel Floating.Same settings.temperature body.temperature
  topP : Option.Rel Floating.Same settings.topP body.topP
  maxOutputTokens : body.maxOutputTokens =
    if 0 < settings.maxOutputTokens then some settings.maxOutputTokens else none
  topLogProbabilities : body.topLogProbabilities =
    if settings.logProbabilities then some (settings.topLogProbabilities.getD 1) else none
  instructions : body.instructions = nonempty? ("\n".intercalate (instructionPassages settings))
  format : CarriesFormat settings body.text
  tools : functionTools settings.tools = .ok body.tools
  toolChoice : ∀ policy ∈ callingPolicy? settings, CarriesPolicy policy body.toolChoice
  noChoice : callingPolicy? settings = none → body.toolChoice = none

/-- The body carries the whole request, and nothing else. -/
structure Carries (fallback : String) (request : Conversation.Request) (body : Wire.Request) :
    Prop where
  model : body.model = if request.model = "" then fallback else request.model
  input : inputItems request.turns = .ok body.input
  settings : ∀ settings ∈ request.settings, CarriesSettings settings body
  plain : request.settings = none → body = { model := body.model, input := body.input }
  whole : body.stream = none

/-! ## Settings -/

theorem guarded_instructionTexts (parts : List Part) :
    Guarded [parts.findSome? notText?] (instructionTexts parts)
      (· = (parts.filterMap Part.passage?).map fun passage => passage.text) := by
  induction parts with
  | nil => exact .done rfl
  | cons part parts ih =>
      cases passage : part.passage? with
      | none =>
          have obstacle : notText? part = some (.instructionNotText part.kind) := by
            simp [notText?, demand, passage]
          simp only [instructionTexts, passage, List.findSome?_cons, obstacle]
          rfl
      | some content =>
          have free : notText? part = none := by simp [notText?, demand, passage]
          simp only [instructionTexts, passage, List.findSome?_cons, free,
            List.filterMap_cons, List.map_cons]
          exact ih.bind fun later same => .done (same ▸ rfl)

/-- The instruction is read in front of the other steps. -/
theorem guarded_instructed {settings : Settings} {obstacles : List (Option Failure)}
    {Result : Type} {next : Option String → Except Failure Result} {Good : Result → Prop}
    (behind : Guarded obstacles
      (next (nonempty? ("\n".intercalate (instructionPassages settings)))) Good) :
    Guarded ((instructionParts settings).findSome? notText? :: obstacles)
      (match settings.instruction with
        | some instruction => instructionText instruction >>= next
        | none => .ok none >>= next)
      Good := by
  cases given : settings.instruction with
  | none =>
      have parts : instructionParts settings = [] := by simp [instructionParts, given]
      have silent : nonempty? ("\n".intercalate (instructionPassages settings)) = none := by
        rw [instructionPassages, parts]
        rfl
      rw [silent] at behind
      rw [parts]
      exact .free behind
  | some instruction =>
      have parts : instructionParts settings = instruction.parts := by
        simp [instructionParts, given]
      have spoken : Guarded [(instructionParts settings).findSome? notText?]
          (instructionText instruction)
          (· = nonempty? ("\n".intercalate (instructionPassages settings))) := by
        rw [instructionPassages, parts]
        exact (guarded_instructionTexts instruction.parts).bind fun texts same =>
          .done (congrArg (fun texts => nonempty? ("\n".intercalate texts)) same)
      refine spoken.cons ?_
      rintro _ rfl
      exact behind

theorem formatName_titled {settings : Settings} :
    ∀ schema ∈ settings.schema, schema.title ≠ "" → formatName settings = schema.title := by
  intro schema given titled
  simp [formatName, Option.mem_def.mp given, nonempty?, titled]

theorem formatName_untitled {settings : Settings}
    (untitled : ∀ schema ∈ settings.schema, schema.title = "") :
    formatName settings = "relay_response" := by
  cases given : settings.schema with
  | none => simp [formatName, given, defaultFormatName]
  | some schema => simp [formatName, given, untitled schema given, nonempty?, defaultFormatName]

theorem outputSchema_eq (settings : Settings) :
    outputSchema settings =
      (wantedSchema settings).elim (.error .jsonWithoutSchema) schemaFields := by
  rw [outputSchema, wantedSchema]
  split <;> simp [*]

theorem wantsJson_eq (settings : Settings) :
    wantsJson settings =
      (settings.mediaType == "application/json" || (wantedSchema settings).isSome) := by
  rw [wantsJson, wantedSchema, jsonMediaType]
  cases settings.rawSchema <;> cases settings.schema <;> simp

theorem schemaFields_eq_ok {value : Json.Value} {members : Json.Fields}
    (normal : schemaFields value = .ok members) : value = .object members := by
  cases value with
  | object fields => cases normal; rfl
  | null | boolean _ | number _ | text _ | array _ => cases normal

theorem guarded_textConfig (settings : Settings) :
    Guarded
      [demand (settings.mediaType = "application/json" → (wantedSchema settings).isSome)
          .jsonWithoutSchema,
        (wantedSchema settings).bind fun schema => failureOf (schemaFields schema)]
      (textConfig settings) (CarriesFormat settings) := by
  rw [textConfig, wantsJson_eq, outputSchema_eq]
  cases wanted : wantedSchema settings with
  | none =>
      by_cases json : settings.mediaType = "application/json"
      · simp [Guarded, firstObstacle, demand, json]
      · rw [demand, if_pos fun isJson => absurd isJson json, if_neg (by simpa using json)]
        exact .free (.free (.done (.free wanted)))
  | some value =>
      rw [demand, if_pos (fun _ => Option.isSome_some), if_pos (by simp)]
      refine .free ((Guarded.self (schemaFields value)).bind fun members normal => .done ?_)
      rw [schemaFields_eq_ok normal] at wanted
      exact .json wanted formatName_titled formatName_untitled rfl

/-- The request that `settled` makes of a request. -/
def Settles (settings : Settings) (body next : Wire.Request) : Prop :=
  ∃ text, CarriesFormat settings text ∧ next = { body with
    text
    instructions := nonempty? ("\n".intercalate (instructionPassages settings))
    temperature := settings.temperature.map (·.convert .double)
    topP := settings.topP.map (·.convert .double)
    maxOutputTokens :=
      if 0 < settings.maxOutputTokens then some settings.maxOutputTokens else none
    topLogProbabilities :=
      if settings.logProbabilities then some (settings.topLogProbabilities.getD 1) else none }

theorem guarded_settled (settings : Settings) (body : Wire.Request) :
    Guarded (generationObstacles settings) (settled settings body) (Settles settings body) := by
  have penalties : (settings.frequencyPenalty.isSome || settings.presencePenalty.isSome) = true ↔
      ¬(settings.frequencyPenalty.isNone ∧ settings.presencePenalty.isNone) := by
    cases settings.frequencyPenalty <;> simp [Option.isSome_iff_ne_none]
  unfold settled
  refine .cons (.refuseIf (by simp [Option.isSome_iff_ne_none])) fun _ _ => ?_
  refine .cons (.refuseIf (by simp)) fun _ _ => ?_
  refine .cons (.refuseIf (by simp)) fun _ _ => ?_
  refine .cons (.refuseIf penalties) fun _ _ => ?_
  refine guarded_instructed ?_
  refine .cons (.refuseIf (by simp [mediaTypes, jsonMediaType])) fun _ _ => ?_
  refine (guarded_textConfig settings).bind fun text format => ?_
  refine .cons (.refuseIf (by simp [Option.isSome_iff_ne_none])) fun _ _ => ?_
  refine .cons (.refuseIf (by simp [Option.isSome_iff_ne_none])) fun _ _ => ?_
  exact .done ⟨text, format, rfl⟩

/-! ## Tools -/

theorem carriesPolicy_allowedAmong {policy : CallingPolicy} {allowed : AllowedMode}
    (mode : policy.mode = .any ∧ allowed = .required ∨
      policy.mode ∈ [.unspecified, .auto] ∧ allowed = .auto)
    (restricted : policy.mode = .any → policy.allowed ≠ []) :
    CarriesPolicy policy (allowedAmong allowed (namedFunctions policy)) := by
  rw [allowedAmong.eq_def]
  split
  case h_1 unnamed =>
    refine .free ?_ restricted unnamed
    rcases mode with ⟨isAny, -⟩ | ⟨isAuto, -⟩
    · exact isAny ▸ .head _
    · exact .tail _ isAuto
  case h_2 named => exact .among mode named

theorem guarded_policyChoice (policy : CallingPolicy) :
    Guarded [notChosen? policy] (policyChoice policy) (CarriesPolicy policy) := by
  rw [policyChoice, notChosen?]
  cases mode : policy.mode with
  | validated => rfl
  | none => exact .free (.done (.forbidden mode))
  | unspecified | auto =>
      exact .free (.done (carriesPolicy_allowedAmong (by simp [mode]) (by simp [mode])))
  | any =>
      refine .free ?_
      simp only [List.isEmpty_iff]
      split
      case isTrue anyFunction => exact .done (.required mode anyFunction)
      case isFalse restricted =>
        exact .done (carriesPolicy_allowedAmong (.inl ⟨mode, rfl⟩) fun _ => restricted)

/-- The choice among tools is made in front of the other steps. -/
theorem guarded_chosen {settings : Settings} {Result : Type}
    {next : Option ToolChoice → Except Failure Result} {Good : Result → Prop}
    (behind : ∀ choice, (∀ policy ∈ callingPolicy? settings, CarriesPolicy policy choice) →
      (callingPolicy? settings = none → choice = none) → Guarded [] (next choice) Good) :
    Guarded [(callingPolicy? settings).bind notChosen?]
      (match settings.toolUse with
        | some use => toolChoice use >>= next
        | none => .ok none >>= next)
      Good := by
  have unrestricted (unused : callingPolicy? settings = none) : Guarded [] (next none) Good :=
    behind none (by simp [unused]) fun _ => rfl
  cases given : settings.toolUse with
  | none =>
      have unused : callingPolicy? settings = none := by simp [callingPolicy?, given]
      rw [unused]
      exact .free (unrestricted unused)
  | some use =>
      have used : callingPolicy? settings = use.calling := by simp [callingPolicy?, given]
      simp only [toolChoice]
      cases calling : use.calling with
      | none =>
          rw [used, calling]
          exact .free (unrestricted (used.trans calling))
      | some policy =>
          rw [used, calling] at behind ⊢
          refine (guarded_policyChoice policy).cons fun choice carries => behind choice ?_ ?_
          · rintro _ ⟨⟩
            exact carries
          · rintro ⟨⟩

theorem same_map_convert (number : Option Single) :
    Option.Rel Floating.Same number (number.map (·.convert .double)) := by
  cases number with
  | none => exact .none
  | some number => exact .some number.same_convert_double

theorem guarded_configured (settings : Settings) (body : Wire.Request) :
    Guarded (settingsObstacles settings) (configured settings body)
      fun next => CarriesSettings settings next ∧ next.model = body.model ∧
        next.input = body.input ∧ next.stream = body.stream := by
  unfold configured
  refine (guarded_settled settings body).bind ?_
  rintro next ⟨text, format, rfl⟩
  refine (Guarded.self (functionTools settings.tools)).cons fun tools converted => ?_
  refine guarded_chosen fun choice chosen unchosen => .done ⟨?_, rfl, rfl, rfl⟩
  exact {
    temperature := same_map_convert settings.temperature
    topP := same_map_convert settings.topP
    maxOutputTokens := rfl
    topLogProbabilities := rfl
    instructions := rfl
    format
    tools := converted
    toolChoice := chosen
    noChoice := unchosen }

/-! ## The whole request -/

theorem guarded_wireRequest (fallback : String) (request : Conversation.Request) :
    Guarded (obstacles request) (wireRequest fallback request)
      (Carries fallback request) := by
  unfold wireRequest
  refine (Guarded.self (inputItems request.turns)).cons fun input converted => ?_
  have someItems : Guarded [noItems? (inputItems request.turns)]
      (refuseIf input.isEmpty .noContents) fun _ => True := by
    rw [converted]
    cases input with
    | nil => rfl
    | cons item items => exact .free (.done trivial)
  refine someItems.cons fun _ _ => ?_
  have model : (if request.model.isEmpty then fallback else request.model) =
      if request.model = "" then fallback else request.model := by simp
  cases given : request.settings with
  | none =>
      exact .done {
        model
        input := converted
        settings := by simp [given]
        plain := fun _ => rfl
        whole := rfl }
  | some settings =>
      refine (guarded_configured settings _).mono ?_
      rintro body ⟨carries, sameModel, sameInput, whole⟩
      exact {
        model := sameModel.trans model
        input := sameInput ▸ converted
        settings := by
          intro other isOther
          cases given.symm.trans isOther
          exact carries
        plain := by simp [given]
        whole }

/-- **A request fails exactly with its first obstacle.** A request with an obstacle fails with
the failure of the first one; a request without obstacles becomes a body that carries all of it. -/
theorem wireRequest_by_obstacles (fallback : String) (request : Conversation.Request) :
    match firstObstacle (obstacles request) with
    | none => ∃ body, wireRequest fallback request = .ok body ∧ Carries fallback request body
    | some failure => wireRequest fallback request = .error failure :=
  guarded_wireRequest fallback request

/-- Of three obstacles the first one is reported. -/
example : wireRequest "model"
    { turns := [.ofText "user" "Hi"]
      settings := some { mediaType := "text/html", candidateCount := 2, safety := some [] } } =
      .error .multipleCandidates :=
  rfl

end ResponsesBridge.Outbound
