import ResponsesBridge.Outbound.Request
import ResponsesBridge.Proofs.Conversation.Requests

/-!
# The body of a request that was written and read

A request may be stored as JSON before it is sent. What is read of it has lost its free-form values
that were present as `null` (`Conversation.Request.rereads`), and the conversion to a body looks at
some of these: at the first capability of a tool, at the raw schemas that are in use, and at the
defaults inside a schema that is in use. A request that shows no `null` in such a place is sent as
before it was stored (`stored_request_sent`).

A `null` in such a place may make the difference between a request that is refused and one that is
sent, which is then sent without the capability or the schema (`null_capability_lost`).
-/

set_option autoImplicit false

namespace ResponsesBridge

open Conversation (Declaration Tool Settings)
open Json (Codec Value)

/-! ## Nulls that are looked at -/

/-- No `null` stands for the parameters of a declaration or in their schema. A raw schema behind
another one is not looked at. -/
structure Conversation.Declaration.ShowsNoNull (declaration : Declaration) : Prop where
  parameters : ∀ schema ∈ declaration.parameters, schema.HoldsNoNull
  rawParameters : declaration.parameters = none → declaration.rawParameters ≠ some .null

/-- The first capability of a tool is not `null`; without a capability its declarations show no
`null`. -/
structure Conversation.Tool.ShowsNoNull (tool : Tool) : Prop where
  capability : ∀ first ∈ tool.capabilities.find? fun capability => capability.2.isSome,
    first.2 ≠ some .null
  declarations : tool.capability? = none →
    ∀ declaration ∈ tool.declarations, declaration.ShowsNoNull

/-- No `null` stands for the schema of the output or in it, and the tools show none. A schema behind
a raw one is not looked at. -/
structure Conversation.Settings.ShowsNoNull (settings : Settings) : Prop where
  rawSchema : settings.rawSchema ≠ some .null
  schema : settings.rawSchema = none → ∀ schema ∈ settings.schema, schema.HoldsNoNull
  tools : ∀ tool ∈ settings.tools, tool.ShowsNoNull

namespace Outbound

/-! ## Tools -/

theorem map_withoutNulls {schema : Option Conversation.Schema}
    (unseen : ∀ content ∈ schema, content.HoldsNoNull) :
    schema.map Conversation.Schema.withoutNulls = schema := by
  cases schema with
  | none => rfl
  | some content =>
      exact congrArg some (Conversation.Schema.withoutNulls_of_holdsNoNull (unseen content rfl))

theorem parameterFields_withoutNulls {declaration : Declaration}
    (unseen : declaration.ShowsNoNull) :
    parameterFields declaration.withoutNulls = parameterFields declaration := by
  have parameters : declaration.withoutNulls.parameters = declaration.parameters :=
    map_withoutNulls unseen.parameters
  have rawParameters : declaration.withoutNulls.rawParameters =
      Codec.unlessNull declaration.rawParameters := rfl
  rw [parameterFields, parameterFields, parameters, rawParameters]
  cases given : declaration.parameters with
  | some schema => rfl
  | none => rw [Codec.unlessNull_of_ne (unseen.rawParameters given)]

theorem functionTool_withoutNulls {declaration : Declaration} (unseen : declaration.ShowsNoNull)
    (tool index : Nat) :
    functionTool tool index declaration.withoutNulls = functionTool tool index declaration := by
  rw [functionTool, functionTool, parameterFields_withoutNulls unseen]
  rfl

theorem declaredTools_withoutNulls {declarations : List Declaration}
    (unseen : ∀ declaration ∈ declarations, declaration.ShowsNoNull) (tool index : Nat) :
    declaredTools tool index (declarations.map Declaration.withoutNulls) =
      declaredTools tool index declarations := by
  induction declarations generalizing index with
  | nil => rfl
  | cons declaration declarations ih =>
      obtain ⟨first, later⟩ := List.forall_mem_cons.mp unseen
      rw [List.map_cons, declaredTools, declaredTools, functionTool_withoutNulls first, ih later]

/-- The name of the first capability stays if it is not `null`. -/
theorem find_unlessNull {capabilities : List (String × Option Value)}
    (present : ∀ first ∈ capabilities.find? fun capability => capability.2.isSome,
      first.2 ≠ some .null) :
    ((capabilities.map fun capability => (capability.1, Codec.unlessNull capability.2)).find?
        fun capability => capability.2.isSome).map Prod.fst =
      (capabilities.find? fun capability => capability.2.isSome).map Prod.fst := by
  induction capabilities with
  | nil => rfl
  | cons capability capabilities ih =>
      obtain ⟨name, value⟩ := capability
      cases value with
      | none => exact ih present
      | some content =>
          have kept : Codec.unlessNull (some content) = some content :=
            Codec.unlessNull_of_ne (present (name, some content) rfl)
          simp only [List.map_cons, kept, List.find?_cons, Option.isSome_some]

theorem capability_withoutNulls {tool : Tool} (unseen : tool.ShowsNoNull) :
    tool.withoutNulls.capability? = tool.capability? :=
  find_unlessNull unseen.capability

theorem toolFunctions_withoutNulls {tool : Tool} (unseen : tool.ShowsNoNull) (index : Nat) :
    toolFunctions index tool.withoutNulls = toolFunctions index tool := by
  have declarations : tool.withoutNulls.declarations =
      tool.declarations.map Declaration.withoutNulls := rfl
  rw [toolFunctions, toolFunctions, capability_withoutNulls unseen, declarations]
  cases switchedOn : tool.capability? with
  | some capability => rfl
  | none =>
      have same := declaredTools_withoutNulls (unseen.declarations switchedOn) index 0
      simp only [List.isEmpty_map, same]

theorem functionToolsFrom_withoutNulls {tools : List Tool}
    (unseen : ∀ tool ∈ tools, tool.ShowsNoNull) (index : Nat) :
    functionToolsFrom index (tools.map Tool.withoutNulls) = functionToolsFrom index tools := by
  induction tools generalizing index with
  | nil => rfl
  | cons tool tools ih =>
      obtain ⟨first, later⟩ := List.forall_mem_cons.mp unseen
      rw [List.map_cons, functionToolsFrom, functionToolsFrom, toolFunctions_withoutNulls first,
        ih later]

/-! ## Settings -/

/-- The title of a schema does not depend on defaults. -/
theorem formatName_withoutNulls (settings : Settings) :
    formatName settings.withoutNulls = formatName settings := by
  have schema : settings.withoutNulls.schema =
      settings.schema.map Conversation.Schema.withoutNulls := rfl
  rw [formatName, formatName, schema]
  cases settings.schema with
  | none => rfl
  | some content =>
      rw [Option.map_some, Option.map_some, Conversation.Schema.withoutNulls_eq, Option.map_some]

theorem textConfig_withoutNulls {settings : Settings} (unseen : settings.ShowsNoNull) :
    textConfig settings.withoutNulls = textConfig settings := by
  have rawSchema : settings.withoutNulls.rawSchema = settings.rawSchema :=
    Codec.unlessNull_of_ne unseen.rawSchema
  have schema : settings.withoutNulls.schema =
      settings.schema.map Conversation.Schema.withoutNulls := rfl
  have mediaType : settings.withoutNulls.mediaType = settings.mediaType := rfl
  have wanted : wantsJson settings.withoutNulls = wantsJson settings := by
    rw [wantsJson, wantsJson, rawSchema, schema, mediaType, Option.isSome_map]
  have output : outputSchema settings.withoutNulls = outputSchema settings := by
    rw [outputSchema, outputSchema, rawSchema, schema]
    cases given : settings.rawSchema with
    | some raw => rfl
    | none => rw [map_withoutNulls (unseen.schema given)]
  rw [textConfig, textConfig, wanted, output, formatName_withoutNulls]

theorem configured_withoutNulls {settings : Settings} (unseen : settings.ShowsNoNull)
    (body : Wire.Request) :
    configured settings.withoutNulls body = configured settings body := by
  have settledAlike : settled settings.withoutNulls body = settled settings body := by
    rw [settled, settled, textConfig_withoutNulls unseen]
    rfl
  have tools : functionTools settings.withoutNulls.tools = functionTools settings.tools :=
    functionToolsFrom_withoutNulls unseen.tools 0
  rw [configured, configured, settledAlike, tools]
  rfl

theorem wireRequest_withoutNulls {request : Conversation.Request}
    (unseen : ∀ settings ∈ request.settings, settings.ShowsNoNull) (fallback : String) :
    wireRequest fallback request.withoutNulls = wireRequest fallback request := by
  have settings : request.withoutNulls.settings = request.settings.map Settings.withoutNulls := rfl
  rw [wireRequest, wireRequest, settings]
  cases given : request.settings with
  | none => rfl
  | some content =>
      simp only [Option.map_some, configured_withoutNulls (unseen content given)]
      rfl

/-! ## The stored request -/

/-- **A stored request is sent as before, unless it showed a `null`.** A request that is written as
a JSON value is read without failure, as the request without its free-form values that are `null`.
If the conversion looks at none of these, then the request that was read is converted to the same
body, or fails with the same failure. -/
theorem stored_request_sent {request : Conversation.Request}
    (representable : request.Representable) :
    ∃ stored,
      Conversation.Request.codec.read (Conversation.Request.codec.write request).node =
        .ok stored ∧
      stored = request.withoutNulls ∧
      ((∀ settings ∈ request.settings, settings.ShowsNoNull) →
        ∀ fallback, wireRequest fallback stored = wireRequest fallback request) :=
  ⟨request.withoutNulls, Conversation.Request.rereads representable, rfl,
    wireRequest_withoutNulls⟩

/-- The settings of a request that offers a function, and switches on two capabilities behind it. -/
def retrievalSettings (retrieval : Value) : Settings where
  tools := [{ declarations := [{ name := "find" }], retrieval, codeExecution := some .null }]

/-- The request with these settings. -/
def retrievalRequest (retrieval : Value) : Conversation.Request where
  turns := [.ofText "user" "Hi"]
  settings := some (retrievalSettings retrieval)

theorem representable_retrievalRequest {retrieval : Value} (distinct : retrieval.Distinct) :
    (retrievalRequest retrieval).Representable := by
  have settings : (retrievalSettings retrieval).Representable := by
    refine ⟨?_, nofun, nofun, nofun, ?_⟩
    · simp [Settings.numbers, retrievalSettings]
    · rintro _ (_ | ⟨_, ⟨⟩⟩)
      refine ⟨?_, ?_⟩
      · rintro _ (_ | ⟨_, ⟨⟩⟩)
        constructor <;> rintro _ ⟨⟩
      · simpa [Tool.capabilities] using ⟨distinct, trivial⟩
  refine ⟨?_, ?_⟩
  · simp [retrievalRequest, Conversation.Turn.ofText, Conversation.Turn.Representable,
      Conversation.Part.ofText, Conversation.Part.Representable]
  · rintro _ ⟨rfl⟩
    exact settings

/-- A capability that is `null` is not looked at behind another one. -/
theorem stored_request_sent_retrieval :
    (retrievalRequest (.object [])).Representable ∧
      ∃ stored,
        Conversation.Request.codec.read
          (Conversation.Request.codec.write (retrievalRequest (.object []))).node = .ok stored ∧
        stored = (retrievalRequest (.object [])).withoutNulls ∧
        wireRequest "model" stored = .error (.builtInTool 0 "retrieval") := by
  have representable : (retrievalRequest (.object [])).Representable :=
    representable_retrievalRequest (by simp [Value.Distinct, Json.DistinctMembers])
  obtain ⟨stored, read, same, sent⟩ := stored_request_sent representable
  refine ⟨representable, stored, read, same, (sent ?_ "model").trans rfl⟩
  rintro _ ⟨rfl⟩
  refine ⟨?_, ?_, ?_⟩
  · rintro ⟨⟩
  · rintro _ _ ⟨⟩
  rintro _ (_ | ⟨_, ⟨⟩⟩)
  refine ⟨?_, ?_⟩
  · rintro _ ⟨rfl⟩ ⟨⟩
  · rintro ⟨⟩

/-- **A capability that is present as `null` is lost**: the request that is refused because of it is
sent after it was stored. -/
theorem null_capability_lost :
    ¬ ∀ request stored : Conversation.Request, request.Representable →
      Conversation.Request.codec.read (Conversation.Request.codec.write request).node =
        .ok stored →
      ∀ fallback, wireRequest fallback stored = wireRequest fallback request := by
  intro same
  have representable : (retrievalRequest .null).Representable :=
    representable_retrievalRequest trivial
  have read := Conversation.Request.rereads representable
  have refused : wireRequest "model" (retrievalRequest .null) =
      .error (.builtInTool 0 "retrieval") := rfl
  have sent : (wireRequest "model" (retrievalRequest .null).withoutNulls).toOption.isSome := rfl
  rw [same _ _ representable read "model", refused] at sent
  cases sent

end Outbound
end ResponsesBridge
