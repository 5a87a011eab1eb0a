import ResponsesBridge.Conversation.Request
import ResponsesBridge.Proofs.Conversation.Forms
import ResponsesBridge.Proofs.Conversation.Schemas
import ResponsesBridge.Proofs.Number.Widening

/-!
# What becomes of a request that is written and read

A request is read as it was written, but for its free-form values that are present as `null`: they
are read as absent (`Request.rereads`, `Request.withoutNulls`). That concerns the capabilities of
tools, raw schemas, and the defaults inside schemas.

The numbers of the settings are written in 64 bits and come back from there, as long as they are
finite.
-/

set_option autoImplicit false

namespace ResponsesBridge.Conversation

open Json (Codec Table Value)

/-! ## Tools -/

/-- The schema of a declaration is representable, and so is its raw schema. -/
structure Declaration.Representable (declaration : Declaration) : Prop where
  parameters : ∀ schema ∈ declaration.parameters, schema.Representable
  rawParameters : ∀ value ∈ declaration.rawParameters, value.Distinct

/-- The declarations of a tool are representable, and the names in the values of its capabilities
are different. -/
structure Tool.Representable (tool : Tool) : Prop where
  declarations : ∀ declaration ∈ tool.declarations, declaration.Representable
  capabilities : ∀ capability ∈ tool.capabilities, ∀ value ∈ capability.2, value.Distinct

/-- A declaration without a raw schema that is `null` and without such defaults. -/
def Declaration.withoutNulls (declaration : Declaration) : Declaration :=
  { declaration with
    parameters := declaration.parameters.map Schema.withoutNulls
    rawParameters := Codec.unlessNull declaration.rawParameters }

/-- A tool without the capabilities whose value is `null`. -/
def Tool.withoutNulls (tool : Tool) : Tool where
  declarations := tool.declarations.map Declaration.withoutNulls
  retrieval := Codec.unlessNull tool.retrieval
  webSearch := Codec.unlessNull tool.webSearch
  webSearchRetrieval := Codec.unlessNull tool.webSearchRetrieval
  enterpriseWebSearch := Codec.unlessNull tool.enterpriseWebSearch
  maps := Codec.unlessNull tool.maps
  urlContext := Codec.unlessNull tool.urlContext
  computerUse := Codec.unlessNull tool.computerUse
  codeExecution := Codec.unlessNull tool.codeExecution

/-- A schema that may be absent. -/
theorem Schema.rereads_optional {schema : Option Schema}
    (representable : ∀ content ∈ schema, content.Representable) :
    Schema.codec.optional.Rereads schema (schema.map Schema.withoutNulls) := by
  cases schema with
  | none => rfl
  | some content =>
      exact Codec.rereads_optional Schema.refusesNull_codec
        (.some (Schema.rereads (representable content rfl)))

theorem Declaration.rereads {declaration : Declaration}
    (representable : declaration.Representable) :
    Declaration.codec.Rereads declaration declaration.withoutNulls := by
  refine Table.Leads.rereads (.required (Codec.returns_text _) ?_) (by decide)
  refine .skipped (Codec.returns_text _) String.isEmpty_iff.mp rfl ?_
  refine .optional nofun (Schema.rereads_optional representable.parameters)
    (fun absent => by rw [absent]; rfl) rfl ?_
  exact .freeForm nofun representable.rawParameters rfl .done

theorem Tool.rereads {tool : Tool} (representable : tool.Representable) :
    Tool.codec.Rereads tool tool.withoutNulls := by
  have free : ∀ capability ∈ tool.capabilities, ∀ value ∈ capability.2, value.Distinct :=
    representable.capabilities
  simp only [Tool.capabilities, List.forall_mem_cons] at free
  obtain ⟨retrieval, webSearch, webSearchRetrieval, enterpriseWebSearch, maps, urlContext,
    computerUse, codeExecution, -⟩ := free
  have declarations : Declaration.codec.list.Rereads tool.declarations
      (tool.declarations.map Declaration.withoutNulls) := by
    refine Codec.rereads_list (List.forall₂_map_right_iff.mpr ?_)
    exact List.forall₂_same.mpr fun declaration member =>
      Declaration.rereads (representable.declarations declaration member)
  refine Table.Leads.rereads ?_ (by decide)
  refine .skipped declarations (fun left => by rw [List.isEmpty_iff.mp left]; rfl) rfl ?_
  refine .freeForm nofun retrieval rfl (.freeForm nofun webSearch rfl ?_)
  refine .freeForm nofun webSearchRetrieval rfl (.freeForm nofun enterpriseWebSearch rfl ?_)
  refine .freeForm nofun maps rfl (.freeForm nofun urlContext rfl ?_)
  exact .freeForm nofun computerUse rfl (.freeForm nofun codeExecution rfl .done)

theorem CallingMode.returns (mode : CallingMode) : CallingMode.codec.Returns mode :=
  Json.returns_enumerationOver (by cases mode <;> decide)

theorem CallingPolicy.returns (policy : CallingPolicy) : CallingPolicy.codec.Returns policy := by
  refine Table.Fills.returns (.defaulted (CallingMode.returns _) ?_) (by decide)
  exact .skipped (Codec.returns_list fun _ _ => Codec.returns_text _) List.isEmpty_iff.mp rfl .done

theorem ToolUse.returns (use : ToolUse) : ToolUse.codec.Returns use :=
  Table.Fills.returns
    (.optional nofun Table.refusesNull_codec (fun policy _ => policy.returns) rfl .done)
    (by decide)

/-! ## Settings -/

/-- The 32-bit numbers of settings. -/
def Settings.numbers (settings : Settings) : List (Option Single) :=
  [settings.temperature, settings.topP, settings.topK, settings.frequencyPenalty,
    settings.presencePenalty]

/-- The numbers of settings are finite, and all that they hold is representable. -/
structure Settings.Representable (settings : Settings) : Prop where
  numbers : ∀ number ∈ settings.numbers, ∀ value ∈ number, value.IsFinite
  instruction : ∀ turn ∈ settings.instruction, turn.Representable
  schema : ∀ schema ∈ settings.schema, schema.Representable
  rawSchema : ∀ value ∈ settings.rawSchema, value.Distinct
  tools : ∀ tool ∈ settings.tools, tool.Representable

/-- Settings without the free-form values that are `null`. -/
def Settings.withoutNulls (settings : Settings) : Settings :=
  { settings with
    schema := settings.schema.map Schema.withoutNulls
    rawSchema := Codec.unlessNull settings.rawSchema
    tools := settings.tools.map Tool.withoutNulls }

/-- A finite number comes back from 64 bits. -/
theorem returns_widened {value : Single} (finite : value.IsFinite) : widened.Returns value := by
  simp only [Codec.Returns, widened, Codec.floating, if_pos finite, Value.node]
  exact congrArg Except.ok (Floating.convert_convert Format.single_within_double finite)

theorem SafetySetting.returns (setting : SafetySetting) : SafetySetting.codec.Returns setting :=
  Table.Fills.returns (.required (Codec.returns_text _) (.required (Codec.returns_text _) .done))
    (by decide)

theorem Settings.rereads {settings : Settings} (representable : settings.Representable) :
    Settings.codec.Rereads settings settings.withoutNulls := by
  have finite : ∀ number ∈ settings.numbers, ∀ value ∈ number, value.IsFinite :=
    representable.numbers
  simp only [Settings.numbers, List.forall_mem_cons] at finite
  obtain ⟨temperature, topP, topK, frequencyPenalty, presencePenalty, -⟩ := finite
  have number {value : Option Single} (finite : ∀ content ∈ value, content.IsFinite) :
      widened.optional.Returns value :=
    Codec.returns_optional (.of_error rfl) fun content given =>
      returns_widened (finite content given)
  have tools : Tool.codec.list.Rereads settings.tools (settings.tools.map Tool.withoutNulls) := by
    refine Codec.rereads_list (List.forall₂_map_right_iff.mpr ?_)
    exact List.forall₂_same.mpr fun tool member =>
      Tool.rereads (representable.tools tool member)
  have texts (values : List String) : Codec.text.list.Returns values :=
    Codec.returns_list fun _ _ => Codec.returns_text _
  have dictionary (labels : Option (Dictionary String)) :
      (Codec.dictionary .text).optional.Returns labels :=
    Codec.returns_optional (.of_error rfl) fun _ _ =>
      Codec.returns_dictionary fun _ _ => Codec.returns_text _
  refine Table.Leads.rereads ?_ (by decide)
  refine .optional nofun (number temperature) id rfl (.optional nofun (number topP) id rfl ?_)
  refine .optional nofun (number topK) id rfl (.defaulted (Codec.returns_word32 _) ?_)
  -- the draft is brought to one constructor now and then, so that comparing drafts stays cheap
  dsimp only
  refine .skipped (texts _) List.isEmpty_iff.mp rfl (.defaulted (Codec.returns_word32 _) ?_)
  refine .optional nofun (number frequencyPenalty) id rfl ?_
  refine .optional nofun (number presencePenalty) id rfl (.defaulted (Codec.returns_boolean _) ?_)
  dsimp only
  refine .optional nofun (Codec.returns_optional Codec.refusesNull_word32 fun _ _ =>
    Codec.returns_word32 _) id rfl ?_
  refine .optional nofun (Codec.returns_optional Table.refusesNull_codec fun turn given =>
    Turn.returns (representable.instruction turn given)) id rfl ?_
  refine .skipped (Codec.returns_text _) String.isEmpty_iff.mp rfl ?_
  dsimp only
  refine .optional nofun (Schema.rereads_optional representable.schema)
    (fun absent => by rw [absent]; rfl) rfl ?_
  refine .freeForm nofun representable.rawSchema rfl ?_
  refine .optional nofun (Codec.returns_optional (.of_error rfl) fun _ _ =>
    Codec.returns_list fun setting _ => setting.returns) id rfl ?_
  dsimp only
  refine .optional nofun (dictionary _) id rfl ?_
  refine .skipped tools (fun left => by rw [List.isEmpty_iff.mp left]; rfl) rfl ?_
  exact .optional nofun (Codec.returns_optional Table.refusesNull_codec fun use _ => use.returns)
    id rfl .done

/-! ## Requests -/

/-- All that a request holds is representable. -/
structure Request.Representable (request : Request) : Prop where
  turns : ∀ turn ∈ request.turns, turn.Representable
  settings : ∀ settings ∈ request.settings, settings.Representable

/-- A request without the free-form values that are `null`. -/
def Request.withoutNulls (request : Request) : Request :=
  { request with settings := request.settings.map Settings.withoutNulls }

/-- **A request is read as it was written**, without the free-form values that are `null`. -/
theorem Request.rereads {request : Request} (representable : request.Representable) :
    Request.codec.Rereads request request.withoutNulls := by
  have settings : Settings.codec.optional.Rereads request.settings
      (request.settings.map Settings.withoutNulls) := by
    cases given : request.settings with
    | none => rfl
    | some content =>
        exact Codec.rereads_optional Table.refusesNull_codec
          (.some (Settings.rereads (representable.settings content given)))
  refine Table.Leads.rereads ?_ (by decide)
  refine .skipped (Codec.returns_text _) String.isEmpty_iff.mp rfl ?_
  refine .defaulted (Codec.returns_list fun turn member =>
    Turn.returns (representable.turns turn member)) ?_
  exact .optional nofun settings (fun absent => by rw [absent]; rfl) rfl .done

end ResponsesBridge.Conversation
