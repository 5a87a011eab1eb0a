import ResponsesBridge.Proofs.Json.Codecs
import ResponsesBridge.Wire.Event
import ResponsesBridge.Wire.Request

/-!
# What is on the wire comes back

Every value of every type on the wire is the value that is read from its JSON form
(`wire_values_return`), as far as JSON can express it (`Request.Representable`): its numbers are
finite, and the names in each free-form object are different, as they are in every object that has
been read. Nothing is asked of responses and events, which hold no such numbers and no such objects.

Each type has its own lemma, which goes through the table of the type row by row. What has to be
seen there is that a member is left out only where the draft has its value already, and that no
member is named like a tag.
-/

set_option autoImplicit false

namespace ResponsesBridge.Wire

open Json (Codec Table Value)

/-! ## Requests -/

/-- The names in the parameters of a function are different. -/
def FunctionTool.Representable (tool : FunctionTool) : Prop :=
  (Value.object tool.parameters).Distinct

/-- The names in the schema of a format are different. -/
def TextFormat.Representable : TextFormat → Prop
  | .text => True
  | .json format => (Value.object format.schema).Distinct

/-- The numbers of a request are finite, and the names in its free-form objects are different. -/
structure Request.Representable (request : Request) : Prop where
  temperature : ∀ value ∈ request.temperature, value.IsFinite
  topP : ∀ value ∈ request.topP, value.IsFinite
  tools : ∀ tool ∈ request.tools, tool.Representable
  text : ∀ config ∈ request.text, config.format.Representable

theorem InputRole.returns (role : InputRole) : InputRole.codec.Returns role :=
  Json.returns_enumerationOver (by cases role <;> decide)

theorem InputRole.returnsInside (role : InputRole) : InputRole.codecInside.Returns role :=
  Json.returns_enumerationOver (by cases role <;> decide)

theorem inputText_returns (text : String) : inputTextCodec.Returns text := by
  have fills : inputTextTable.Fills text "" := .required (Codec.returns_text _) .done
  have read : inputTextCodec.read (Json.tagged inputTextTag (inputTextTable.fields text)).node =
      .ok (id text) := Json.readTaggedInside_ofTable rfl (by decide) fills
  exact read

theorem InputItem.returns (item : InputItem) : InputItem.codec.Returns item := by
  cases item with
  | message message =>
      refine Json.readTagged_ofTable rfl (by decide) (.required (InputRole.returnsInside _) ?_)
      exact .required (Codec.returns_list fun text _ => inputText_returns text) .done
  | functionCall call =>
      refine Json.readTagged_ofTable rfl (by decide) (.required (Codec.returns_text _) ?_)
      exact .required (Codec.returns_text _) (.required (Codec.returns_text _) .done)
  | functionCallOutput output =>
      refine Json.readTagged_ofTable rfl (by decide) (.required (Codec.returns_text _) ?_)
      exact .required (Codec.returns_text _) .done

theorem FunctionTool.returns {tool : FunctionTool} (representable : tool.Representable) :
    FunctionTool.codec.Returns tool := by
  refine Table.Fills.returns ?_ (by decide)
  refine .required (Codec.returns_text _) (.required (Codec.returns_text _) ?_)
  refine .optional nofun Codec.refusesNull_text (fun _ _ => Codec.returns_text _) rfl ?_
  refine .required (Codec.returns_fields representable) ?_
  exact .defaulted (Codec.returns_boolean _) .done

theorem ChoiceMode.returns (mode : ChoiceMode) : ChoiceMode.codec.Returns mode :=
  Json.returns_enumerationOver (by cases mode <;> decide)

theorem AllowedMode.returns (mode : AllowedMode) : AllowedMode.codec.Returns mode :=
  Json.returns_enumerationOver (by cases mode <;> decide)

theorem ToolReference.returns (reference : ToolReference) :
    ToolReference.codec.Returns reference :=
  Table.Fills.returns (.required (Codec.returns_text _) (.required (Codec.returns_text _) .done))
    (by decide)

theorem AllowedTools.returns (choice : AllowedTools) : AllowedTools.codec.Returns choice := by
  refine Table.Fills.returns (.required (Codec.returns_text _) ?_) (by decide)
  refine .required (AllowedMode.returns _) ?_
  exact .required (Codec.returns_list fun reference _ => reference.returns) .done

/-- The two kinds of choice are not taken for each other: the restriction to functions is an object
whose first name is none of the modes. -/
theorem ToolChoice.returns (choice : ToolChoice) : ToolChoice.codec.Returns choice := by
  cases choice with
  | mode mode =>
      have read : ChoiceMode.codec.read (ChoiceMode.codec.write mode).node = .ok mode :=
        mode.returns
      refine Json.firstOf_node ?_
      simp only [ToolChoice.codec, List.findSome?_cons, read, Functor.map, Except.map,
        Except.toOption]
  | allowed tools =>
      have noMode : ChoiceMode.codec.read (AllowedTools.codec.write tools).node =
          .error .mismatched := rfl
      have read : AllowedTools.codec.read (AllowedTools.codec.write tools).node = .ok tools :=
        tools.returns
      refine Json.firstOf_node ?_
      simp only [ToolChoice.codec, List.findSome?_cons, noMode, read, Functor.map, Except.map,
        Except.toOption]

theorem TextFormat.returns {format : TextFormat} (representable : format.Representable) :
    TextFormat.codec.Returns format := by
  cases format with
  | text => exact Json.readChosen_tagged rfl (by decide) rfl
  | json format =>
      refine Json.readTagged_ofTable rfl (by decide) (.required (Codec.returns_text _) ?_)
      refine .required (Codec.returns_fields representable) ?_
      exact .optional nofun Codec.refusesNull_boolean (fun _ _ => Codec.returns_boolean _) rfl
        .done

theorem TextConfig.returns {config : TextConfig} (representable : config.format.Representable) :
    TextConfig.codec.Returns config :=
  Table.Fills.returns (.required (TextFormat.returns representable) .done) (by decide)

theorem Request.returns {request : Request} (representable : request.Representable) :
    Request.codec.Returns request := by
  refine Table.Fills.returns (.required (Codec.returns_text _) ?_) (by decide)
  refine .required (Codec.returns_list fun item _ => item.returns) ?_
  refine .optional nofun Codec.refusesNull_text (fun _ _ => Codec.returns_text _) rfl ?_
  refine .optional nofun Codec.refusesNull_double (fun value given =>
    Codec.returns_double (representable.temperature value given)) rfl ?_
  refine .optional nofun Codec.refusesNull_double (fun value given =>
    Codec.returns_double (representable.topP value given)) rfl ?_
  refine .optional nofun Codec.refusesNull_word32 (fun _ _ => Codec.returns_word32 _) rfl ?_
  refine .optional nofun Codec.refusesNull_word32 (fun _ _ => Codec.returns_word32 _) rfl ?_
  refine .skipped (Codec.returns_list fun tool member =>
    FunctionTool.returns (representable.tools tool member)) List.isEmpty_iff.mp rfl ?_
  refine .optional nofun (.of_error rfl) (fun choice _ => choice.returns) rfl ?_
  refine .optional nofun Table.refusesNull_codec (fun config given =>
    TextConfig.returns (representable.text config given)) rfl ?_
  exact .optional nofun Codec.refusesNull_boolean (fun _ _ => Codec.returns_boolean _) rfl .done

/-! ## Responses -/

theorem OutputContent.returns (content : OutputContent) : OutputContent.codec.Returns content := by
  refine Table.Fills.returns (.required (Codec.returns_text _) ?_) (by decide)
  refine .skipped (Codec.returns_text _) String.isEmpty_iff.mp rfl ?_
  exact .skipped (Codec.returns_text _) String.isEmpty_iff.mp rfl .done

theorem OutputItem.returns (item : OutputItem) : OutputItem.codec.Returns item := by
  have entries (contents : List OutputContent) : (OutputContent.codec.list).Returns contents :=
    Codec.returns_list fun content _ => content.returns
  refine Table.Fills.returns (.required (Codec.returns_text _) ?_) (by decide)
  refine .skipped (Codec.returns_text _) String.isEmpty_iff.mp rfl ?_
  refine .optional nofun Codec.refusesNull_text (fun _ _ => Codec.returns_text _) rfl ?_
  refine .skipped (entries _) List.isEmpty_iff.mp rfl ?_
  refine .skipped (entries _) List.isEmpty_iff.mp rfl ?_
  refine .skipped (Codec.returns_text _) String.isEmpty_iff.mp rfl ?_
  refine .skipped (Codec.returns_text _) String.isEmpty_iff.mp rfl ?_
  exact .skipped (Codec.returns_text _) String.isEmpty_iff.mp rfl .done

theorem InputTokenDetails.returns (details : InputTokenDetails) :
    (InputTokenDetails.table.codec {}).Returns details :=
  Table.Fills.returns (.defaulted (Codec.returns_word32 _) .done) (by decide)

theorem OutputTokenDetails.returns (details : OutputTokenDetails) :
    (OutputTokenDetails.table.codec {}).Returns details :=
  Table.Fills.returns (.defaulted (Codec.returns_word32 _) .done) (by decide)

theorem Usage.returns (usage : Usage) : Usage.codec.Returns usage := by
  refine Table.Fills.returns (.defaulted (Codec.returns_word32 _) ?_) (by decide)
  refine .defaulted usage.inputDetails.returns (.defaulted (Codec.returns_word32 _) ?_)
  exact .defaulted usage.outputDetails.returns (.defaulted (Codec.returns_word32 _) .done)

theorem IncompleteDetails.returns (details : IncompleteDetails) :
    (IncompleteDetails.table.codec {}).Returns details :=
  Table.Fills.returns (.defaulted (Codec.returns_text _) .done) (by decide)

theorem ResponseError.returns (error : ResponseError) :
    (ResponseError.table.codec {}).Returns error :=
  Table.Fills.returns
    (.defaulted (Codec.returns_text _) (.defaulted (Codec.returns_text _) .done)) (by decide)

theorem Response.returns (response : Response) : Response.codec.Returns response := by
  refine Table.Fills.returns (.defaulted (Codec.returns_text _) ?_) (by decide)
  refine .defaulted (Codec.returns_text _) ?_
  refine .optional nofun Codec.refusesNull_text (fun _ _ => Codec.returns_text _) rfl ?_
  refine .defaulted (Codec.returns_list fun item _ => item.returns) ?_
  refine .optional nofun Table.refusesNull_codec (fun usage _ => usage.returns) rfl ?_
  refine .optional nofun Table.refusesNull_codec (fun details _ => details.returns) rfl ?_
  exact .optional nofun Table.refusesNull_codec (fun error _ => error.returns) rfl .done

theorem ErrorDetails.returns (details : ErrorDetails) :
    (ErrorDetails.table.codec {}).Returns details := by
  have texts : ∀ (content : Option String), ∀ text ∈ content, Codec.text.Returns text :=
    fun _ _ _ => Codec.returns_text _
  refine Table.Fills.returns (.required (Codec.returns_text _) ?_) (by decide)
  refine .nullable Codec.refusesNull_text (texts _) ?_
  refine .nullable Codec.refusesNull_text (texts _) ?_
  exact .nullable Codec.refusesNull_text (texts _) .done

theorem ErrorBody.returns (body : ErrorBody) : ErrorBody.codec.Returns body :=
  Table.Fills.returns (.required body.error.returns .done) (by decide)

/-! ## Events -/

theorem Delta.fills (delta : Delta) : Delta.table.Fills delta {} :=
  .defaulted (Codec.returns_text _) <| .defaulted (Codec.returns_word32 _) <|
    .defaulted (Codec.returns_text _) .done

theorem DoneText.fills (done : DoneText) : DoneText.table.Fills done {} :=
  .defaulted (Codec.returns_text _) <| .defaulted (Codec.returns_word32 _) <|
    .defaulted (Codec.returns_text _) .done

theorem DoneArguments.fills (done : DoneArguments) : DoneArguments.table.Fills done {} :=
  .defaulted (Codec.returns_text _) <| .defaulted (Codec.returns_word32 _) <|
    .defaulted (Codec.returns_text _) <| .defaulted (Codec.returns_text _) .done

theorem Snapshot.fills (snapshot : Snapshot) : Snapshot.table.Fills snapshot {} :=
  .defaulted snapshot.response.returns .done

theorem ItemSnapshot.fills (snapshot : ItemSnapshot) : ItemSnapshot.table.Fills snapshot {} :=
  .defaulted (Codec.returns_word32 _) <| .defaulted snapshot.item.returns .done

theorem StreamError.fills (error : StreamError) : StreamError.table.Fills error {} :=
  .optional nofun Codec.refusesNull_text (fun _ _ => Codec.returns_text _) rfl <|
    .defaulted (Codec.returns_text _) .done

/-- Events of unlisted kinds come back as well: the tag that is written for them is none of the
listed ones. -/
theorem Event.returns (event : Event) : Event.codec.Returns event := by
  cases event with
  | textDelta delta => exact Json.readTagged_ofTable rfl (by decide) delta.fills
  | textDone done => exact Json.readTagged_ofTable rfl (by decide) done.fills
  | reasoningDelta delta => exact Json.readTagged_ofTable rfl (by decide) delta.fills
  | reasoningDone done => exact Json.readTagged_ofTable rfl (by decide) done.fills
  | summaryDelta delta => exact Json.readTagged_ofTable rfl (by decide) delta.fills
  | summaryDone done => exact Json.readTagged_ofTable rfl (by decide) done.fills
  | argumentsDelta delta => exact Json.readTagged_ofTable rfl (by decide) delta.fills
  | argumentsDone done => exact Json.readTagged_ofTable rfl (by decide) done.fills
  | created snapshot => exact Json.readTagged_ofTable rfl (by decide) snapshot.fills
  | inProgress snapshot => exact Json.readTagged_ofTable rfl (by decide) snapshot.fills
  | completed snapshot => exact Json.readTagged_ofTable rfl (by decide) snapshot.fills
  | failed snapshot => exact Json.readTagged_ofTable rfl (by decide) snapshot.fills
  | itemAdded snapshot => exact Json.readTagged_ofTable rfl (by decide) snapshot.fills
  | itemDone snapshot => exact Json.readTagged_ofTable rfl (by decide) snapshot.fills
  | error error => exact Json.readTagged_ofTable rfl (by decide) error.fills
  | unknown => exact Json.readChosen_tagged rfl (by decide) rfl

/-! ## All types -/

/-- **What is on the wire comes back.** Requests with their items, functions, choices and formats,
responses with their parts, error bodies, and events of every kind are read as they were written: a
member that is left out is read as the value for which it was left out, a choice without a tag is
never read as the other one, and the names in free-form objects keep their order. -/
theorem wire_values_return :
    ((∀ request : Request, request.Representable → Request.codec.Returns request) ∧
      (∀ item, InputItem.codec.Returns item) ∧ (∀ role, InputRole.codec.Returns role) ∧
      (∀ text, inputTextCodec.Returns text) ∧
      (∀ tool : FunctionTool, tool.Representable → FunctionTool.codec.Returns tool) ∧
      (∀ choice, ToolChoice.codec.Returns choice) ∧ (∀ mode, ChoiceMode.codec.Returns mode) ∧
      (∀ choice, AllowedTools.codec.Returns choice) ∧ (∀ mode, AllowedMode.codec.Returns mode) ∧
      (∀ reference, ToolReference.codec.Returns reference) ∧
      (∀ config : TextConfig, config.format.Representable → TextConfig.codec.Returns config) ∧
      ∀ format : TextFormat, format.Representable → TextFormat.codec.Returns format) ∧
    ((∀ response, Response.codec.Returns response) ∧ (∀ item, OutputItem.codec.Returns item) ∧
      (∀ content, OutputContent.codec.Returns content) ∧ (∀ usage, Usage.codec.Returns usage) ∧
      (∀ details, (InputTokenDetails.table.codec {}).Returns details) ∧
      (∀ details, (OutputTokenDetails.table.codec {}).Returns details) ∧
      (∀ details, (IncompleteDetails.table.codec {}).Returns details) ∧
      (∀ error, (ResponseError.table.codec {}).Returns error) ∧
      ∀ body, ErrorBody.codec.Returns body) ∧
    ∀ event, Event.codec.Returns event := by
  refine ⟨⟨fun _ => Request.returns, InputItem.returns, InputRole.returns, inputText_returns,
    fun _ => FunctionTool.returns, ToolChoice.returns, ChoiceMode.returns, AllowedTools.returns,
    AllowedMode.returns, ToolReference.returns, fun _ => TextConfig.returns,
    fun _ => TextFormat.returns⟩, ?_, Event.returns⟩
  exact ⟨Response.returns, OutputItem.returns, OutputContent.returns, Usage.returns,
    InputTokenDetails.returns, OutputTokenDetails.returns, IncompleteDetails.returns,
    ResponseError.returns, ErrorBody.returns⟩

/-- One half, as a number of 64 bits. -/
def half : Double := ⟨false, 4602678819172646912, by decide⟩

/-- A request with a number, a restricted choice, and free-form objects inside each other. -/
def restrictedRequest : Request where
  model := "model"
  input := [.message ⟨.user, ["Where"]⟩, .functionCall ⟨"first", "find", ""⟩]
  temperature := some half
  tools :=
    [{ name := "find"
       parameters :=
        [("type", .text "object"), ("properties", .object [("type", .object []), ("a", .null)])] }]
  toolChoice := some (.allowed { tools := [{ name := "find" }] })
  text := some ⟨.json { name := "answer", schema := [("type", .text "object")] }⟩

theorem wire_values_return_restricted :
    restrictedRequest.Representable ∧
      (∀ tool ∈ restrictedRequest.tools, tool.Representable ∧ FunctionTool.codec.Returns tool) ∧
      Request.codec.Returns restrictedRequest := by
  have functions : ∀ tool ∈ restrictedRequest.tools, tool.Representable := by
    simp [restrictedRequest, FunctionTool.Representable, Value.Distinct, Json.DistinctMembers]
  have format : ∀ config ∈ restrictedRequest.text, config.format.Representable := by
    simp [restrictedRequest, TextFormat.Representable, Value.Distinct, Json.DistinctMembers]
  have temperature : ∀ value ∈ restrictedRequest.temperature, value.IsFinite := by
    rintro _ ⟨rfl⟩
    decide
  have representable : restrictedRequest.Representable :=
    ⟨temperature, nofun, functions, format⟩
  exact ⟨representable,
    fun tool member => ⟨functions tool member,
      wire_values_return.1.2.2.2.2.1 tool (functions tool member)⟩,
    wire_values_return.1.1 restrictedRequest representable⟩

end ResponsesBridge.Wire
