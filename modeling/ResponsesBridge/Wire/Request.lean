import ResponsesBridge.Json.Choice

/-!
# Requests on the wire

The body of a request to the Responses service: the model, the items of the input in order, and
the settings. Every type stands beside its JSON form.
-/

set_option autoImplicit false

namespace ResponsesBridge.Wire

open Json (Codec Fields Table Member Alternative)

/-- Who speaks in a message. -/
inductive InputRole
  | user
  | assistant
  | system
  | developer
deriving DecidableEq, Repr

/-- A message. -/
structure Message where
  role : InputRole := .user
  content : List String := []

/-- A call that the model has made earlier; the arguments are JSON text. -/
structure FunctionCall where
  callId : String := ""
  name : String := ""
  arguments : String := ""

/-- The output of a call, as JSON text. -/
structure FunctionCallOutput where
  callId : String := ""
  output : String := ""

/-- An item of the input. -/
inductive InputItem
  | message (message : Message)
  | functionCall (call : FunctionCall)
  | functionCallOutput (output : FunctionCallOutput)

/-- A function that the model may call. -/
structure FunctionTool where
  type : String := "function"
  name : String := ""
  description : Option String := none
  parameters : Fields := []
  strict : Bool := false

/-- Whether the model may call functions. -/
inductive ChoiceMode
  | none
  | auto
  | required
deriving DecidableEq, Repr

/-- Whether one of the allowed functions may or must be called. -/
inductive AllowedMode
  | auto
  | required
deriving DecidableEq, Repr

/-- A declared function, by name. -/
structure ToolReference where
  type : String := "function"
  name : String := ""

/-- The functions to which calling is restricted. -/
structure AllowedTools where
  type : String := "allowed_tools"
  mode : AllowedMode := .auto
  tools : List ToolReference := []

/-- The choice among the declared functions. -/
inductive ToolChoice
  | mode (mode : ChoiceMode)
  | allowed (tools : AllowedTools)

/-- Output that satisfies a JSON schema. -/
structure JsonFormat where
  name : String := ""
  schema : Fields := []
  strict : Option Bool := none

/-- The format of the output text. -/
inductive TextFormat
  | text
  | json (format : JsonFormat)

/-- The configuration of the output text. -/
structure TextConfig where
  format : TextFormat := .text

/-- The body of a request. -/
structure Request where
  model : String := ""
  input : List InputItem := []
  instructions : Option String := none
  temperature : Option Double := none
  topP : Option Double := none
  maxOutputTokens : Option UInt32 := none
  topLogProbabilities : Option UInt32 := none
  tools : List FunctionTool := []
  toolChoice : Option ToolChoice := none
  text : Option TextConfig := none
  stream : Option Bool := none

/-! ## JSON form -/

/-- The name of a role. -/
def InputRole.name : InputRole → String
  | .user => "user"
  | .assistant => "assistant"
  | .system => "system"
  | .developer => "developer"

/-- The roles under their names. -/
def InputRole.names : List (String × InputRole) :=
  [InputRole.user, .assistant, .system, .developer].map fun role => (role.name, role)

def InputRole.codec : Codec InputRole := Json.enumeration InputRole.names InputRole.name

/-- A role inside an item of the input. -/
def InputRole.codecInside : Codec InputRole :=
  Json.enumerationOver Json.readNothing InputRole.names InputRole.name

/-- The tag of the only kind of content that a message of the input has. -/
def inputTextTag : String := "input_text"

def inputTextTable : Table String := [.required "text" .text id fun text _ => text]

/-- An entry of a message. -/
def inputTextCodec : Codec String where
  read := Json.readTaggedInside [.ofTable inputTextTag inputTextTable "" id]
  write text := Json.tagged inputTextTag (inputTextTable.fields text)

def Message.table : Table Message :=
  [.required "role" InputRole.codecInside (·.role) fun role message => { message with role },
    .required "content" (.list inputTextCodec) (·.content)
      fun content message => { message with content }]

def FunctionCall.table : Table FunctionCall :=
  [.required "call_id" .text (·.callId) fun callId call => { call with callId },
    .required "name" .text (·.name) fun name call => { call with name },
    .required "arguments" .text (·.arguments) fun arguments call => { call with arguments }]

def FunctionCallOutput.table : Table FunctionCallOutput :=
  [.required "call_id" .text (·.callId) fun callId output => { output with callId },
    .required "output" .text (·.output) fun output item => { item with output }]

def InputItem.codec : Codec InputItem where
  read := Json.readTagged
    [.ofTable "message" Message.table {} .message,
      .ofTable "function_call" FunctionCall.table {} .functionCall,
      .ofTable "function_call_output" FunctionCallOutput.table {} .functionCallOutput]
    none
  write
    | .message item => Json.tagged "message" (Message.table.fields item)
    | .functionCall item => Json.tagged "function_call" (FunctionCall.table.fields item)
    | .functionCallOutput item =>
      Json.tagged "function_call_output" (FunctionCallOutput.table.fields item)

def FunctionTool.table : Table FunctionTool :=
  [.required "type" .text (·.type) fun type tool => { tool with type },
    .required "name" .text (·.name) fun name tool => { tool with name },
    .optional "description" .defaulted .text (·.description)
      fun description tool => { tool with description },
    .required "parameters" .fields (·.parameters)
      fun parameters tool => { tool with parameters },
    .defaulted "strict" .boolean (·.strict) fun strict tool => { tool with strict }]

def FunctionTool.codec : Codec FunctionTool := FunctionTool.table.codec {}

/-- The name of a mode. -/
def ChoiceMode.name : ChoiceMode → String
  | .none => "none"
  | .auto => "auto"
  | .required => "required"

def ChoiceMode.codec : Codec ChoiceMode :=
  Json.enumeration ([ChoiceMode.none, .auto, .required].map fun mode => (mode.name, mode))
    ChoiceMode.name

/-- The name of a mode. -/
def AllowedMode.name : AllowedMode → String
  | .auto => "auto"
  | .required => "required"

def AllowedMode.codec : Codec AllowedMode :=
  Json.enumeration ([AllowedMode.auto, .required].map fun mode => (mode.name, mode))
    AllowedMode.name

def ToolReference.table : Table ToolReference :=
  [.required "type" .text (·.type) fun type tool => { tool with type },
    .required "name" .text (·.name) fun name tool => { tool with name }]

def ToolReference.codec : Codec ToolReference := ToolReference.table.codec {}

def AllowedTools.table : Table AllowedTools :=
  [.required "type" .text (·.type) fun type choice => { choice with type },
    .required "mode" AllowedMode.codec (·.mode) fun mode choice => { choice with mode },
    .required "tools" (.list ToolReference.codec) (·.tools)
      fun tools choice => { choice with tools }]

def AllowedTools.codec : Codec AllowedTools := AllowedTools.table.codec {}

def ToolChoice.codec : Codec ToolChoice where
  read := Json.firstOf
    [fun node => ToolChoice.mode <$> ChoiceMode.codec.read node,
      fun node => ToolChoice.allowed <$> AllowedTools.codec.read node]
  write
    | .mode choice => ChoiceMode.codec.write choice
    | .allowed choice => AllowedTools.codec.write choice

def JsonFormat.table : Table JsonFormat :=
  [.required "name" .text (·.name) fun name format => { format with name },
    .required "schema" .fields (·.schema) fun schema format => { format with schema },
    .optional "strict" .defaulted .boolean (·.strict) fun strict format => { format with strict }]

def TextFormat.codec : Codec TextFormat where
  read := Json.readTagged
    [.ofTable "text" [] () fun _ => .text, .ofTable "json_schema" JsonFormat.table {} .json] none
  write
    | .text => Json.tagged "text" []
    | .json format => Json.tagged "json_schema" (JsonFormat.table.fields format)

def TextConfig.table : Table TextConfig :=
  [.required "format" TextFormat.codec (·.format) fun format config => { config with format }]

def TextConfig.codec : Codec TextConfig := TextConfig.table.codec {}

def Request.table : Table Request :=
  [.required "model" .text (·.model) fun model request => { request with model },
    .required "input" (.list InputItem.codec) (·.input)
      fun input request => { request with input },
    .optional "instructions" .defaulted .text (·.instructions)
      fun instructions request => { request with instructions },
    .optional "temperature" .defaulted .double (·.temperature)
      fun temperature request => { request with temperature },
    .optional "top_p" .defaulted .double (·.topP) fun topP request => { request with topP },
    .optional "max_output_tokens" .defaulted .word32 (·.maxOutputTokens)
      fun maxOutputTokens request => { request with maxOutputTokens },
    .optional "top_logprobs" .defaulted .word32 (·.topLogProbabilities)
      fun topLogProbabilities request => { request with topLogProbabilities },
    .skipped "tools" (.list FunctionTool.codec) (·.tools)
      (fun tools request => { request with tools }) List.isEmpty,
    .optional "tool_choice" .defaulted ToolChoice.codec (·.toolChoice)
      fun toolChoice request => { request with toolChoice },
    .optional "text" .defaulted TextConfig.codec (·.text)
      fun text request => { request with text },
    .optional "stream" .defaulted .boolean (·.stream)
      fun stream request => { request with stream }]

def Request.codec : Codec Request := Request.table.codec {}

end ResponsesBridge.Wire
