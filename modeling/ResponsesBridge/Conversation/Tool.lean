import ResponsesBridge.Conversation.Schema

/-!
# Tools

A tool offers functions to the model, or switches on a capability that is built into the service.
A calling policy says whether the model may or must call functions, and which ones.
-/

set_option autoImplicit false

namespace ResponsesBridge.Conversation

open Json (Codec Table Member)

/-- A function that the model may call. Its parameters are given as a schema or as raw JSON; the
schema comes first. -/
structure Declaration where
  name : String := ""
  description : String := ""
  parameters : Option Schema := none
  rawParameters : Option Json.Value := none

/-- A tool. Each capability is present when it has a value, whatever that value is. -/
structure Tool where
  declarations : List Declaration := []
  retrieval : Option Json.Value := none
  webSearch : Option Json.Value := none
  webSearchRetrieval : Option Json.Value := none
  enterpriseWebSearch : Option Json.Value := none
  maps : Option Json.Value := none
  urlContext : Option Json.Value := none
  computerUse : Option Json.Value := none
  codeExecution : Option Json.Value := none

/-- The capabilities of a tool under their names, in the order in which they are reported. -/
def Tool.capabilities (tool : Tool) : List (String × Option Json.Value) :=
  [("retrieval", tool.retrieval), ("web_search", tool.webSearch),
    ("web_search_retrieval", tool.webSearchRetrieval),
    ("enterprise_web_search", tool.enterpriseWebSearch), ("maps", tool.maps),
    ("url_context", tool.urlContext), ("computer_use", tool.computerUse),
    ("code_execution", tool.codeExecution)]

/-- The name of the first capability that a tool switches on. -/
def Tool.capability? (tool : Tool) : Option String :=
  (tool.capabilities.find? fun capability => capability.2.isSome).map Prod.fst

/-- Whether the model may call functions: left to the service, left to the model, required,
forbidden, or checked against the declarations. -/
inductive CallingMode
  | unspecified
  | auto
  | any
  | none
  | validated
deriving DecidableEq, Repr

/-- The name of a mode. -/
def CallingMode.name : CallingMode → String
  | .unspecified => "MODE_UNSPECIFIED"
  | .auto => "AUTO"
  | .any => "ANY"
  | .none => "NONE"
  | .validated => "VALIDATED"

/-- The mode of calling, and the functions to which it is restricted; no names mean no
restriction. -/
structure CallingPolicy where
  mode : CallingMode := .unspecified
  allowed : List String := []

/-- How tools are used. -/
structure ToolUse where
  calling : Option CallingPolicy := none

/-! ## JSON form -/

def Declaration.table : Table Declaration :=
  [.required "name" .text (·.name) fun name declaration => { declaration with name },
    .skipped "description" .text (·.description)
      (fun description declaration => { declaration with description }) String.isEmpty,
    .optional "parameters" .defaulted Schema.codec (·.parameters)
      fun parameters declaration => { declaration with parameters },
    .optional "parameters_json_schema" .defaulted .any (·.rawParameters)
      fun rawParameters declaration => { declaration with rawParameters }]

def Declaration.codec : Codec Declaration := Declaration.table.codec {}

def Tool.table : Table Tool :=
  [.skipped "function_declarations" (.list Declaration.codec) (·.declarations)
      (fun declarations tool => { tool with declarations }) List.isEmpty,
    .optional "retrieval" .defaulted .any (·.retrieval)
      fun retrieval tool => { tool with retrieval },
    .optional "web_search" .defaulted .any (·.webSearch)
      fun webSearch tool => { tool with webSearch },
    .optional "web_search_retrieval" .defaulted .any (·.webSearchRetrieval)
      fun webSearchRetrieval tool => { tool with webSearchRetrieval },
    .optional "enterprise_web_search" .defaulted .any (·.enterpriseWebSearch)
      fun enterpriseWebSearch tool => { tool with enterpriseWebSearch },
    .optional "maps" .defaulted .any (·.maps) fun maps tool => { tool with maps },
    .optional "url_context" .defaulted .any (·.urlContext)
      fun urlContext tool => { tool with urlContext },
    .optional "computer_use" .defaulted .any (·.computerUse)
      fun computerUse tool => { tool with computerUse },
    .optional "code_execution" .defaulted .any (·.codeExecution)
      fun codeExecution tool => { tool with codeExecution }]

def Tool.codec : Codec Tool := Tool.table.codec {}

/-- The modes under their names. -/
def CallingMode.names : List (String × CallingMode) :=
  [CallingMode.unspecified, .auto, .any, .none, .validated].map fun mode => (mode.name, mode)

def CallingMode.codec : Codec CallingMode := Json.enumeration CallingMode.names CallingMode.name

def CallingPolicy.table : Table CallingPolicy :=
  [.defaulted "mode" CallingMode.codec (·.mode) fun mode policy => { policy with mode },
    .skipped "allowed_function_names" (.list .text) (·.allowed)
      (fun allowed policy => { policy with allowed }) List.isEmpty]

def CallingPolicy.codec : Codec CallingPolicy := CallingPolicy.table.codec {}

def ToolUse.table : Table ToolUse :=
  [.optional "function_calling_config" .defaulted CallingPolicy.codec (·.calling)
    fun calling use => { use with calling }]

def ToolUse.codec : Codec ToolUse := ToolUse.table.codec {}

end ResponsesBridge.Conversation
