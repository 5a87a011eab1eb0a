import ResponsesBridge.Json.Choice

/-!
# Responses on the wire

What the Responses service answers with: output items, token usage, and the details of incomplete
and failed responses; and the body of an error. Items and their entries keep the name of their
type as text, so unknown types survive reading and can be reported.
-/

set_option autoImplicit false

namespace ResponsesBridge.Wire

open Json (Codec Table Member)

/-- An entry of a message or of a reasoning item. -/
structure OutputContent where
  type : String := ""
  text : String := ""
  refusal : String := ""

/-- An output item. Which of the members have a meaning depends on its type. -/
structure OutputItem where
  type : String := ""
  id : String := ""
  role : Option String := none
  content : List OutputContent := []
  summary : List OutputContent := []
  name : String := ""
  callId : String := ""
  arguments : String := ""

/-- Details of the input tokens. -/
structure InputTokenDetails where
  cached : UInt32 := 0

/-- Details of the output tokens. -/
structure OutputTokenDetails where
  reasoning : UInt32 := 0

/-- The tokens that a response has used. -/
structure Usage where
  input : UInt32 := 0
  inputDetails : InputTokenDetails := {}
  output : UInt32 := 0
  outputDetails : OutputTokenDetails := {}
  total : UInt32 := 0

/-- Why a response is incomplete. -/
structure IncompleteDetails where
  reason : String := ""

/-- Why a response has failed. -/
structure ResponseError where
  code : String := ""
  message : String := ""

/-- A response. -/
structure Response where
  id : String := ""
  model : String := ""
  status : Option String := none
  output : List OutputItem := []
  usage : Option Usage := none
  incomplete : Option IncompleteDetails := none
  error : Option ResponseError := none

/-- The reason why a response is incomplete; empty when it is complete. -/
def Response.incompleteReason (response : Response) : String :=
  match response.incomplete with
  | some details => details.reason
  | none => ""

/-- What the body of an error says. -/
structure ErrorDetails where
  message : String := ""
  type : Option String := none
  param : Option String := none
  code : Option String := none

/-- The body of an error. -/
structure ErrorBody where
  error : ErrorDetails := {}

/-! ## JSON form -/

def OutputContent.table : Table OutputContent :=
  [.required "type" .text (·.type) fun type content => { content with type },
    .skipped "text" .text (·.text) (fun text content => { content with text }) String.isEmpty,
    .skipped "refusal" .text (·.refusal) (fun refusal content => { content with refusal })
      String.isEmpty]

def OutputContent.codec : Codec OutputContent := OutputContent.table.codec {}

def OutputItem.table : Table OutputItem :=
  [.required "type" .text (·.type) fun type item => { item with type },
    .skipped "id" .text (·.id) (fun id item => { item with id }) String.isEmpty,
    .optional "role" .defaulted .text (·.role) fun role item => { item with role },
    .skipped "content" (.list OutputContent.codec) (·.content)
      (fun content item => { item with content }) List.isEmpty,
    .skipped "summary" (.list OutputContent.codec) (·.summary)
      (fun summary item => { item with summary }) List.isEmpty,
    .skipped "name" .text (·.name) (fun name item => { item with name }) String.isEmpty,
    .skipped "call_id" .text (·.callId) (fun callId item => { item with callId }) String.isEmpty,
    .skipped "arguments" .text (·.arguments) (fun arguments item => { item with arguments })
      String.isEmpty]

def OutputItem.codec : Codec OutputItem := OutputItem.table.codec {}

def InputTokenDetails.table : Table InputTokenDetails :=
  [.defaulted "cached_tokens" .word32 (·.cached) fun cached details => { details with cached }]

def OutputTokenDetails.table : Table OutputTokenDetails :=
  [.defaulted "reasoning_tokens" .word32 (·.reasoning)
    fun reasoning details => { details with reasoning }]

def Usage.table : Table Usage :=
  [.defaulted "input_tokens" .word32 (·.input) fun input usage => { usage with input },
    .defaulted "input_tokens_details" (InputTokenDetails.table.codec {}) (·.inputDetails)
      fun inputDetails usage => { usage with inputDetails },
    .defaulted "output_tokens" .word32 (·.output) fun output usage => { usage with output },
    .defaulted "output_tokens_details" (OutputTokenDetails.table.codec {}) (·.outputDetails)
      fun outputDetails usage => { usage with outputDetails },
    .defaulted "total_tokens" .word32 (·.total) fun total usage => { usage with total }]

def Usage.codec : Codec Usage := Usage.table.codec {}

def IncompleteDetails.table : Table IncompleteDetails :=
  [.defaulted "reason" .text (·.reason) fun reason details => { details with reason }]

def ResponseError.table : Table ResponseError :=
  [.defaulted "code" .text (·.code) fun code error => { error with code },
    .defaulted "message" .text (·.message) fun message error => { error with message }]

def Response.table : Table Response :=
  [.defaulted "id" .text (·.id) fun id response => { response with id },
    .defaulted "model" .text (·.model) fun model response => { response with model },
    .optional "status" .defaulted .text (·.status)
      fun status response => { response with status },
    .defaulted "output" (.list OutputItem.codec) (·.output)
      fun output response => { response with output },
    .optional "usage" .defaulted Usage.codec (·.usage)
      fun usage response => { response with usage },
    .optional "incomplete_details" .defaulted (IncompleteDetails.table.codec {}) (·.incomplete)
      fun incomplete response => { response with incomplete },
    .optional "error" .defaulted (ResponseError.table.codec {}) (·.error)
      fun error response => { response with error }]

def Response.codec : Codec Response := Response.table.codec {}

def ErrorDetails.table : Table ErrorDetails :=
  [.required "message" .text (·.message) fun message error => { error with message },
    .nullable "type" .defaulted .text (·.type) fun type error => { error with type },
    .nullable "param" .defaulted .text (·.param) fun param error => { error with param },
    .nullable "code" .defaulted .text (·.code) fun code error => { error with code }]

def ErrorBody.table : Table ErrorBody :=
  [.required "error" (ErrorDetails.table.codec {}) (·.error)
    fun error body => { body with error }]

def ErrorBody.codec : Codec ErrorBody := ErrorBody.table.codec {}

end ResponsesBridge.Wire
