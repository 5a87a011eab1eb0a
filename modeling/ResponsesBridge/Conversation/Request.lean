import ResponsesBridge.Conversation.Turn
import ResponsesBridge.Conversation.Tool

/-!
# Requests

A request holds the turns of a conversation and the settings of the generation. It is meant for
any service, so it can ask for more than a given service offers.

Some settings are numbers of the 32-bit format. A JSON value of them holds the same number in 64
bits (`Request.codec`), whereas a JSON text of them has the shortest digits of the 32-bit number
(`Request.textCodec`).
-/

set_option autoImplicit false

namespace ResponsesBridge.Conversation

open Json (Codec Table Member)

/-- How strictly one kind of harm is blocked. -/
structure SafetySetting where
  category : String := ""
  threshold : String := ""

/-- The settings of a generation. A zero limit of tokens and a zero number of candidates mean that
they are not given. -/
structure Settings where
  temperature : Option Single := none
  topP : Option Single := none
  topK : Option Single := none
  maxOutputTokens : UInt32 := 0
  stopSequences : List String := []
  candidateCount : UInt32 := 0
  frequencyPenalty : Option Single := none
  presencePenalty : Option Single := none
  logProbabilities : Bool := false
  topLogProbabilities : Option UInt32 := none
  instruction : Option Turn := none
  mediaType : String := ""
  schema : Option Schema := none
  rawSchema : Option Json.Value := none
  safety : Option (List SafetySetting) := none
  labels : Option (Dictionary String) := none
  tools : List Tool := []
  toolUse : Option ToolUse := none

/-- A request; an empty model name stands for the model's own name. -/
structure Request where
  model : String := ""
  turns : List Turn := []
  settings : Option Settings := none

/-! ## JSON form -/

def SafetySetting.table : Table SafetySetting :=
  [.required "category" .text (·.category) fun category setting => { setting with category },
    .required "threshold" .text (·.threshold) fun threshold setting => { setting with threshold }]

def SafetySetting.codec : Codec SafetySetting := SafetySetting.table.codec {}

/-- The settings in the order in which they are written; `single` reads and writes the numbers of
the 32-bit format. -/
def Settings.table (single : Codec Single) : Table Settings :=
  [.optional "temperature" .defaulted single (·.temperature)
      fun temperature settings => { settings with temperature },
    .optional "top_p" .defaulted single (·.topP) fun topP settings => { settings with topP },
    .optional "top_k" .defaulted single (·.topK) fun topK settings => { settings with topK },
    .defaulted "max_output_tokens" .word32 (·.maxOutputTokens)
      fun maxOutputTokens settings => { settings with maxOutputTokens },
    .skipped "stop_sequences" (.list .text) (·.stopSequences)
      (fun stopSequences settings => { settings with stopSequences }) List.isEmpty,
    .defaulted "candidate_count" .word32 (·.candidateCount)
      fun candidateCount settings => { settings with candidateCount },
    .optional "frequency_penalty" .defaulted single (·.frequencyPenalty)
      fun frequencyPenalty settings => { settings with frequencyPenalty },
    .optional "presence_penalty" .defaulted single (·.presencePenalty)
      fun presencePenalty settings => { settings with presencePenalty },
    .defaulted "response_logprobs" .boolean (·.logProbabilities)
      fun logProbabilities settings => { settings with logProbabilities },
    .optional "logprobs" .defaulted .word32 (·.topLogProbabilities)
      fun topLogProbabilities settings => { settings with topLogProbabilities },
    .optional "system_instruction" .defaulted Turn.codec (·.instruction)
      fun instruction settings => { settings with instruction },
    .skipped "response_mime_type" .text (·.mediaType)
      (fun mediaType settings => { settings with mediaType }) String.isEmpty,
    .optional "response_schema" .defaulted Schema.codec (·.schema)
      fun schema settings => { settings with schema },
    .optional "response_json_schema" .defaulted .any (·.rawSchema)
      fun rawSchema settings => { settings with rawSchema },
    .optional "safety_settings" .defaulted (.list SafetySetting.codec) (·.safety)
      fun safety settings => { settings with safety },
    .optional "labels" .defaulted (.dictionary .text) (·.labels)
      fun labels settings => { settings with labels },
    .skipped "tools" (.list Tool.codec) (·.tools) (fun tools settings => { settings with tools })
      List.isEmpty,
    .optional "tool_config" .defaulted ToolUse.codec (·.toolUse)
      fun toolUse settings => { settings with toolUse }]

/-- The request in the order in which it is written. -/
def Request.table (single : Codec Single) : Table Request :=
  [.skipped "model" .text (·.model) (fun model request => { request with model }) String.isEmpty,
    .defaulted "contents" (.list Turn.codec) (·.turns)
      fun turns request => { request with turns },
    .optional "config" .defaulted ((Settings.table single).codec {}) (·.settings)
      fun settings request => { request with settings }]

/-- A 32-bit number, written as the same number in 64 bits. -/
def widened : Codec Single := .floating .single fun value => .real (value.convert .double)

/-- A 32-bit number, written with its own shortest digits. -/
def inOwnDigits : Codec Single := .floating .single .single

/-- Settings as a JSON value. -/
def Settings.codec : Codec Settings := (Settings.table widened).codec {}

/-- A request as a JSON value. -/
def Request.codec : Codec Request := (Request.table widened).codec {}

/-- Settings as the value whose text is theirs. -/
def Settings.textCodec : Codec Settings := (Settings.table inOwnDigits).codec {}

/-- A request as the value whose text is its own. -/
def Request.textCodec : Codec Request := (Request.table inOwnDigits).codec {}

end ResponsesBridge.Conversation
