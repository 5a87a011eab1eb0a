import ResponsesBridge.Conversation.Turn

/-!
# Replies

A service produces generations: candidates with their token usage. A generation can also be a
fragment of a streamed one. What the caller gets are replies, `Reply.ofGeneration`: the first
candidate, or the reason why there is none.
-/

set_option autoImplicit false

namespace ResponsesBridge.Conversation

open Json (Codec Table Member)

/-- Why the model stopped. Fragments of a streamed generation do not say. -/
inductive FinishReason
  | unspecified
  | stop
  | maxTokens
  | safety
  | other
deriving DecidableEq, Repr

/-- The kind of material to which tokens belong. -/
inductive Modality
  | text
  | image
  | audio
  | video
deriving DecidableEq, Repr

/-- The tokens of one modality. -/
structure ModalityCount where
  modality : Modality := .text
  count : UInt32 := 0
deriving DecidableEq

/-- The tokens that a generation has used. -/
structure Usage where
  prompt : UInt32 := 0
  candidates : UInt32 := 0
  total : UInt32 := 0
  cached : UInt32 := 0
  thoughts : UInt32 := 0
  promptDetails : List ModalityCount := []
  candidatesDetails : List ModalityCount := []
deriving DecidableEq

/-- Why a prompt was blocked or cut short. -/
structure PromptFeedback where
  reason : String := ""
  message : String := ""
deriving DecidableEq

/-- One generated turn. -/
structure Candidate where
  turn : Turn := {}
  finishReason : FinishReason := .unspecified

/-- What a service has generated. -/
structure Generation where
  candidates : List Candidate := []
  responseId : String := ""
  modelVersion : String := ""
  usage : Option Usage := none
  feedback : Option PromptFeedback := none

/-- What the caller gets. A partial reply is repeated by a later one that is not partial. -/
structure Reply where
  turn : Option Turn := none
  isPartial : Bool := false
  turnComplete : Bool := false
  finishReason : Option FinishReason := none
  usage : Option Usage := none
  modelVersion : String := ""
  errorCode : Option String := none
  errorMessage : Option String := none
  metadata : Dictionary Json.Value := .empty

/-- The role of turns that a model has generated. -/
def modelRole : String := "model"

/-- A generation of one part. -/
def Generation.ofPart (part : Part) : Generation :=
  { candidates := [{ turn := ⟨modelRole, [part]⟩ }] }

/-- The first part of the first candidate. -/
def Generation.firstPart? (generation : Generation) : Option Part :=
  generation.candidates.head?.bind fun candidate => candidate.turn.parts.head?

/-- The first candidate of a generation as a reply, or the feedback on the prompt if there is
no candidate. -/
def Reply.ofGeneration (generation : Generation) : Reply :=
  let reply : Reply :=
    { usage := generation.usage, modelVersion := generation.modelVersion }
  match generation.candidates, generation.feedback with
  | candidate :: _, _ =>
    { reply with turn := some candidate.turn, finishReason := some candidate.finishReason }
  | [], some feedback =>
    { reply with errorCode := some feedback.reason, errorMessage := some feedback.message }
  | [], none => reply

/-! ## JSON form -/

/-- The name of a finish reason. -/
def FinishReason.name : FinishReason → String
  | .unspecified => "FINISH_REASON_UNSPECIFIED"
  | .stop => "STOP"
  | .maxTokens => "MAX_TOKENS"
  | .safety => "SAFETY"
  | .other => "OTHER"

def FinishReason.codec : Codec FinishReason :=
  Json.enumeration
    ([FinishReason.unspecified, .stop, .maxTokens, .safety, .other].map fun reason =>
      (reason.name, reason))
    FinishReason.name

/-- The name of a modality. -/
def Modality.name : Modality → String
  | .text => "TEXT"
  | .image => "IMAGE"
  | .audio => "AUDIO"
  | .video => "VIDEO"

def Modality.codec : Codec Modality :=
  Json.enumeration
    ([Modality.text, .image, .audio, .video].map fun modality => (modality.name, modality))
    Modality.name

def ModalityCount.table : Table ModalityCount :=
  [.required "modality" Modality.codec (·.modality) fun modality part => { part with modality },
    .required "token_count" .word32 (·.count) fun count part => { part with count }]

def ModalityCount.codec : Codec ModalityCount := ModalityCount.table.codec {}

def Usage.table : Table Usage :=
  [.required "prompt_token_count" .word32 (·.prompt) fun prompt usage => { usage with prompt },
    .required "candidates_token_count" .word32 (·.candidates)
      fun candidates usage => { usage with candidates },
    .required "total_token_count" .word32 (·.total) fun total usage => { usage with total },
    .defaulted "cached_content_token_count" .word32 (·.cached)
      fun cached usage => { usage with cached },
    .defaulted "thoughts_token_count" .word32 (·.thoughts)
      fun thoughts usage => { usage with thoughts },
    .skipped "prompt_tokens_details" (.list ModalityCount.codec) (·.promptDetails)
      (fun promptDetails usage => { usage with promptDetails }) List.isEmpty,
    .skipped "candidates_tokens_details" (.list ModalityCount.codec) (·.candidatesDetails)
      (fun candidatesDetails usage => { usage with candidatesDetails }) List.isEmpty]

def Usage.codec : Codec Usage := Usage.table.codec {}

def PromptFeedback.table : Table PromptFeedback :=
  [.required "block_reason" .text (·.reason) fun reason feedback => { feedback with reason },
    .required "block_reason_message" .text (·.message)
      fun message feedback => { feedback with message }]

def PromptFeedback.codec : Codec PromptFeedback := PromptFeedback.table.codec {}

def Candidate.table : Table Candidate :=
  [.required "content" Turn.codec (·.turn) fun turn candidate => { candidate with turn },
    .defaulted "finish_reason" FinishReason.codec (·.finishReason)
      fun finishReason candidate => { candidate with finishReason }]

def Candidate.codec : Codec Candidate := Candidate.table.codec {}

def Generation.table : Table Generation :=
  [.required "candidates" (.list Candidate.codec) (·.candidates)
      fun candidates generation => { generation with candidates },
    .skipped "response_id" .text (·.responseId)
      (fun responseId generation => { generation with responseId }) String.isEmpty,
    .skipped "model_version" .text (·.modelVersion)
      (fun modelVersion generation => { generation with modelVersion }) String.isEmpty,
    .optional "usage_metadata" .defaulted Usage.codec (·.usage)
      fun usage generation => { generation with usage },
    .optional "prompt_feedback" .defaulted PromptFeedback.codec (·.feedback)
      fun feedback generation => { generation with feedback }]

def Generation.codec : Codec Generation := Generation.table.codec {}

def Reply.table : Table Reply :=
  [.optional "content" .defaulted Turn.codec (·.turn) fun turn reply => { reply with turn },
    .defaulted "partial" .boolean (·.isPartial) fun isPartial reply => { reply with isPartial },
    .defaulted "turn_complete" .boolean (·.turnComplete)
      fun turnComplete reply => { reply with turnComplete },
    .optional "finish_reason" .defaulted FinishReason.codec (·.finishReason)
      fun finishReason reply => { reply with finishReason },
    .optional "usage_metadata" .defaulted Usage.codec (·.usage)
      fun usage reply => { reply with usage },
    .skipped "model_version" .text (·.modelVersion)
      (fun modelVersion reply => { reply with modelVersion }) String.isEmpty,
    .optional "error_code" .defaulted .text (·.errorCode)
      fun errorCode reply => { reply with errorCode },
    .optional "error_message" .defaulted .text (·.errorMessage)
      fun errorMessage reply => { reply with errorMessage },
    .skipped "custom_metadata" (.dictionary .any) (·.metadata)
      (fun metadata reply => { reply with metadata }) Dictionary.isEmpty]

def Reply.codec : Codec Reply := Reply.table.codec {}

end ResponsesBridge.Conversation
