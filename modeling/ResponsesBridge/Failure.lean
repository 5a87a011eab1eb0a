import ResponsesBridge.Json.Node
import ResponsesBridge.Text.Quoted

/-!
# Failures

Every way in which a request cannot be sent or an answer cannot be understood, by its cause. A
failure has a category, so that callers can tell what the service lacks from what they have done
wrong, and a message.
-/

set_option autoImplicit false

namespace ResponsesBridge

open Json (Fault)

/-- The broad class of a failure. -/
inductive Category
  /-- The caller gave incomplete input. -/
  | precondition
  /-- The request asks for something that the service does not offer. -/
  | capabilityGap
  /-- One side uses something that the other side does not have. -/
  | protocol
  /-- An answer belongs to no open call. -/
  | correlation
  /-- The network failed, or the service reports an error. -/
  | transport
deriving DecidableEq, Repr

/-- The cause of a failure. -/
inductive Failure
  | modelNameRequired
  | missingCredentials
  | noContents
  | callWithoutName
  | declarationWithoutName (tool index : Nat)
  | answerWithoutCall (name : String)
  | topK
  | stopSequences
  | multipleCandidates
  | penalties
  | labels
  | safetySettings
  | builtInTool (index : Nat) (capability : String)
  | toolWithoutFunctions (index : Nat)
  | callingMode (mode : String)
  | mediaType (wanted : String)
  | jsonWithoutSchema
  | emptySchema
  | invalidSchema (kind : String)
  | invalidArguments (fault : Fault)
  | unwritable (what : String) (fault : Fault)
  | unsupportedPart (kind : String)
  | unsupportedRole (role : String)
  | instructionNotText (kind : String)
  | unsupportedItem (type : String)
  | unsupportedContent (type : String)
  | emptyResponse
  | invalidResponse (fault : Fault)
  | noOutput
  | noUsableOutput
  | malformedEvent (fault : Fault)
  | unknownCall (id : String)
  | callFailed
  | refused (status : Nat) (message : String)
  | responseFailed (message : String)
  | streamError (message : String)
  | streamingUnavailable
deriving DecidableEq, Repr

namespace Failure

/-- The category of a failure. -/
def category : Failure → Category
  | modelNameRequired | missingCredentials | noContents | callWithoutName
  | declarationWithoutName _ _ | answerWithoutCall _ => .precondition
  | topK | stopSequences | multipleCandidates | penalties | labels | safetySettings
  | builtInTool _ _ | toolWithoutFunctions _ | callingMode _ | mediaType _ | jsonWithoutSchema
  | emptySchema => .capabilityGap
  | invalidSchema _ | invalidArguments _ | unwritable _ _ | unsupportedPart _ | unsupportedRole _
  | instructionNotText _ | unsupportedItem _ | unsupportedContent _ | emptyResponse
  | invalidResponse _ | noOutput | noUsableOutput | malformedEvent _ => .protocol
  | unknownCall _ => .correlation
  | callFailed | refused _ _ | responseFailed _ | streamError _ | streamingUnavailable =>
    .transport

/-- Whether the request asks for something that the service does not offer. -/
def isCapabilityGap (failure : Failure) : Bool :=
  failure.category == .capabilityGap

/-- The fault of the JSON text that caused a failure, if one did. -/
def fault? : Failure → Option Fault
  | invalidArguments fault | unwritable _ fault | invalidResponse fault | malformedEvent fault =>
    some fault
  | _ => none

/-- The message of a failure. Where a fault of a JSON text or of the network is behind it, the
message ends at the colon after which that fault may be described. -/
def message : Failure → String
  | modelNameRequired => "model name is required"
  | missingCredentials => "an API key is required to call the Responses API"
  | noContents => "request has no contents to convert"
  | callWithoutName => "function call missing name"
  | declarationWithoutName tool index =>
    "function declaration " ++ toString index ++ " in tool " ++ toString tool
      ++ " is missing a name"
  | answerWithoutCall name =>
    "response for function " ++ Text.quote name ++ " has no call id and no call is pending"
  | topK => "top_k is not supported by the Responses API"
  | stopSequences => "stop sequences are not supported"
  | multipleCandidates => "multiple candidates per request are not supported"
  | penalties => "frequency/presence penalties are not supported"
  | labels => "request labels are not supported"
  | safetySettings => "safety settings are not supported"
  | builtInTool index capability =>
    "non-function tools are not supported (tool " ++ toString index ++ " declares " ++ capability
      ++ ")"
  | toolWithoutFunctions index =>
    "tool " ++ toString index ++ " does not declare any functions"
  | callingMode mode => "unsupported tool calling mode " ++ Text.quote mode
  | mediaType wanted => "response mime type " ++ Text.quote wanted ++ " is not supported"
  | jsonWithoutSchema => "json response requested without schema"
  | emptySchema => "empty json schema"
  | invalidSchema kind => "schema must be a JSON object, got " ++ kind
  | invalidArguments _ => "failed to parse function call arguments: "
  | unwritable what _ => "failed to serialize " ++ what ++ ": "
  | unsupportedPart kind => "unsupported content part: " ++ kind
  | unsupportedRole role => "unsupported role " ++ Text.quote role
  | instructionNotText kind => "system instruction contains a non-text part: " ++ kind
  | unsupportedItem type => "unsupported output item type " ++ Text.quote type
  | unsupportedContent type => "unsupported message content type " ++ Text.quote type
  | emptyResponse => "empty response"
  | invalidResponse _ => "failed to decode response body: "
  | noOutput => "response included no output items"
  | noUsableOutput => "response output did not contain text or tool content"
  | malformedEvent _ => "malformed stream event: "
  | unknownCall id =>
    "received function response for unknown or already completed call id " ++ Text.quote id
  | callFailed => "call failed: "
  | refused status message => "provider returned " ++ toString status ++ ": " ++ message
  | responseFailed message => "response failed: " ++ message
  | streamError message => "stream error: " ++ message
  | streamingUnavailable => "streaming unavailable"

end Failure

/-- Two steps succeed together exactly if the first one does and the second one does behind it. -/
theorem bind_eq_ok_iff {ε α β : Type} {first : Except ε α} {next : α → Except ε β}
    {result : β} :
    first >>= next = .ok result ↔ ∃ value, first = .ok value ∧ next value = .ok result := by
  cases first with
  | error failure =>
      constructor
      · intro succeeds
        cases succeeds
      · rintro ⟨_, succeeds, _⟩
        cases succeeds
  | ok value => simp [bind, Except.bind]

end ResponsesBridge
