import ResponsesBridge.Failure
import ResponsesBridge.Conversation.Reply
import ResponsesBridge.Json.Scan
import ResponsesBridge.Wire.Response

/-!
# The generation of a response

A complete response becomes a generation with one candidate. Texts and refusals are passages,
reasoning is passages that are thoughts, and a function call is a call whose arguments are read
from their JSON text. Items of other types, and a response without any part, are failures.
-/

set_option autoImplicit false

namespace ResponsesBridge.Inbound

open Conversation (Part Call Generation FinishReason Modality)
open Wire (OutputItem OutputContent Response)

/-- The arguments of a call; an empty text means none. -/
def callArguments (text : String) : Except Failure Json.Fields :=
  if text.isEmpty then .ok []
  else
    match Json.readText Json.Codec.fields.read text with
    | .ok arguments => .ok arguments
    | .error fault => .error (.invalidArguments fault)

/-- Why the model stopped, by the reason for which a response is incomplete; an empty reason is
that of a complete one. -/
def finishReason (reason : String) : FinishReason :=
  if reason = "" then .stop
  else if reason = "max_output_tokens" then .maxTokens
  else if reason = "content_filter" then .safety
  else .other

/-! ## Parts -/

/-- The part of an entry of a message; an empty text makes none. -/
def messageParts (entry : OutputContent) : Except Failure (List Part) :=
  if entry.type = "output_text" then
    .ok (if entry.text.isEmpty then [] else [.ofText entry.text])
  else if entry.type = "refusal" then .ok [.ofText entry.refusal]
  else .error (.unsupportedContent entry.type)

/-- The parts of the entries of a message. -/
def entryParts : List OutputContent → Except Failure (List Part)
  | [] => .ok []
  | entry :: entries => do
    let first ← messageParts entry
    let later ← entryParts entries
    return first ++ later

/-- The thoughts of a reasoning item: its content, then its summary. -/
def thoughts (item : OutputItem) : List Part :=
  ((item.content ++ item.summary).filter fun entry => !entry.text.isEmpty).map fun entry =>
    .ofThought entry.text

/-- The parts of an output item. -/
def itemParts (item : OutputItem) : Except Failure (List Part) :=
  if item.type = "message" then entryParts item.content
  else if item.type = "function_call" then do
    let arguments ← callArguments item.arguments
    return [.call ⟨some item.callId, item.name, arguments⟩]
  else if item.type = "reasoning" then .ok (thoughts item)
  else .error (.unsupportedItem item.type)

/-- The parts of output items. -/
def outputParts : List OutputItem → Except Failure (List Part)
  | [] => .ok []
  | item :: items => do
    let first ← itemParts item
    let later ← outputParts items
    return first ++ later

/-- The parts of the whole output; there must be some. -/
def usableParts (items : List OutputItem) : Except Failure (List Part) :=
  if items.isEmpty then .error .noOutput
  else do
    let parts ← outputParts items
    if parts.isEmpty then .error .noUsableOutput else return parts

/-! ## Usage and feedback -/

/-- The usage of a response; all tokens are tokens of text. -/
def usage (used : Wire.Usage) : Conversation.Usage where
  prompt := used.input
  candidates := used.output
  total := used.total
  cached := used.inputDetails.cached
  thoughts := used.outputDetails.reasoning
  promptDetails := [⟨.text, used.input⟩]
  candidatesDetails := [⟨.text, used.output⟩]

/-- The feedback on an incomplete response. -/
def feedback (reason : String) : Option Conversation.PromptFeedback :=
  if reason.isEmpty then none else some ⟨reason, reason⟩

/-- **The generation of a complete response.** -/
def generation (response : Response) : Except Failure Generation := do
  let parts ← usableParts response.output
  return {
    candidates :=
      [{ turn := ⟨Conversation.modelRole, parts⟩
         finishReason := finishReason response.incompleteReason }]
    responseId := response.id
    modelVersion := response.model
    usage := some (usage (response.usage.getD {}))
    feedback := feedback response.incompleteReason }

end ResponsesBridge.Inbound
