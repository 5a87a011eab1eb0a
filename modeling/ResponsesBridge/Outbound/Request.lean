import ResponsesBridge.Outbound.Items
import ResponsesBridge.Outbound.Tools
import ResponsesBridge.Conversation.Request

/-!
# The request that is sent

A request for any service becomes the body of a request to the Responses service, or fails with
the first thing that the service cannot do. The checks have an order: the conversation, the
settings in the order of `settled`, the tools, the choice among the tools.
-/

set_option autoImplicit false

namespace ResponsesBridge.Outbound

open Conversation (Turn Part Settings)
open Wire (TextFormat TextConfig)

/-- The name of an output format whose schema has no title. -/
def defaultFormatName : String := "relay_response"

/-- The media type of JSON output. -/
def jsonMediaType : String := "application/json"

/-- The media types of output that can be asked for; the empty one asks for nothing. -/
def mediaTypes : List String := ["", "text/plain", jsonMediaType]

/-- The text of every part of an instruction. -/
def instructionTexts : List Part → Except Failure (List String)
  | [] => .ok []
  | part :: parts =>
    match part.passage? with
    | some passage => do
      let later ← instructionTexts parts
      return passage.text :: later
    | none => .error (.instructionNotText part.kind)

/-- The text of an instruction, one line for each part; nothing if it is empty. -/
def instructionText (instruction : Turn) : Except Failure (Option String) := do
  let texts ← instructionTexts instruction.parts
  return nonempty? ("\n".intercalate texts)

/-- The schema of the output: the raw one, else the other one. -/
def outputSchema (settings : Settings) : Except Failure Json.Fields :=
  match settings.rawSchema, settings.schema with
  | some raw, _ => schemaFields raw
  | none, some schema => schemaFields (Conversation.Schema.codec.write schema)
  | none, none => .error .jsonWithoutSchema

/-- The name of the output format: the title of the schema, if there is one. -/
def formatName (settings : Settings) : String :=
  ((settings.schema.map fun schema => schema.title).bind nonempty?).getD defaultFormatName

/-- Whether the output has to satisfy a schema. -/
def wantsJson (settings : Settings) : Bool :=
  settings.mediaType == jsonMediaType || settings.schema.isSome || settings.rawSchema.isSome

/-- The configuration of the output text. -/
def textConfig (settings : Settings) : Except Failure (Option TextConfig) :=
  if wantsJson settings then do
    let schema ← outputSchema settings
    return some ⟨.json { name := formatName settings, schema }⟩
  else .ok none

/-- Fails if something that the service does not offer is asked for. -/
def refuseIf (asked : Bool) (failure : Failure) : Except Failure Unit :=
  if asked then .error failure else .ok ()

/-- A request with the settings that concern the generation. -/
def settled (settings : Settings) (request : Wire.Request) : Except Failure Wire.Request := do
  refuseIf settings.topK.isSome .topK
  refuseIf (!settings.stopSequences.isEmpty) .stopSequences
  refuseIf (1 < settings.candidateCount) .multipleCandidates
  refuseIf (settings.frequencyPenalty.isSome || settings.presencePenalty.isSome) .penalties
  let instructions ← match settings.instruction with
    | some instruction => instructionText instruction
    | none => .ok none
  refuseIf (!mediaTypes.contains settings.mediaType) (.mediaType settings.mediaType)
  let text ← textConfig settings
  refuseIf settings.labels.isSome .labels
  refuseIf settings.safety.isSome .safetySettings
  return { request with
    instructions
    text
    temperature := settings.temperature.map (·.convert .double)
    topP := settings.topP.map (·.convert .double)
    maxOutputTokens :=
      if 0 < settings.maxOutputTokens then some settings.maxOutputTokens else none
    topLogProbabilities :=
      if settings.logProbabilities then some (settings.topLogProbabilities.getD 1) else none }

/-- A request with all settings. -/
def configured (settings : Settings) (request : Wire.Request) : Except Failure Wire.Request := do
  let request ← settled settings request
  let tools ← functionTools settings.tools
  let toolChoice ← match settings.toolUse with
    | some use => toolChoice use
    | none => .ok none
  return { request with tools, toolChoice }

/-- **The body of a request.** The fallback is the model of a request that names none. -/
def wireRequest (fallback : String) (request : Conversation.Request) :
    Except Failure Wire.Request := do
  let input ← inputItems request.turns
  refuseIf input.isEmpty .noContents
  let body : Wire.Request :=
    { model := if request.model.isEmpty then fallback else request.model, input }
  match request.settings with
  | some settings => configured settings body
  | none => return body

end ResponsesBridge.Outbound
