import ResponsesBridge.Http.Charset
import ResponsesBridge.Http.EventStream
import ResponsesBridge.Inbound.Payload
import ResponsesBridge.Inbound.Response
import ResponsesBridge.Outbound.Request
import ResponsesBridge.Service.Model
import ResponsesBridge.Stream.Replies

/-!
# Calls

A call sends one request for a model and reads what comes back: a whole response
(`Model.generate`) or a stream of events (`Model.stream`); `Model.replies` serves both with one
list of items. A call depends on the outside only through its network, which says what comes back
for a request, so a call is a function, and its outcome tells both what has been sent and what
the caller gets.
-/

set_option autoImplicit false

namespace ResponsesBridge.Service

open Conversation (Reply)
open Http (Header Response Interruption)

/-! ## The network -/

/-- What becomes of a request. -/
inductive Delivery
  /-- The request could not be sent. -/
  | unreachable
  /-- The request was sent, but nothing came back. -/
  | unanswered
  | answered (response : Response)

/-- What the network does with requests. -/
abbrev Network := Http.Request → Delivery

/-- The outcome of a call: what was sent, if anything, and the result. -/
structure Outcome (α : Type) where
  sent : Option Http.Request
  result : α

variable {α β : Type}

/-- An outcome with its result changed. -/
def Outcome.map (change : α → β) (outcome : Outcome α) : Outcome β where
  sent := outcome.sent
  result := change outcome.result

/-! ## Sending -/

/-- The target of a request to a URL. -/
def targetOf (url : Url) : String :=
  (if url.path = .segments [] then "/" else url.path.toText) ++ Url.markedText "?" url.query

/-- The headers of a request for a model, in the order of their names. -/
def Model.headers (model : Model) : List Header :=
  [⟨"authorization", "Bearer " ++ model.apiKey⟩, ⟨Http.contentType, Outbound.jsonMediaType⟩]
    ++ (model.organization.map (Header.mk "openai-organization")).toList
    ++ (model.project.map (Header.mk "openai-project")).toList

/-- The text of a body. -/
def bodyText (body : Wire.Request) : String :=
  (Wire.Request.codec.write body).toText

/-- The request that carries a body to a model, if its endpoint is an address and its headers may
be sent. -/
def Model.request? (model : Model) (body : Wire.Request) : Option Http.Request := do
  let url ← Url.ofText? model.endpoint
  let isWeb := url.scheme == "http" || url.scheme == "https"
  if isWeb && model.headers.all fun header => Http.isLegalValue header.value then
    some {
      method := "POST"
      target := targetOf url
      headers := model.headers
      body := bodyText body }
  else none

/-- The message of a response that refuses a request: that of its error if it holds one, else the
text of the body. -/
def refusalMessage (response : Response) : String :=
  let text := if response.isComplete then response.text else ""
  match Json.readText Wire.ErrorBody.codec.read text with
  | .ok body => body.error.message
  | .error _ => Text.trim text

/-- A response that grants a request, or the failure that it reports. -/
def granted (response : Response) : Except Failure Response :=
  if response.isSuccess then .ok response
  else .error (.refused response.status (refusalMessage response))

/-- What comes back for a body. -/
def Model.send (model : Model) (network : Network) (body : Wire.Request) :
    Outcome (Except Failure Response) :=
  match model.request? body with
  | none => ⟨none, .error .callFailed⟩
  | some request =>
    match network request with
    | .unreachable => ⟨none, .error .callFailed⟩
    | .unanswered => ⟨some request, .error .callFailed⟩
    | .answered response => ⟨some request, granted response⟩

/-- What comes back for a request, which may ask for a stream. -/
def Model.call (model : Model) (network : Network) (streaming : Bool)
    (request : Conversation.Request) : Outcome (Except Failure Response) :=
  match Outbound.wireRequest model.name request with
  | .error failure => ⟨none, .error failure⟩
  | .ok body =>
    model.send network (if streaming then { body with stream := some true } else body)

/-! ## Whole responses -/

/-- The names under which a reply tells the response and the model that it comes from. -/
def responseIdName : String := "openai_response_id"

/-- The name under which a reply tells the model. -/
def modelName : String := "openai_model"

/-- The reply of the body of a response. -/
def replyOf (body : Wire.Response) : Except Failure Reply := do
  let generation ← Inbound.generation body
  let reply := Reply.ofGeneration generation
  return { reply with
    metadata := (reply.metadata.insert responseIdName (.text body.id)).insert modelName
      (.text body.model) }

/-- The reply of a response. -/
def reply (response : Response) : Except Failure Reply :=
  if response.isComplete then
    match Json.readOctets Wire.Response.codec.optional.read response.body with
    | .error fault => .error (.invalidResponse fault)
    | .ok none => .error .emptyResponse
    | .ok (some body) => replyOf body
  else .error .callFailed

/-- **A call for a whole response.** -/
def Model.generate (model : Model) (network : Network) (request : Conversation.Request) :
    Outcome (Except Failure Reply) :=
  (model.call network false request).map fun result => result >>= reply

/-! ## Streams -/

/-- The failure that an interruption is. -/
def interruptionFailure : Interruption → Failure
  | .connection => .callFailed
  | .notText octets =>
    .streamError ("UTF8 error: invalid utf-8 sequence of " ++ toString octets
      ++ " bytes from index 0")
  | .halfCharacter => .streamError "UTF8 error: incomplete utf-8 byte sequence from index 0"

/-- The events of payloads, and the failure at which they break off. -/
def events (payloads : List String) (interruption : Option Interruption) :
    List (Except Failure Wire.Event) :=
  payloads.filterMap Inbound.event?
    ++ (interruption.map fun interruption => .error (interruptionFailure interruption)).toList

/-- The items of the stream that a response is. -/
def streamReplies (response : Response) : Except Failure (List (Except Failure Reply)) :=
  if response.isEventStream then
    let (payloads, interruption) := response.payloads
    .ok (Stream.replies Stream.accumulating (events payloads interruption))
  else .error .streamingUnavailable

/-- **A call for a stream.** -/
def Model.stream (model : Model) (network : Network) (request : Conversation.Request) :
    Outcome (Except Failure (List (Except Failure Reply))) :=
  (model.call network true request).map fun result => result >>= streamReplies

/-! ## Both -/

/-- The items of a result: its own, or its failure. -/
def itemsOrFailure : Except Failure (List (Except Failure Reply)) → List (Except Failure Reply)
  | .ok items => items
  | .error failure => [.error failure]

/-- **A call for a list of items.** A whole response is one item, and so is the failure to get any
stream. -/
def Model.replies (model : Model) (network : Network) (streaming : Bool)
    (request : Conversation.Request) : Outcome (List (Except Failure Reply)) :=
  if streaming then (model.stream network request).map itemsOrFailure
  else (model.generate network request).map fun result => [result]

end ResponsesBridge.Service
