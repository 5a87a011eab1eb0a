import ResponsesBridge.Proofs.Outbound.Obstacles
import ResponsesBridge.Service.Exchange

/-!
# What calls send

A call for a whole response and a call for a stream send the same request, but for one member at the
end of its body (`calls_send_alike`). The two ways part only behind the granted response: what keeps
a request from being sent, and what refuses it, is the same failure for both, and `Model.replies`
reports it in both modes.

The body of a request has no member `stream` of its own (`stream_wireRequest`), and its table ends
with that member, so asking for a stream adds a last member to the object that is written
(`bodyText_streamed`).
-/

set_option autoImplicit false

namespace ResponsesBridge

open Json (Fields Table Value)

/-! ## A last member -/

namespace Json

/-- A member that is added to other ones stands in front of the closing brace. -/
theorem writeMoreMembers_concat (members : Fields) (name : String) (value : Value) :
    ∃ text, writeMoreMembers members = text ++ ['}'] ∧
      writeMoreMembers (members ++ [(name, value)]) =
        text ++ ',' :: (quoted name ++ ':' :: (value.write ++ ['}'])) := by
  induction members with
  | nil => exact ⟨[], rfl, rfl⟩
  | cons member members ih =>
      obtain ⟨other, content⟩ := member
      obtain ⟨text, written, longer⟩ := ih
      refine ⟨',' :: (quoted other ++ ':' :: (content.write ++ text)), ?_, ?_⟩
      · simp only [writeMoreMembers, written, List.cons_append, List.append_assoc]
      · simp only [List.cons_append, writeMoreMembers, longer, List.append_assoc]

/-- The same behind the first member. -/
theorem write_object_concat {members : Fields} (filled : members ≠ []) (name : String)
    (value : Value) :
    ∃ text, (Value.object members).write = text ++ ['}'] ∧
      (Value.object (members ++ [(name, value)])).write =
        text ++ ',' :: (quoted name ++ ':' :: (value.write ++ ['}'])) := by
  cases members with
  | nil => exact absurd rfl filled
  | cons member members =>
      obtain ⟨other, content⟩ := member
      obtain ⟨text, written, longer⟩ := writeMoreMembers_concat members name value
      refine ⟨'{' :: (quoted other ++ ':' :: (content.write ++ text)), ?_, ?_⟩
      · simp only [Value.write, writeMembers, written, List.cons_append, List.append_assoc]
      · simp only [Value.write, List.cons_append, writeMembers, longer, List.append_assoc]

end Json

/-- The member `stream` is written behind the others. -/
theorem Wire.Request.fields_eq (body : Wire.Request) :
    Wire.Request.table.fields body = Table.fields Wire.Request.table.dropLast body ++
      (body.stream.map fun asked => ("stream", Value.boolean asked)).toList := by
  have rows : Wire.Request.table =
      Wire.Request.table.dropLast ++ [Wire.Request.table.getLast (List.cons_ne_nil _ _)] := rfl
  rw [Table.fields, rows, List.filterMap_append]
  cases asked : body.stream with
  | none => simp [Table.fields, Wire.Request.table, Json.Member.optional, Json.Member.of, asked]
  | some value =>
      simp [Table.fields, Wire.Request.table, Json.Member.optional, Json.Member.of, asked,
        Json.Codec.optional, Json.Codec.boolean]

/-- A body that asks for a stream has one more member than without. -/
theorem Wire.Request.fields_streamed {body : Wire.Request} (silent : body.stream = none) :
    Wire.Request.table.fields { body with stream := some true } =
      Wire.Request.table.fields body ++ [("stream", .boolean true)] := by
  have others : Table.fields Wire.Request.table.dropLast { body with stream := some true } =
      Table.fields Wire.Request.table.dropLast body := rfl
  rw [fields_eq, others, fields_eq body, silent]
  simp

theorem Wire.Request.fields_ne_nil (body : Wire.Request) :
    Wire.Request.table.fields body ≠ [] :=
  List.cons_ne_nil _ _

namespace Outbound

/-- A body does not say whether it asks for a stream. -/
theorem stream_wireRequest {fallback : String} {request : Conversation.Request}
    {body : Wire.Request} (converted : wireRequest fallback request = .ok body) :
    body.stream = none := by
  have guarded := guarded_wireRequest fallback request
  rw [converted] at guarded
  exact guarded.good.whole

end Outbound

namespace Service

open Http (Response)

/-- The text of a body that asks for a stream. -/
theorem bodyText_streamed {body : Wire.Request} (silent : body.stream = none) :
    ∃ text, bodyText body = text ++ "\x7d" ∧
      bodyText { body with stream := some true } = text ++ ",\"stream\":true\x7d" := by
  obtain ⟨text, written, longer⟩ := Json.write_object_concat
    (Wire.Request.fields_ne_nil body) "stream" (.boolean true)
  rw [← Wire.Request.fields_streamed silent] at longer
  refine ⟨String.ofList text, ?_, ?_⟩
  · exact (congrArg String.ofList written).trans String.ofList_append
  · exact (congrArg String.ofList longer).trans String.ofList_append

/-! ## Sending -/

/-- A model that can be called: its endpoint is an address of the web, and its key, organization and
project may stand in a header. -/
structure Model.Callable (model : Model) : Prop where
  endpoint : ∃ url, Url.ofText? model.endpoint = some url ∧ url.scheme ∈ ["http", "https"]
  apiKey : Http.isLegalValue model.apiKey
  organization : ∀ value ∈ model.organization, Http.isLegalValue value
  project : ∀ value ∈ model.project, Http.isLegalValue value

theorem Model.Callable.headers {model : Model} (callable : model.Callable) :
    (model.headers.all fun header => Http.isLegalValue header.value) = true := by
  have key : Http.isLegalValue ("Bearer " ++ model.apiKey) := by
    have legal : model.apiKey.toList.all _ = true := callable.apiKey
    rw [Http.isLegalValue, String.toList_append, List.all_append, legal]
    rfl
  have type : Http.isLegalValue Outbound.jsonMediaType := rfl
  have organization : (model.organization.map (Http.Header.mk "openai-organization")).toList.all
      fun header => Http.isLegalValue header.value := by
    cases given : model.organization with
    | none => rfl
    | some value => simpa using callable.organization value given
  have project : (model.project.map (Http.Header.mk "openai-project")).toList.all
      fun header => Http.isLegalValue header.value := by
    cases given : model.project with
    | none => rfl
    | some value => simpa using callable.project value given
  simp only [Model.headers, List.all_append, List.all_cons, List.all_nil, key, type, organization,
    project, Bool.and_self]

/-- The requests for a callable model differ in their bodies only. -/
theorem Model.Callable.request? {model : Model} (callable : model.Callable) :
    ∃ target, ∀ body : Wire.Request,
      model.request? body = some ⟨"POST", target, model.headers, bodyText body⟩ := by
  obtain ⟨url, address, scheme⟩ := callable.endpoint
  refine ⟨targetOf url, fun body => ?_⟩
  have web : (url.scheme == "http" || url.scheme == "https") = true := by simpa using scheme
  simp only [Model.request?, address, bind, Option.bind, web, callable.headers, Bool.and_self]
  rfl

section Calls

variable {model : Model} {network : Network} {streaming : Bool} {request : Conversation.Request}

/-- The body that a call sends for the body of a request. -/
def sentBody (streaming : Bool) (body : Wire.Request) : Wire.Request :=
  if streaming then { body with stream := some true } else body

theorem call_of_error {failure : Failure}
    (fails : Outbound.wireRequest model.name request = .error failure) :
    model.call network streaming request = ⟨none, .error failure⟩ := by
  rw [Model.call, fails]

theorem call_of_ok {body : Wire.Request}
    (converted : Outbound.wireRequest model.name request = .ok body) :
    model.call network streaming request = model.send network (sentBody streaming body) := by
  rw [Model.call, converted]
  rfl

theorem sent_send {body : Wire.Request} {carrier : Http.Request}
    (carries : model.request? body = some carrier) (reachable : network carrier ≠ .unreachable) :
    (model.send network body).sent = some carrier := by
  simp only [Model.send, carries]
  cases delivery : network carrier with
  | unreachable => exact absurd delivery reachable
  | unanswered => rfl
  | answered response => rfl

theorem send_of_answered {body : Wire.Request} {carrier : Http.Request} {response : Response}
    (carries : model.request? body = some carrier)
    (answered : network carrier = .answered response) :
    model.send network body = ⟨some carrier, granted response⟩ := by
  simp only [Model.send, carries, answered]

theorem granted_of_failed {response : Response} (failed : 400 ≤ response.status) :
    granted response = .error (.refused response.status (refusalMessage response)) := by
  have refused : response.isSuccess = false := by
    simp only [Response.isSuccess, decide_eq_false_iff_not]
    omega
  rw [granted, refused]
  rfl

end Calls

/-! ## All calls of a model -/

/-- What the calls of a model for a request send: those for a whole response the first request,
those for a stream the second one. -/
structure Model.Sends (model : Model) (network : Network) (request : Conversation.Request)
    (plain streamed : Option Http.Request) : Prop where
  generate : (model.generate network request).sent = plain
  stream : (model.stream network request).sent = streamed
  plainReplies : (model.replies network false request).sent = plain
  streamedReplies : (model.replies network true request).sent = streamed

/-- All calls of a model for a request fail alike. -/
structure Model.Fails (model : Model) (network : Network) (request : Conversation.Request)
    (failure : Failure) : Prop where
  generate : (model.generate network request).result = .error failure
  stream : (model.stream network request).result = .error failure
  replies : ∀ streaming, (model.replies network streaming request).result = [.error failure]

/-- All that calls send is sent by `Model.call`. -/
theorem sends_of_call (model : Model) (network : Network) (request : Conversation.Request) :
    model.Sends network request (model.call network false request).sent
      (model.call network true request).sent :=
  ⟨rfl, rfl, rfl, rfl⟩

/-- A failure of `Model.call` is passed on. -/
theorem fails_of_call {model : Model} {network : Network} {request : Conversation.Request}
    {failure : Failure}
    (fails : ∀ streaming, (model.call network streaming request).result = .error failure) :
    model.Fails network request failure := by
  have generate : (model.generate network request).result = .error failure := by
    rw [Model.generate, Outcome.map, fails false]
    rfl
  have stream : (model.stream network request).result = .error failure := by
    rw [Model.stream, Outcome.map, fails true]
    rfl
  refine ⟨generate, stream, ?_⟩
  intro streaming
  cases streaming with
  | false => exact congrArg (fun result => [result]) generate
  | true => exact congrArg itemsOrFailure stream

/-- **Calls for a whole response and for a stream send the same request.** If the request cannot be
converted, then every call sends nothing and fails with that failure. Otherwise every call sends one
request with the text of the body, behind which a call for a stream inserts one member before the
closing brace; and if the same response refuses both, then every call fails with its status and its
message. -/
theorem calls_send_alike (model : Model) (request : Conversation.Request) :
    (∀ failure, Outbound.wireRequest model.name request = .error failure →
      ∀ network, model.Sends network request none none ∧
        model.Fails network request failure) ∧
    ∀ body, Outbound.wireRequest model.name request = .ok body → model.Callable →
      ∃ plain streamed : Http.Request,
        plain.body = bodyText body ∧
        streamed = { plain with body := streamed.body } ∧
        (∃ text, plain.body = text ++ "\x7d" ∧
          streamed.body = text ++ ",\"stream\":true\x7d") ∧
        ∀ network : Network,
          (network plain ≠ .unreachable → network streamed ≠ .unreachable →
            model.Sends network request (some plain) (some streamed)) ∧
          ∀ response : Response, 400 ≤ response.status → response.status ≤ 599 →
            network plain = .answered response → network streamed = .answered response →
            model.Fails network request
              (.refused response.status (refusalMessage response)) := by
  refine ⟨?_, ?_⟩
  · intro failure fails network
    have plain : model.call network false request = ⟨none, .error failure⟩ := call_of_error fails
    have streamed : model.call network true request = ⟨none, .error failure⟩ := call_of_error fails
    have sends := sends_of_call model network request
    rw [plain, streamed] at sends
    refine ⟨sends, fails_of_call ?_⟩
    intro streaming
    rw [call_of_error fails]
  · intro body converted callable
    obtain ⟨target, carries⟩ := callable.request?
    have call (network : Network) (streaming : Bool) :
        model.call network streaming request = model.send network (sentBody streaming body) :=
      call_of_ok converted
    have text := bodyText_streamed (Outbound.stream_wireRequest converted)
    refine ⟨⟨"POST", target, model.headers, bodyText (sentBody false body)⟩,
      ⟨"POST", target, model.headers, bodyText (sentBody true body)⟩, rfl, rfl, text, ?_⟩
    intro network
    refine ⟨?_, ?_⟩
    · intro reachable reachableToo
      have plain := sent_send (carries (sentBody false body)) reachable
      have streamed := sent_send (carries (sentBody true body)) reachableToo
      rw [← call] at plain streamed
      rw [← plain, ← streamed]
      exact sends_of_call model network request
    · intro response failed _ answered answeredToo
      apply fails_of_call
      intro streaming
      rw [call, ← granted_of_failed failed]
      cases streaming with
      | false => rw [send_of_answered (carries _) answered]
      | true => rw [send_of_answered (carries _) answeredToo]

/-- A model behind a numeric address. -/
def localModel : Model where
  name := "model"
  endpoint := "https://[::1]/v1/responses"
  apiKey := "key"
  organization := some "us"

theorem callable_localModel : localModel.Callable where
  endpoint := ⟨{
    scheme := "https"
    authority := some { host := .longAddress [0, 0, 0, 0, 0, 0, 0, 1] }
    path := .segments ["v1", "responses"] }, rfl, .tail _ (.head _)⟩
  apiKey := rfl
  organization := by
    rintro _ ⟨⟩
    rfl
  project := nofun

/-- A request that greets the model. -/
def greeting : Conversation.Request where
  turns := [.ofText "user" "Hi"]

/-- A response that refuses with a text. -/
def busy : Response where
  status := 429
  body := [98, 117, 115, 121]

theorem calls_send_alike_busy :
    (localModel.Sends (fun _ => .answered busy) {} none none ∧
      localModel.Fails (fun _ => .answered busy) {} .noContents) ∧
    localModel.Callable ∧ ∃ plain streamed : Http.Request,
      plain.body = "\x7b\"model\":\"model\",\"input\":[\x7b\"type\":\"message\"," ++
        "\"role\":\"user\",\"content\":[\x7b\"type\":\"input_text\"," ++
        "\"text\":\"Hi\"\x7d]\x7d]\x7d" ∧
      localModel.Sends (fun _ => .answered busy) greeting (some plain) (some streamed) ∧
      localModel.Fails (fun _ => .answered busy) greeting (.refused 429 "busy") := by
  have empty := (calls_send_alike localModel {}).1 .noContents rfl fun _ => .answered busy
  obtain ⟨-, converted⟩ := calls_send_alike localModel greeting
  obtain ⟨plain, streamed, body, -, -, calls⟩ := converted _ rfl callable_localModel
  obtain ⟨sends, fails⟩ := calls fun _ => .answered busy
  have message : refusalMessage busy = "busy" := rfl
  refine ⟨empty, callable_localModel, plain, streamed, body, sends nofun nofun, ?_⟩
  rw [← message]
  exact fails busy (by decide) (by decide) rfl rfl

end Service
end ResponsesBridge
