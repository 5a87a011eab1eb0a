import ResponsesBridge.Failure
import ResponsesBridge.Settings.Configuration

/-!
# Models

A model is a name together with everything that is needed to call it: where requests go, the key
that pays for them, and on whose behalf they are sent.
-/

set_option autoImplicit false

namespace ResponsesBridge.Service

open Settings (Connection)

/-- A model of the service. -/
structure Model where
  name : String
  endpoint : String
  apiKey : String
  organization : Option String := none
  project : Option String := none
deriving DecidableEq, Repr

/-- The base of the service where none is configured. -/
def defaultBase : String := "https://api.openai.com/v1"

/-- A text without the slashes at its end. -/
def withoutSlashes (text : String) : String :=
  String.ofList (text.toList.reverse.dropWhile (· == '/')).reverse

/-- The address that requests are sent to: the base with one more step. -/
def endpointOf (base : Option Url) : String :=
  withoutSlashes ((base.map Url.toText).getD defaultBase) ++ "/responses"

/-- A text that is given and not empty. -/
def given? (text : Option String) : Option String :=
  text.filter fun value => !value.isEmpty

namespace Model

/-- **The model of a name.** It needs a name and a key. -/
def ofConnection (name : String) (connection : Connection) : Except Failure Model :=
  if name.isEmpty then .error .modelNameRequired
  else
    match given? connection.apiKey with
    | none => .error .missingCredentials
    | some apiKey => .ok {
        name
        endpoint := endpointOf connection.baseUrl
        apiKey
        organization := given? connection.organization
        project := given? connection.project }

/-- The model that the connection names. -/
def configured (connection : Connection) : Except Failure Model :=
  ofConnection connection.model connection

end Model

end ResponsesBridge.Service
