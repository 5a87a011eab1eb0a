import ResponsesBridge.Settings.Placeholder
import ResponsesBridge.Settings.Span
import ResponsesBridge.Toml.Read
import ResponsesBridge.Url.Read

/-!
# The configuration

The configuration says how the service is reached and how messages are logged. It is written as
a TOML document in which environment variables may stand (`Configuration.parse`), usually in a
file (`Configuration.load`). Reading goes through three stages with an error each: the variables
are expanded, the document is read, the values are validated.
-/

set_option autoImplicit false

namespace ResponsesBridge.Settings

open Toml (Entry Table)

/-- How the service is reached. -/
structure Connection where
  model : String := ""
  apiKey : Option String := none
  baseUrl : Option Url := none
  timeout : Span := .twoMinutes
  organization : Option String := none
  project : Option String := none
deriving DecidableEq, Repr

/-- The form of logged messages. -/
inductive LogFormat
  | text
  | json
deriving DecidableEq, Repr

/-- Which messages are logged, and in which form. -/
structure LogSettings where
  filter : String := "info"
  format : LogFormat := .text
deriving DecidableEq, Repr

/-- The configuration. -/
structure Configuration where
  connection : Connection := {}
  logging : Option LogSettings := none
deriving DecidableEq, Repr

/-! ## Errors -/

/-- Why a file cannot be read. -/
inductive FileFault
  | missing
  | notText
deriving DecidableEq, Repr

/-- Why there is no configuration. -/
inductive ConfigurationError
  | unreadable (path : String) (fault : FileFault)
  | unexpandable (error : ExpansionError)
  /-- The document is not TOML or does not hold a configuration. -/
  | malformed
  | noModel
  | wrongScheme (scheme : String)
deriving DecidableEq, Repr

/-- The message of a fault. -/
def FileFault.message : FileFault → String
  | .missing => "No such file or directory (os error 2)"
  | .notText => "stream did not contain valid UTF-8"

/-- The message of an error. That of a malformed document ends at the colon after which the
fault may be described. -/
def ConfigurationError.message : ConfigurationError → String
  | .unreadable path fault => "failed to read config file " ++ path ++ ": " ++ fault.message
  | .unexpandable error => "config variable expansion failed: " ++ error.message
  | .malformed => "failed to parse config: "
  | .noModel => "openai.model must not be empty"
  | .wrongScheme scheme => "openai.base_url must use http or https, got '" ++ scheme ++ "'"

/-! ## Records of a document -/

/-- A row of the table of a record: the name of a setting, whether it must be there, and how it
is stored into a draft of the record. -/
structure Setting (α : Type) where
  name : String
  isRequired : Bool
  store : Entry → α → Option α

variable {α β : Type}

/-- The text of an entry. -/
def text? : Entry → Option String
  | .text value => some value
  | _ => none

/-- A setting whose entry is read and put into the record. -/
def Setting.of (name : String) (isRequired : Bool) (read : Entry → Option β) (set : β → α → α) :
    Setting α where
  name := name
  isRequired := isRequired
  store entry draft := do return set (← read entry) draft

/-- A draft filled from the entries of a table, all of which must be known. -/
def storeMembers (settings : List (Setting α)) : Table → α → Option α
  | [], draft => some draft
  | (name, entry) :: members, draft => do
    let setting ← settings.find? fun setting => setting.name == name
    let draft ← setting.store entry draft
    storeMembers settings members draft

/-- A draft filled from the items of an array, in the order of the settings; further items do not
count. -/
def storeItems : List (Setting α) → List Entry → α → Option α
  | [], _, draft => some draft
  | setting :: settings, [], draft =>
    if setting.isRequired then none else storeItems settings [] draft
  | setting :: settings, entry :: entries, draft => do
    let draft ← setting.store entry draft
    storeItems settings entries draft

/-- A record from the entries of a table. -/
def ofTable? (settings : List (Setting α)) (blank : α) (members : Table) : Option α :=
  if settings.all fun setting =>
      !setting.isRequired || (Json.lookup setting.name members).isSome then
    storeMembers settings members blank
  else none

/-- A record from a table or from an array. -/
def record? (settings : List (Setting α)) (blank : α) : Entry → Option α
  | .table _ members => ofTable? settings blank members
  | .array items => storeItems settings items blank
  | _ => none

/-! ## The settings -/

/-- A URL of an entry. -/
def url? (entry : Entry) : Option Url := do
  Url.ofText? (← text? entry)

/-- A span of an entry. -/
def span? (entry : Entry) : Option Span := do
  Span.ofText? (← text? entry)

def Connection.settings : List (Setting Connection) :=
  [.of "model" true text? fun model connection => { connection with model },
    .of "api_key" false text? fun apiKey connection => { connection with apiKey := some apiKey },
    .of "base_url" false url? fun baseUrl connection =>
      { connection with baseUrl := some baseUrl },
    .of "timeout" false span? fun timeout connection => { connection with timeout },
    .of "organization" false text? fun organization connection =>
      { connection with organization := some organization },
    .of "project" false text? fun project connection =>
      { connection with project := some project }]

/-- The format of a name. -/
def LogFormat.ofName? (name : String) : Option LogFormat :=
  if name = "text" then some .text else if name = "json" then some .json else none

/-- Whether an entry holds nothing. -/
def isNothing : Entry → Bool
  | .table _ [] => true
  | .array [] => true
  | _ => false

/-- The format of an entry: its name, or its name over nothing. -/
def format? : Entry → Option LogFormat
  | .text name => LogFormat.ofName? name
  | .table _ [(name, content)] => if isNothing content then LogFormat.ofName? name else none
  | _ => none

def LogSettings.settings : List (Setting LogSettings) :=
  [.of "log_filter" false text? fun filter logging => { logging with filter },
    .of "format" false format? fun format logging => { logging with format }]

def Configuration.settings : List (Setting Configuration) :=
  [.of "openai" true (record? Connection.settings {}) fun connection configuration =>
      { configuration with connection },
    .of "telemetry" false (record? LogSettings.settings {}) fun logging configuration =>
      { configuration with logging := some logging }]

namespace Configuration

/-- The configuration of a document. -/
def ofText? (text : String) : Option Configuration := do
  ofTable? settings {} (← Toml.document? text)

/-- What makes a configuration unusable: a blank model name, or a base URL that is no web
address. -/
def validate (configuration : Configuration) : Except ConfigurationError Unit :=
  if Text.isBlank configuration.connection.model then .error .noModel
  else
    match configuration.connection.baseUrl with
    | none => .ok ()
    | some url =>
      if url.scheme = "http" ∨ url.scheme = "https" then .ok ()
      else .error (.wrongScheme url.scheme)

/-- **The configuration of a text.** -/
def parse (environment : Environment) (text : String) :
    Except ConfigurationError Configuration := do
  let expanded ← (expand environment text).mapError .unexpandable
  match ofText? expanded with
  | none => .error .malformed
  | some configuration =>
    configuration.validate
    return configuration

/-- The configuration of a file, of which the octets are given if it exists. -/
def load (environment : Environment) (path : String) (content : Option (List UInt8)) :
    Except ConfigurationError Configuration :=
  match content with
  | none => .error (.unreadable path .missing)
  | some octets =>
    match Text.Utf8.decode? octets with
    | none => .error (.unreadable path .notText)
    | some text => parse environment (String.ofList text)

end Configuration

end ResponsesBridge.Settings
