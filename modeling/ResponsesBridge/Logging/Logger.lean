import ResponsesBridge.Json.Value
import ResponsesBridge.Logging.Filter
import ResponsesBridge.Settings.Configuration

/-!
# The logger

A logger has a filter and a format. The filter is the configured one; where that is blank or no
filter, the caller's; and where that is none either, a fallback. There is one logger in a
program, and the first one stays.
-/

set_option autoImplicit false

namespace ResponsesBridge.Logging

open Settings (LogFormat LogSettings)

/-- What messages become. -/
structure Logger where
  filter : Filter
  format : LogFormat
deriving DecidableEq, Repr

/-- The filter where no text is one: everything down to information passes. -/
def fallbackFilter : Filter := [{ limit := Level.info.rank }]

/-- The filter of the first text that is one. A configured text that is blank does not count. -/
def effectiveFilter (configured : Option String) (default : String) : Filter :=
  let chosen := configured.filter fun text => !Text.isBlank text
  ((chosen.bind Filter.ofText?).or (Filter.ofText? default)).getD fallbackFilter

/-- The logger of settings. -/
def Logger.ofSettings (settings : Option LogSettings) (default : String) : Logger where
  filter := effectiveFilter (settings.map LogSettings.filter) default
  format := (settings.map LogSettings.format).getD .text

/-- A second logger is refused. -/
inductive InstallError
  | alreadyInstalled
deriving DecidableEq, Repr

/-- The message of the refusal. -/
def InstallError.message : InstallError → String
  | .alreadyInstalled =>
    "failed to install log subscriber: a global default trace dispatcher has already been set"

/-- Makes a logger the one of the program; returns the outcome and the logger there is then. -/
def install (logger : Logger) : Option Logger → Except InstallError Unit × Option Logger
  | none => (.ok (), some logger)
  | some installed => (.error .alreadyInstalled, some installed)

/-! ## Lines -/

/-- The name of a level. -/
def Level.name : Level → String
  | .error => "ERROR"
  | .warning => "WARN"
  | .info => "INFO"
  | .debug => "DEBUG"
  | .trace => "TRACE"

/-- The field that holds the text of a message. -/
def messageField : String := "message"

/-- The text of a message. -/
def Message.text (message : Message) : String :=
  (Json.lookup messageField message.fields).getD ""

/-- The name of a level with blanks in front, as wide as the widest. -/
def Level.paddedName (level : Level) : String :=
  String.ofList (List.replicate (5 - level.name.length) ' ') ++ level.name

/-- A message as a line of text. -/
def Message.textLine (message : Message) : String :=
  message.level.paddedName ++ " " ++ message.target ++ ": " ++ message.text

/-- A message as a JSON object. -/
def Message.jsonLine (message : Message) : Json.Value :=
  .object
    [("level", .text message.level.name),
      ("fields", .object (message.fields.map fun field => (field.1, .text field.2))),
      ("target", .text message.target)]

/-- A logged line. -/
inductive Line
  | text (line : String)
  | json (line : Json.Value)

/-- The line of a message, if the filter lets it through. -/
def Logger.line? (logger : Logger) (message : Message) : Option Line :=
  if logger.filter.lets message then
    match logger.format with
    | .text => some (.text message.textLine)
    | .json => some (.json message.jsonLine)
  else none

end ResponsesBridge.Logging
