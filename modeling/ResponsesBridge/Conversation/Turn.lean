import ResponsesBridge.Json.Choice

/-!
# Turns of a conversation

A turn has a role and parts. A part is a passage of text, a call of a function, the answer to such
a call, or material that is carried along as it is: inline data, a reference to a file, a program,
the result of running one. A passage may be a thought: text that the model does not address to
its partner.
-/

set_option autoImplicit false

namespace ResponsesBridge.Conversation

open Json (Codec Fields Member Presence Table)

/-- A passage of text. -/
structure Passage where
  text : String := ""
  thought : Bool := false

/-- A call of a function by the model. The id, if there is one, tells calls apart. -/
structure Call where
  id : Option String := none
  name : String := ""
  arguments : Fields := []

/-- The answer to a call; without an id it answers the call that has waited longest. -/
structure Answer where
  id : Option String := none
  name : String := ""
  result : Fields := []

/-- Data given in place, in base 64. -/
structure InlineData where
  mediaType : String := ""
  data : String := ""

/-- A file given by its address. -/
structure FileReference where
  mediaType : String := ""
  address : String := ""

/-- A program. -/
structure Program where
  language : String := ""
  code : String := ""

/-- What running a program gave. -/
structure ProgramResult where
  outcome : String := ""
  output : String := ""

/-- A part of a turn. -/
inductive Part
  | passage (passage : Passage)
  | call (call : Call)
  | answer (answer : Answer)
  | inlineData (data : InlineData)
  | file (reference : FileReference)
  | program (program : Program)
  | programResult (result : ProgramResult)

/-- A turn of a conversation. -/
structure Turn where
  role : String := ""
  parts : List Part := []

namespace Part

/-- A passage addressed to the partner. -/
def ofText (text : String) : Part := .passage ⟨text, false⟩

/-- A passage that is a thought. -/
def ofThought (text : String) : Part := .passage ⟨text, true⟩

/-- The name of the kind of a part. -/
def kind : Part → String
  | .passage _ => "text"
  | .call _ => "function_call"
  | .answer _ => "function_response"
  | .inlineData _ => "inline_data"
  | .file _ => "file_data"
  | .program _ => "executable_code"
  | .programResult _ => "code_execution_result"

/-- The passage of a part that is one. -/
def passage? : Part → Option Passage
  | .passage content => some content
  | _ => none

/-- The call of a part that is one. -/
def call? : Part → Option Call
  | .call content => some content
  | _ => none

end Part

/-- All that a turn says to its partner: its passages in order, thoughts left out. -/
def Turn.text (turn : Turn) : String :=
  String.join <| (turn.parts.filterMap Part.passage?).filterMap fun passage =>
    if passage.thought then none else some passage.text

/-- A turn that consists of one passage. -/
def Turn.ofText (role text : String) : Turn := ⟨role, [Part.ofText text]⟩

/-! ## JSON form -/

def Passage.table : Table Passage :=
  [.required "text" .text (·.text) fun text passage => { passage with text },
    .skipped "thought" .boolean (·.thought) (fun thought passage => { passage with thought })
      fun thought => !thought]

def Call.table : Table Call :=
  [.optional "id" .defaulted .text (·.id) fun id call => { call with id },
    .required "name" .text (·.name) fun name call => { call with name },
    .defaulted "args" .fields (·.arguments) fun arguments call => { call with arguments }]

def Answer.table : Table Answer :=
  [.optional "id" .defaulted .text (·.id) fun id answer => { answer with id },
    .required "name" .text (·.name) fun name answer => { answer with name },
    .defaulted "response" .fields (·.result) fun result answer => { answer with result }]

def InlineData.table : Table InlineData :=
  [.required "mime_type" .text (·.mediaType) fun mediaType data => { data with mediaType },
    .required "data" .text (·.data) fun data inline => { inline with data }]

def FileReference.table : Table FileReference :=
  [.required "mime_type" .text (·.mediaType) fun mediaType file => { file with mediaType },
    .required "file_uri" .text (·.address) fun address file => { file with address }]

def Program.table : Table Program :=
  [.required "language" .text (·.language) fun language program => { program with language },
    .required "code" .text (·.code) fun code program => { program with code }]

def ProgramResult.table : Table ProgramResult :=
  [.required "outcome" .text (·.outcome) fun outcome result => { result with outcome },
    .defaulted "output" .text (·.output) fun output result => { result with output }]

def Passage.codec : Codec Passage := Passage.table.codec {}
def Call.codec : Codec Call := Call.table.codec {}
def Answer.codec : Codec Answer := Answer.table.codec {}
def InlineData.codec : Codec InlineData := InlineData.table.codec {}
def FileReference.codec : Codec FileReference := FileReference.table.codec {}
def Program.codec : Codec Program := Program.table.codec {}
def ProgramResult.codec : Codec ProgramResult := ProgramResult.table.codec {}

/-- The value written under the kind of a part. -/
def Part.content : Part → Json.Value
  | .passage part => Passage.codec.write part
  | .call part => Call.codec.write part
  | .answer part => Answer.codec.write part
  | .inlineData part => InlineData.codec.write part
  | .file part => FileReference.codec.write part
  | .program part => Program.codec.write part
  | .programResult part => ProgramResult.codec.write part

/-- A part is an object with one member, named for the kind of the part. -/
def Part.codec : Codec Part :=
  Json.keyed
    [("text", fun node => Part.passage <$> Passage.codec.read node),
      ("function_call", fun node => Part.call <$> Call.codec.read node),
      ("function_response", fun node => Part.answer <$> Answer.codec.read node),
      ("inline_data", fun node => Part.inlineData <$> InlineData.codec.read node),
      ("file_data", fun node => Part.file <$> FileReference.codec.read node),
      ("executable_code", fun node => Part.program <$> Program.codec.read node),
      ("code_execution_result", fun node => Part.programResult <$> ProgramResult.codec.read node)]
    fun part => (part.kind, part.content)

def Turn.table : Table Turn :=
  [.defaulted "role" .text (·.role) fun role turn => { turn with role },
    .defaulted "parts" (.list Part.codec) (·.parts) fun parts turn => { turn with parts }]

def Turn.codec : Codec Turn := Turn.table.codec {}

end ResponsesBridge.Conversation
