import ResponsesBridge.Wire.Response

/-!
# Stream events on the wire

While a response is streamed, the service sends events: fragments of texts and of call arguments,
the completed texts and arguments, snapshots of the response and of its items, and errors. Kinds
of events that are not listed are read as `Event.unknown`.
-/

set_option autoImplicit false

namespace ResponsesBridge.Wire

open Json (Codec Table Member Alternative)

/-- A fragment of a text or of call arguments. -/
structure Delta where
  itemId : String := ""
  outputIndex : UInt32 := 0
  delta : String := ""

/-- A completed text. -/
structure DoneText where
  itemId : String := ""
  outputIndex : UInt32 := 0
  text : String := ""

/-- The completed arguments of a call; the arguments may be left out. -/
structure DoneArguments where
  itemId : String := ""
  outputIndex : UInt32 := 0
  name : String := ""
  arguments : String := ""

/-- A snapshot of the response. -/
structure Snapshot where
  response : Response := {}

/-- A snapshot of an output item. -/
structure ItemSnapshot where
  outputIndex : UInt32 := 0
  item : OutputItem := {}

/-- An error of the stream. -/
structure StreamError where
  code : Option String := none
  message : String := ""

/-- An event of a stream. -/
inductive Event
  | textDelta (delta : Delta)
  | textDone (done : DoneText)
  | reasoningDelta (delta : Delta)
  | reasoningDone (done : DoneText)
  | summaryDelta (delta : Delta)
  | summaryDone (done : DoneText)
  | argumentsDelta (delta : Delta)
  | argumentsDone (done : DoneArguments)
  | created (snapshot : Snapshot)
  | inProgress (snapshot : Snapshot)
  | completed (snapshot : Snapshot)
  | failed (snapshot : Snapshot)
  | itemAdded (snapshot : ItemSnapshot)
  | itemDone (snapshot : ItemSnapshot)
  | error (error : StreamError)
  | unknown

/-! ## JSON form -/

def Delta.table : Table Delta :=
  [.defaulted "item_id" .text (·.itemId) fun itemId event => { event with itemId },
    .defaulted "output_index" .word32 (·.outputIndex)
      fun outputIndex event => { event with outputIndex },
    .defaulted "delta" .text (·.delta) fun delta event => { event with delta }]

def DoneText.table : Table DoneText :=
  [.defaulted "item_id" .text (·.itemId) fun itemId event => { event with itemId },
    .defaulted "output_index" .word32 (·.outputIndex)
      fun outputIndex event => { event with outputIndex },
    .defaulted "text" .text (·.text) fun text event => { event with text }]

def DoneArguments.table : Table DoneArguments :=
  [.defaulted "item_id" .text (·.itemId) fun itemId event => { event with itemId },
    .defaulted "output_index" .word32 (·.outputIndex)
      fun outputIndex event => { event with outputIndex },
    .defaulted "name" .text (·.name) fun name event => { event with name },
    .defaulted "arguments" .text (·.arguments) fun arguments event => { event with arguments }]

def Snapshot.table : Table Snapshot :=
  [.defaulted "response" Response.codec (·.response)
    fun response event => { event with response }]

def ItemSnapshot.table : Table ItemSnapshot :=
  [.defaulted "output_index" .word32 (·.outputIndex)
      fun outputIndex event => { event with outputIndex },
    .defaulted "item" OutputItem.codec (·.item) fun item event => { event with item }]

def StreamError.table : Table StreamError :=
  [.optional "code" .defaulted .text (·.code) fun code event => { event with code },
    .defaulted "message" .text (·.message) fun message event => { event with message }]

namespace Event

/-- The listed kinds of events. -/
def alternatives : List (Alternative Event) :=
  [.ofTable "response.output_text.delta" Delta.table {} textDelta,
    .ofTable "response.output_text.done" DoneText.table {} textDone,
    .ofTable "response.reasoning_text.delta" Delta.table {} reasoningDelta,
    .ofTable "response.reasoning_text.done" DoneText.table {} reasoningDone,
    .ofTable "response.reasoning_summary_text.delta" Delta.table {} summaryDelta,
    .ofTable "response.reasoning_summary_text.done" DoneText.table {} summaryDone,
    .ofTable "response.function_call_arguments.delta" Delta.table {} argumentsDelta,
    .ofTable "response.function_call_arguments.done" DoneArguments.table {} argumentsDone,
    .ofTable "response.created" Snapshot.table {} created,
    .ofTable "response.in_progress" Snapshot.table {} inProgress,
    .ofTable "response.completed" Snapshot.table {} completed,
    .ofTable "response.failed" Snapshot.table {} failed,
    .ofTable "response.output_item.added" ItemSnapshot.table {} itemAdded,
    .ofTable "response.output_item.done" ItemSnapshot.table {} itemDone,
    .ofTable "error" StreamError.table {} error]

/-- The tag that is written for events of unlisted kinds. -/
def unknownTag : String := "Unknown"

/-- The events of all other kinds. -/
def unlisted : Alternative Event := .ofTable unknownTag [] () fun _ => unknown

def codec : Codec Event where
  read := Json.readTagged alternatives (some unlisted)
  write
    | textDelta event => Json.tagged "response.output_text.delta" (Delta.table.fields event)
    | textDone event => Json.tagged "response.output_text.done" (DoneText.table.fields event)
    | reasoningDelta event =>
      Json.tagged "response.reasoning_text.delta" (Delta.table.fields event)
    | reasoningDone event =>
      Json.tagged "response.reasoning_text.done" (DoneText.table.fields event)
    | summaryDelta event =>
      Json.tagged "response.reasoning_summary_text.delta" (Delta.table.fields event)
    | summaryDone event =>
      Json.tagged "response.reasoning_summary_text.done" (DoneText.table.fields event)
    | argumentsDelta event =>
      Json.tagged "response.function_call_arguments.delta" (Delta.table.fields event)
    | argumentsDone event =>
      Json.tagged "response.function_call_arguments.done" (DoneArguments.table.fields event)
    | created event => Json.tagged "response.created" (Snapshot.table.fields event)
    | inProgress event => Json.tagged "response.in_progress" (Snapshot.table.fields event)
    | completed event => Json.tagged "response.completed" (Snapshot.table.fields event)
    | failed event => Json.tagged "response.failed" (Snapshot.table.fields event)
    | itemAdded event => Json.tagged "response.output_item.added" (ItemSnapshot.table.fields event)
    | itemDone event => Json.tagged "response.output_item.done" (ItemSnapshot.table.fields event)
    | error event => Json.tagged "error" (StreamError.table.fields event)
    | unknown => Json.tagged unknownTag []

end Event

end ResponsesBridge.Wire
