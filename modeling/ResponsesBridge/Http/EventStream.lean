import ResponsesBridge.Http.Message
import ResponsesBridge.Text.Utf8

/-!
# Event streams

A stream of events is a text of lines. A line is a field: a name, a colon, and a value, of which
one blank in front does not count. An empty line ends an event, whose payload is the values of
its fields named `data`, one line for each (`payloads`). Other fields do not count, nor do lines
that begin with a colon, which are comments.

The stream can break off anywhere. A line counts only with its end, and an event only with its
empty line. A carriage return at the very end is no end of a line yet, since a line feed may
follow that belongs to it.
-/

set_option autoImplicit false

namespace ResponsesBridge.Http

namespace EventStream

/-- The lines of a text that have an end: a line feed, a carriage return, or both. -/
def completeLines : List Char → List (List Char)
  | [] => []
  | '\n' :: text => [] :: completeLines text
  | '\r' :: '\n' :: text => [] :: completeLines text
  | ['\r'] => []
  | '\r' :: next :: text => [] :: completeLines (next :: text)
  | character :: text =>
    match completeLines text with
    | [] => []
    | line :: lines => (character :: line) :: lines

/-- The name of the fields that make up the payload. -/
def dataName : List Char := "data".toList

/-- The value of a line that is a field of the payload; without a colon it is empty. -/
def data? (line : List Char) : Option String :=
  if line.takeWhile (· != ':') = dataName then
    match (line.dropWhile (· != ':')).drop 1 with
    | ' ' :: value => some (String.ofList value)
    | value => some (String.ofList value)
  else none

/-- The payload of an event behind one more line of it. -/
def extend (payload : Option String) (line : List Char) : Option String :=
  match payload, data? line with
  | payload, none => payload
  | none, some value => some value
  | some earlier, some value => some (earlier ++ "\n" ++ value)

/-- The payloads of events, of which the first has this one so far. -/
def payloadsFrom : Option String → List (List Char) → List String
  | _, [] => []
  | payload, [] :: lines => payload.toList ++ payloadsFrom none lines
  | payload, line :: lines => payloadsFrom (extend payload line) lines

/-- **The payloads of the events of a text.** -/
def payloads (text : List Char) : List String :=
  payloadsFrom none (completeLines text)

end EventStream

/-! ## Streams that break off -/

/-- Why a stream ends before its time. -/
inductive Interruption
  | connection
  /-- Octets that no character can start with. -/
  | notText (octets : Nat)
  /-- A character of which the end is missing. -/
  | halfCharacter
deriving DecidableEq, Repr

/-- The interruption that a bad chunk of the text is. -/
def Interruption.ofChunk? : Text.Utf8.Chunk → Option Interruption
  | .char _ => none
  | .invalid octets => some (.notText octets)
  | .incomplete _ => some .halfCharacter

/-- Whether the body of a response is a stream of events. -/
def Response.isEventStream (response : Response) : Bool :=
  match response.contentType? with
  | some type => "text/event-stream".toList.isPrefixOf type
  | none => false

/-- The payloads of the events in the body of a response, and why there are no more of them if
the body breaks off. A broken connection shows before a broken text. -/
def Response.payloads (response : Response) : List String × Option Interruption :=
  let (text, bad) := Text.Utf8.strict (Text.Utf8.chunks response.body)
  (EventStream.payloads text,
    if response.isComplete then bad.bind Interruption.ofChunk? else some .connection)

end ResponsesBridge.Http
