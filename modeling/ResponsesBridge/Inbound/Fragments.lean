import ResponsesBridge.Inbound.Response
import ResponsesBridge.Wire.Event

/-!
# The generations of stream events

While a response is streamed, its texts arrive in fragments, and each fragment is passed on at
once as a generation of one part. The arguments of a call arrive in fragments as well, but are of
no use before they are complete: they are collected by item until the event that completes them,
which also forgets them, whether or not they can be read.
-/

set_option autoImplicit false

namespace ResponsesBridge.Inbound

open Conversation (Part Generation)
open Wire (Event Delta DoneArguments Snapshot)

/-- The argument texts of calls that are not complete, by item. An item is listed from its first
fragment that is not empty. -/
abbrev OpenArguments := Dictionary String

/-- The text under an item, empty if there is none. -/
def OpenArguments.textOf (collected : OpenArguments) (item : String) : String :=
  (collected.find? item).getD ""

/-- The collected texts with a fragment added to that of its item. -/
def OpenArguments.append (collected : OpenArguments) (fragment : Delta) : OpenArguments :=
  if fragment.delta.isEmpty then collected
  else collected.insert fragment.itemId (collected.textOf fragment.itemId ++ fragment.delta)

/-- The generation of a fragment of text, made a part by `make`; an empty fragment has none. -/
def fragment? (make : String → Part) (fragment : Delta) : Option Generation :=
  if fragment.delta.isEmpty then none else some (.ofPart (make fragment.delta))

/-- The first text that is not empty; the text of an empty object if all are. -/
def firstArguments : List String → String
  | [] => "\x7b\x7d"
  | text :: texts => if text.isEmpty then firstArguments texts else text

/-- The generation of a completed call: its arguments are those of the event, else the collected
ones. The item is the id of the call. -/
def completedCall (collected : OpenArguments) (done : DoneArguments) :
    Except Failure Generation := do
  let arguments ← callArguments (firstArguments [done.arguments, collected.textOf done.itemId])
  return .ofPart (.call ⟨some done.itemId, done.name, arguments⟩)

/-- The failure that a failed response reports. -/
def failureOf (snapshot : Snapshot) : Failure :=
  .responseFailed ((snapshot.response.error.map fun error => error.message).getD "")

/-- The message of a stream error that has none. -/
def unexplained : String := "stream reported an error without a message"

/-- The failure that an error of the stream reports. -/
def streamFailure (error : Wire.StreamError) : Failure :=
  .streamError (if error.message.isEmpty then unexplained else error.message)

/-- **The generation of an event**, if it has one, and the collected arguments behind it. -/
def received (collected : OpenArguments) :
    Event → Except Failure (Option Generation) × OpenArguments
  | .textDelta fragment => (.ok (fragment? .ofText fragment), collected)
  | .reasoningDelta fragment => (.ok (fragment? .ofThought fragment), collected)
  | .summaryDelta fragment => (.ok (fragment? .ofThought fragment), collected)
  | .argumentsDelta fragment => (.ok none, collected.append fragment)
  | .argumentsDone done =>
    (some <$> completedCall collected done, Dictionary.erase done.itemId collected)
  | .failed snapshot => (.error (failureOf snapshot), collected)
  | .error error => (.error (streamFailure error), collected)
  | _ => (.ok none, collected)

end ResponsesBridge.Inbound
