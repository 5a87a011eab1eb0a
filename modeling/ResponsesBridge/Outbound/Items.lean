import ResponsesBridge.CallLedger
import ResponsesBridge.Conversation.Turn
import ResponsesBridge.Text.Blank
import ResponsesBridge.Wire.Request

/-!
# The items of the input

The turns of a conversation become a list of input items. Neighbouring passages of a turn make one
message, from which blank passages are left out; a call and the answer to a call are items of
their own and end the message before them. A ledger of open calls goes along with the
conversation, so that every answer refers to an earlier call.

The role of a turn matters only where a message is made of it. A turn with an unknown role
fails at the first message, and not at all if it has no passages to show.
-/

set_option autoImplicit false

namespace ResponsesBridge.Outbound

open Conversation (Turn Part Call Answer)
open Wire (InputItem InputRole)

/-- The role under which a turn is sent. -/
def inputRole (role : String) : Except Failure InputRole :=
  if role = "" ∨ role = "user" then .ok .user
  else if role = "model" then .ok .assistant
  else if role = "system" then .ok .system
  else if role = "developer" then .ok .developer
  else .error (.unsupportedRole role)

/-- The texts of a run of passages that are shown. -/
def shownTexts (run : List String) : List String :=
  run.filter fun text => !Text.isBlank text

/-- The message of a run of passages; there is none if nothing is shown. -/
def messageItems (role : String) (run : List String) : Except Failure (List InputItem) :=
  match shownTexts run with
  | [] => .ok []
  | texts => do
    let role ← inputRole role
    return [.message ⟨role, texts⟩]

/-- The compact text of the members of an object. -/
def objectText (members : Json.Fields) : String :=
  (Json.Value.object members).toText

/-- The item of a call, which is opened in the ledger. -/
def callItem (ledger : CallLedger) (call : Call) : Except Failure (InputItem × CallLedger) :=
  if call.name.isEmpty then .error .callWithoutName
  else
    let (id, ledger) := ledger.register call.id
    .ok (.functionCall ⟨id, call.name, objectText call.arguments⟩, ledger)

/-- The item of an answer, whose call is settled in the ledger. -/
def answerItem (ledger : CallLedger) (answer : Answer) :
    Except Failure (InputItem × CallLedger) := do
  let (told, ledger) := ledger.settle answer.id answer.name
  let id ← told
  return (.functionCallOutput ⟨id, objectText answer.result⟩, ledger)

/-- The items of the parts of a turn, behind a run of passages that have not become a message
yet. -/
def partItems (role : String) :
    CallLedger → List String → List Part → Except Failure (List InputItem × CallLedger)
  | ledger, run, [] => do
    let message ← messageItems role run
    return (message, ledger)
  | ledger, run, .passage passage :: parts => partItems role ledger (run ++ [passage.text]) parts
  | ledger, run, .call call :: parts => do
    let message ← messageItems role run
    let (item, ledger) ← callItem ledger call
    let (items, ledger) ← partItems role ledger [] parts
    return (message ++ item :: items, ledger)
  | ledger, run, .answer answer :: parts => do
    let message ← messageItems role run
    let (item, ledger) ← answerItem ledger answer
    let (items, ledger) ← partItems role ledger [] parts
    return (message ++ item :: items, ledger)
  | _, _, part :: _ => .error (.unsupportedPart part.kind)

/-- The items of turns, with the ledger before and after them. -/
def turnItems : CallLedger → List Turn → Except Failure (List InputItem × CallLedger)
  | ledger, [] => .ok ([], ledger)
  | ledger, turn :: turns => do
    let (items, ledger) ← partItems turn.role ledger [] turn.parts
    let (later, ledger) ← turnItems ledger turns
    return (items ++ later, ledger)

/-- **The items of a conversation.** -/
def inputItems (turns : List Turn) : Except Failure (List InputItem) := do
  let (items, _) ← turnItems {} turns
  return items

end ResponsesBridge.Outbound
