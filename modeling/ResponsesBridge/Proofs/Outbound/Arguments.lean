import ResponsesBridge.Inbound.Response
import ResponsesBridge.Proofs.Json.Codecs
import ResponsesBridge.Proofs.Json.Texts
import ResponsesBridge.Proofs.Outbound.Conversion
import Mathlib.Data.List.Forall2

/-!
# Arguments and results survive their texts

The arguments of a call and the result of an answer are sent as JSON text inside an item. Read the
way in which the arguments of a call of the model are read, the text gives the same members in the
same order (`arguments_survive`), as long as a JSON text with integers can express them
(`Portable`).

The text of an object is scanned as the node of that object (`Json.readText_toText`), and the node of
an object with different names is read as its members (`Json.Codec.returns_fields`).
-/

set_option autoImplicit false

namespace ResponsesBridge.Outbound

open Conversation (Turn Part Call Answer)
open Inbound (callArguments)
open Json (Value)
open Wire (InputItem FunctionCall FunctionCallOutput)

/-- Members of an object that a text with integers can express: the names in each object are
different, arrays and objects are nested no deeper than they are read, the object itself counted,
and all numbers are integers of 64 bits. -/
structure Portable (members : Json.Fields) : Prop where
  distinct : (Value.object members).Distinct
  shallow : (Value.object members).node.height ≤ Json.depthLimit
  words : ∀ number ∈ (Value.object members).numbers, number.IsWord

/-- The text of an object is read as its members. -/
theorem callArguments_objectText {members : Json.Fields} (portable : Portable members) :
    callArguments (objectText members) = .ok members := by
  have written : objectText members ≠ "" := by
    simp [objectText, Value.toText, Value.write]
  have returns : Json.Codec.fields.read (Value.object members).node = .ok members :=
    Json.Codec.returns_fields portable.distinct
  have read := Json.readText_toText portable.words portable.shallow Json.Codec.fields.read
  rw [callArguments, if_neg (by simpa using written), objectText, read, returns]

/-- An item says what a part says: it is the item of the same kind, and its text is read as the
members that the part has. -/
inductive Delivers : Part → InputItem → Prop
  | call {call : Call} {item : FunctionCall} (sameName : item.name = call.name)
      (same : Portable call.arguments → callArguments item.arguments = .ok call.arguments) :
      Delivers (.call call) (.functionCall item)
  | answer {answer : Answer} {item : FunctionCallOutput}
      (same : Portable answer.result → callArguments item.output = .ok answer.result) :
      Delivers (.answer answer) (.functionCallOutput item)

theorem delivers_calledItem (id : String) (call : Call) :
    Delivers (.call call) (calledItem id call) :=
  .call rfl callArguments_objectText

theorem delivers_answeredItem (id : String) (answer : Answer) :
    Delivers (.answer answer) (answeredItem id answer) :=
  .answer callArguments_objectText

theorem filter_messageItems {role : String} {run : List String} {message : List InputItem}
    (shown : messageItems role run = .ok message) : message.filter isExchangeItem = [] := by
  rcases messageItems_eq_ok_iff.mp shown with ⟨-, rfl⟩ | ⟨-, known, -, rfl⟩
  · rfl
  · rfl

theorem PartsBecome.delivers {role : String} {ledger next : CallLedger} {run : List String}
    {parts : List Part} {items : List InputItem}
    (become : PartsBecome role ledger run parts items next) :
    List.Forall₂ Delivers (parts.filter isExchange) (items.filter isExchangeItem) := by
  induction become with
  | done shown =>
      rw [filter_messageItems shown]
      exact .nil
  | passage later ih => exact ih
  | call shown named later ih =>
      rw [List.filter_append, filter_messageItems shown]
      exact .cons (delivers_calledItem _ _) ih
  | answer shown settled later ih =>
      rw [List.filter_append, filter_messageItems shown]
      exact .cons (delivers_answeredItem _ _) ih

theorem TurnsBecome.delivers {ledger next : CallLedger} {turns : List Turn}
    {items : List InputItem} (become : TurnsBecome ledger turns items next) :
    List.Forall₂ Delivers ((turns.flatMap fun turn => turn.parts).filter isExchange)
      (items.filter isExchangeItem) := by
  induction become with
  | done => exact .nil
  | turn first rest ih =>
      rw [List.flatMap_cons, List.filter_append, List.filter_append]
      exact List.rel_append first.delivers ih

/-- **Arguments and results survive their texts.** The calls and answers of a conversation that is
converted correspond, one by one and in order, to the calls and outputs among its items, and the
text of each item is read as the arguments or the result that it was made of. -/
theorem arguments_survive {turns : List Turn} {items : List InputItem}
    (converted : inputItems turns = .ok items) :
    List.Forall₂ Delivers ((turns.flatMap fun turn => turn.parts).filter isExchange)
      (items.filter isExchangeItem) := by
  obtain ⟨last, become⟩ := inputItems_eq_ok_iff.mp converted
  exact become.delivers

/-- Arguments with the least and the greatest integer, nested, under names that need escapes. -/
def nestedArguments : Json.Fields :=
  [("z\"\\\n\x07", .array [.object [], .number (.integer (-9223372036854775808)), .text "\x7fé😀"]),
    ("", .object [("a", .number (.integer 18446744073709551615)), ("A", .null)])]

/-- A conversation with a call that has these arguments and an answer that has no result. -/
def nestedTurns : List Turn :=
  [⟨"model", [.ofText "So", .call ⟨some "first", "find", nestedArguments⟩]⟩,
    ⟨"user", [.answer { id := some "first" }]⟩]

/-- The items of the conversation. -/
def nestedItems : List InputItem :=
  [.message ⟨.assistant, ["So"]⟩, .functionCall ⟨"first", "find", objectText nestedArguments⟩,
    .functionCallOutput ⟨"first", "\x7b\x7d"⟩]

theorem arguments_survive_nested :
    inputItems nestedTurns = .ok nestedItems ∧ Portable nestedArguments ∧
      callArguments (objectText nestedArguments) = .ok nestedArguments := by
  have converted : inputItems nestedTurns = .ok nestedItems := rfl
  have portable : Portable nestedArguments := by
    refine ⟨?_, by decide, by decide⟩
    simp [nestedArguments, Value.Distinct, Json.DistinctItems, Json.DistinctMembers]
  have delivered := arguments_survive converted
  obtain ⟨first, -⟩ := List.forall₂_cons.mp delivered
  cases first with
  | call _ same => exact ⟨converted, portable, same portable⟩

end ResponsesBridge.Outbound
