import ResponsesBridge.Outbound.Items

/-!
# Conversations that grow

A conversation is sent again with every new turn. What has been sent of it before stays as it was:
the turns that are appended only add items behind the earlier ones, whatever they answer and
whatever ids they carry, and a conversation that fails goes on failing in the same way
(`earlier_items_stay`).

All that the appended turns see of the earlier ones is the ledger behind them
(`turnItems_append`). No text is carried over, since every turn ends its last message itself.
-/

set_option autoImplicit false

namespace ResponsesBridge.Outbound

open Conversation (Turn)
open Wire (InputItem)

/-- The items of two conversations in a row are those of the first one, and then those that the
second one becomes from the ledger behind the first. -/
theorem turnItems_append (ledger : CallLedger) (turns more : List Turn) :
    turnItems ledger (turns ++ more) = (do
      let (earlier, between) ← turnItems ledger turns
      let (later, last) ← turnItems between more
      return (earlier ++ later, last)) := by
  induction turns generalizing ledger with
  | nil =>
      rw [List.nil_append]
      cases converted : turnItems ledger more <;>
        simp [turnItems, converted, bind, Except.bind, pure, Except.pure]
  | cons turn turns ih =>
      simp only [List.cons_append, turnItems, ih]
      cases partItems turn.role ledger [] turn.parts with
      | error failure => rfl
      | ok first =>
          obtain ⟨items, behind⟩ := first
          cases rest : turnItems behind turns with
          | error failure => simp [rest, bind, Except.bind]
          | ok others =>
              obtain ⟨later, between⟩ := others
              cases added : turnItems between more <;>
                simp [rest, added, bind, Except.bind, pure, Except.pure, List.append_assoc]

/-- A conversation that converts is extended by what the appended turns make of its ledger, or
fails as they do. -/
theorem inputItems_append_of_ok {turns : List Turn} {earlier : List InputItem}
    {between : CallLedger} (converted : turnItems {} turns = .ok (earlier, between))
    (more : List Turn) :
    inputItems (turns ++ more) =
      (turnItems between more).map fun added => earlier ++ added.1 := by
  simp only [inputItems, turnItems_append, converted, bind, Except.bind]
  cases turnItems between more <;> rfl

theorem inputItems_append_of_error {turns : List Turn} {failure : Failure}
    (failed : turnItems {} turns = .error failure) (more : List Turn) :
    inputItems (turns ++ more) = .error failure := by
  simp only [inputItems, turnItems_append, failed, bind, Except.bind]

/-- **What has been sent of a conversation stays as it was.** If a conversation converts with turns
appended to it, it converts without them, and its items, made ids included, are the first items of
the longer conversation. If it fails, it fails in the same way whatever is appended. -/
theorem earlier_items_stay (turns more : List Turn) :
    (∀ items, inputItems (turns ++ more) = .ok items →
      ∃ earlier, inputItems turns = .ok earlier ∧ earlier <+: items) ∧
    ∀ failure, inputItems turns = .error failure →
      inputItems (turns ++ more) = .error failure := by
  cases converted : turnItems {} turns with
  | error failure =>
      have failed : inputItems turns = .error failure := by
        simp only [inputItems, converted, bind, Except.bind]
      rw [inputItems_append_of_error converted, failed]
      constructor
      · intro items succeeds
        cases succeeds
      · intro other same
        exact same
  | ok result =>
      obtain ⟨earlier, between⟩ := result
      have succeeded : inputItems turns = .ok earlier := by
        simp only [inputItems, converted, bind, Except.bind, pure, Except.pure]
      rw [inputItems_append_of_ok converted, succeeded]
      constructor
      · intro items extended
        cases added : turnItems between more with
        | error failure =>
            rw [added] at extended
            cases extended
        | ok result =>
            rw [added] at extended
            cases extended
            exact ⟨earlier, rfl, List.prefix_append _ _⟩
      · intro failure failed
        cases failed

/-- A call without an id, to which a made one is given. -/
def openTurns : List Turn :=
  [⟨"model", [.ofText "Let me look.", .call { name := "find" }]⟩]

/-- The answer under the made id, and behind it a call that carries the same id as its own. -/
def answeringTurns : List Turn :=
  [⟨"user", [.answer { id := some "relay-call-1", name := "find" }]⟩,
    ⟨"model", [.call { id := some "relay-call-1", name := "read" }]⟩]

/-- The items of the conversation, of which the first two were sent before it was answered. -/
def answeredItems : List InputItem :=
  [.message ⟨.assistant, ["Let me look."]⟩,
    .functionCall ⟨"relay-call-1", "find", objectText []⟩] ++
  [.functionCallOutput ⟨"relay-call-1", objectText []⟩,
    .functionCall ⟨"relay-call-1", "read", objectText []⟩]

theorem earlier_items_stay_answered :
    inputItems (openTurns ++ answeringTurns) = .ok answeredItems ∧
      (∃ earlier, inputItems openTurns = .ok earlier ∧ earlier <+: answeredItems) ∧
      inputItems answeringTurns = .error (.unknownCall "relay-call-1") ∧
      inputItems (answeringTurns ++ openTurns) = .error (.unknownCall "relay-call-1") := by
  have converts : inputItems (openTurns ++ answeringTurns) = .ok answeredItems := rfl
  have fails : inputItems answeringTurns = .error (.unknownCall "relay-call-1") := rfl
  exact ⟨converts, (earlier_items_stay openTurns answeringTurns).1 _ converts, fails,
    (earlier_items_stay answeringTurns openTurns).2 _ fails⟩

end ResponsesBridge.Outbound
