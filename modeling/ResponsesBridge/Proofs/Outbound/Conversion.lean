import ResponsesBridge.Outbound.Items

/-!
# What a conversion that succeeds consists of

The conversion of turns, read as a derivation: each part contributes its items and takes the
ledger one step further. `PartsBecome` and `TurnsBecome` hold exactly if the conversion
succeeds with the given items and the given ledger behind them (`partItems_eq_ok_iff`,
`turnItems_eq_ok_iff`), so facts about conversions are proved by induction on derivations.
-/

set_option autoImplicit false

namespace ResponsesBridge.Outbound

open Conversation (Turn Part Passage Call Answer)
open Wire (InputItem)

/-- The item of a call under an id. -/
def calledItem (id : String) (call : Call) : InputItem :=
  .functionCall ⟨id, call.name, objectText call.arguments⟩

/-- The item of an answer under an id. -/
def answeredItem (id : String) (answer : Answer) : InputItem :=
  .functionCallOutput ⟨id, objectText answer.result⟩

/-- A part that is a call or an answer. -/
def isExchange : Part → Bool
  | .call _ | .answer _ => true
  | _ => false

/-- An item that is a call or the output of one. -/
def isExchangeItem : InputItem → Bool
  | .functionCall _ | .functionCallOutput _ => true
  | .message _ => false

/-- A run of passages makes one message of the texts that are shown, and none if there are none. -/
theorem messageItems_eq_ok_iff {role : String} {run : List String} {message : List InputItem} :
    messageItems role run = .ok message ↔
      (shownTexts run = [] ∧ message = []) ∨
        (shownTexts run ≠ [] ∧
          ∃ known, inputRole role = .ok known ∧ message = [.message ⟨known, shownTexts run⟩]) := by
  simp only [messageItems]
  split
  case h_1 nothing => simp [nothing, eq_comm]
  case h_2 some =>
    have shown : shownTexts run ≠ [] := some
    simp only [bind_eq_ok_iff, pure, Except.pure, Except.ok.injEq, shown, false_and, false_or,
      ne_eq, not_false_eq_true, true_and]
    exact exists_congr fun known => and_congr_right fun _ => eq_comm

theorem callItem_eq_ok_iff {ledger next : CallLedger} {call : Call} {item : InputItem} :
    callItem ledger call = .ok (item, next) ↔
      call.name ≠ "" ∧ item = calledItem (ledger.register call.id).1 call ∧
        next = (ledger.register call.id).2 := by
  by_cases unnamed : call.name = ""
  · simp [callItem, unnamed]
  · have converted : callItem ledger call =
        .ok (calledItem (ledger.register call.id).1 call, (ledger.register call.id).2) := by
      simp [callItem, unnamed, calledItem]
    rw [converted, Except.ok.injEq, Prod.mk.injEq]
    constructor
    · rintro ⟨rfl, rfl⟩
      exact ⟨unnamed, rfl, rfl⟩
    · rintro ⟨-, rfl, rfl⟩
      exact ⟨rfl, rfl⟩

theorem answerItem_eq_ok_iff {ledger next : CallLedger} {answer : Answer} {item : InputItem} :
    answerItem ledger answer = .ok (item, next) ↔
      ∃ id, ledger.settle answer.id answer.name = (.ok id, next) ∧
        item = answeredItem id answer := by
  simp only [answerItem, bind_eq_ok_iff, pure, Except.pure, answeredItem, Except.ok.injEq,
    Prod.ext_iff]
  constructor
  · rintro ⟨id, told, rfl, rfl⟩
    exact ⟨id, ⟨told, rfl⟩, rfl⟩
  · rintro ⟨id, ⟨told, rfl⟩, rfl⟩
    exact ⟨id, told, rfl, rfl⟩

/-- The parts of a turn with a role, behind a run of passages, become items, and take one ledger to
another. -/
inductive PartsBecome (role : String) :
    CallLedger → List String → List Part → List InputItem → CallLedger → Prop
  | done {ledger : CallLedger} {run : List String} {message : List InputItem}
      (shown : messageItems role run = .ok message) : PartsBecome role ledger run [] message ledger
  | passage {ledger next : CallLedger} {run : List String} {passage : Passage}
      {parts : List Part} {items : List InputItem}
      (later : PartsBecome role ledger (run ++ [passage.text]) parts items next) :
      PartsBecome role ledger run (.passage passage :: parts) items next
  | call {ledger next : CallLedger} {run : List String} {message items : List InputItem}
      {call : Call} {parts : List Part}
      (shown : messageItems role run = .ok message) (named : call.name ≠ "")
      (later : PartsBecome role (ledger.register call.id).2 [] parts items next) :
      PartsBecome role ledger run (.call call :: parts)
        (message ++ calledItem (ledger.register call.id).1 call :: items) next
  | answer {ledger between next : CallLedger} {run : List String} {message items : List InputItem}
      {answer : Answer} {parts : List Part} {id : String}
      (shown : messageItems role run = .ok message)
      (settled : ledger.settle answer.id answer.name = (.ok id, between))
      (later : PartsBecome role between [] parts items next) :
      PartsBecome role ledger run (.answer answer :: parts)
        (message ++ answeredItem id answer :: items) next

theorem PartsBecome.of_partItems {role : String} {ledger next : CallLedger} {run : List String}
    {parts : List Part} {items : List InputItem}
    (converted : partItems role ledger run parts = .ok (items, next)) :
    PartsBecome role ledger run parts items next := by
  induction parts generalizing ledger run items with
  | nil =>
      simp only [partItems, bind_eq_ok_iff, pure, Except.pure, Except.ok.injEq,
        Prod.mk.injEq] at converted
      obtain ⟨message, shown, rfl, rfl⟩ := converted
      exact .done shown
  | cons part parts ih =>
      cases part with
      | passage passage => exact .passage (ih converted)
      | call call =>
          simp only [partItems, bind_eq_ok_iff, pure, Except.pure, Except.ok.injEq,
            Prod.mk.injEq, Prod.exists, callItem_eq_ok_iff] at converted
          obtain ⟨message, shown, item, between, ⟨named, rfl, rfl⟩, later, last, rest, rfl, rfl⟩ :=
            converted
          exact .call shown named (ih rest)
      | answer answer =>
          simp only [partItems, bind_eq_ok_iff, pure, Except.pure, Except.ok.injEq,
            Prod.mk.injEq, Prod.exists, answerItem_eq_ok_iff] at converted
          obtain ⟨message, shown, item, between, ⟨id, settled, rfl⟩, later, last, rest, rfl, rfl⟩ :=
            converted
          exact .answer shown settled (ih rest)
      | inlineData data => cases converted
      | file reference => cases converted
      | program program => cases converted
      | programResult result => cases converted

theorem PartsBecome.partItems_eq {role : String} {ledger next : CallLedger} {run : List String}
    {parts : List Part} {items : List InputItem}
    (become : PartsBecome role ledger run parts items next) :
    partItems role ledger run parts = .ok (items, next) := by
  induction become with
  | done shown => simp only [partItems, shown, bind, Except.bind, pure, Except.pure]
  | passage later ih => simpa only [partItems] using ih
  | @call ledger _ _ _ _ call _ shown named later ih =>
      have item : callItem ledger call = .ok (_, _) := callItem_eq_ok_iff.mpr ⟨named, rfl, rfl⟩
      simp only [partItems, shown, item, ih, bind, Except.bind, pure, Except.pure]
  | answer shown settled later ih =>
      have item := answerItem_eq_ok_iff.mpr ⟨_, settled, rfl⟩
      simp only [partItems, shown, item, ih, bind, Except.bind, pure, Except.pure]

/-- The conversion of parts succeeds exactly along a derivation. -/
theorem partItems_eq_ok_iff {role : String} {ledger next : CallLedger} {run : List String}
    {parts : List Part} {items : List InputItem} :
    partItems role ledger run parts = .ok (items, next) ↔
      PartsBecome role ledger run parts items next :=
  ⟨.of_partItems, PartsBecome.partItems_eq⟩

/-- Turns become items, and take one ledger to another. -/
inductive TurnsBecome : CallLedger → List Turn → List InputItem → CallLedger → Prop
  | done {ledger : CallLedger} : TurnsBecome ledger [] [] ledger
  | turn {ledger between next : CallLedger} {turn : Turn} {turns : List Turn}
      {items later : List InputItem}
      (first : PartsBecome turn.role ledger [] turn.parts items between)
      (rest : TurnsBecome between turns later next) :
      TurnsBecome ledger (turn :: turns) (items ++ later) next

/-- The conversion of turns succeeds exactly along a derivation. -/
theorem turnItems_eq_ok_iff {ledger next : CallLedger} {turns : List Turn}
    {items : List InputItem} :
    turnItems ledger turns = .ok (items, next) ↔ TurnsBecome ledger turns items next := by
  constructor
  · intro converted
    induction turns generalizing ledger items with
    | nil =>
        cases converted
        exact .done
    | cons turn turns ih =>
        simp only [turnItems, bind_eq_ok_iff, pure, Except.pure, Except.ok.injEq, Prod.mk.injEq,
          Prod.exists, partItems_eq_ok_iff] at converted
        obtain ⟨items, between, first, later, last, rest, rfl, rfl⟩ := converted
        exact .turn first (ih rest)
  · intro become
    induction become with
    | done => rfl
    | turn first rest ih =>
        simp only [turnItems, first.partItems_eq, ih, bind, Except.bind, pure, Except.pure]

/-- The items of a conversation are those of a derivation that starts with an empty ledger. -/
theorem inputItems_eq_ok_iff {turns : List Turn} {items : List InputItem} :
    inputItems turns = .ok items ↔ ∃ last, TurnsBecome {} turns items last := by
  simp only [inputItems, bind_eq_ok_iff, pure, Except.pure, Except.ok.injEq, Prod.exists,
    turnItems_eq_ok_iff]
  constructor
  · rintro ⟨items, last, become, rfl⟩
    exact ⟨last, become⟩
  · rintro ⟨last, become⟩
    exact ⟨items, last, become, rfl⟩

end ResponsesBridge.Outbound
