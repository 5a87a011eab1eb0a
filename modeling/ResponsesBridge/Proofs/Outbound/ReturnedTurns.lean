import ResponsesBridge.Proofs.Inbound.Output
import ResponsesBridge.Proofs.Ledger.History
import ResponsesBridge.Proofs.Outbound.Conversion

/-!
# Turns of the model that are sent back

What a response has generated can be sent back as a turn of the conversation, together with the
answers to its calls in any order (`generated_turn_returns`).

A turn of passages and named calls is always converted, and each of its calls waits behind it
(`exists_partsBecome_of_calls`). Answers with the ids of distinct waiting calls are converted
as well: each takes away its own call only, so the others go on waiting
(`exists_partsBecome_of_answers`).
-/

set_option autoImplicit false

namespace ResponsesBridge.Outbound

open CallLedger (perform_step)
open Conversation (Turn Part Call Answer Generation)
open Inbound (callItems callParts generation outputParts)
open Wire (InputItem FunctionCall FunctionCallOutput OutputItem Response)

/-! ## Items by kind -/

/-- The function call that an item is. -/
def functionCall? : InputItem → Option FunctionCall
  | .functionCall call => some call
  | _ => none

/-- The function-call output that an item is. -/
def output? : InputItem → Option FunctionCallOutput
  | .functionCallOutput output => some output
  | _ => none

/-- The ids and names of the function calls among items, in order. -/
def calledNames (items : List InputItem) : List (String × String) :=
  (items.filterMap functionCall?).map fun call => (call.callId, call.name)

/-- The ids and texts of the outputs among items, in order. -/
def outputTexts (items : List InputItem) : List (String × String) :=
  (items.filterMap output?).map fun output => (output.callId, output.output)

theorem calledNames_append (first second : List InputItem) :
    calledNames (first ++ second) = calledNames first ++ calledNames second := by
  simp only [calledNames, List.filterMap_append, List.map_append]

theorem outputTexts_append (first second : List InputItem) :
    outputTexts (first ++ second) = outputTexts first ++ outputTexts second := by
  simp only [outputTexts, List.filterMap_append, List.map_append]

/-! ## A turn of passages and calls -/

/-- Under a role that can be sent a run of passages is a message or nothing. -/
theorem exists_messageItems {role : String} {sentRole : Wire.InputRole}
    (known : inputRole role = .ok sentRole) (run : List String) :
    ∃ message, messageItems role run = .ok message ∧ calledNames message = [] ∧
      outputTexts message = [] := by
  unfold messageItems
  cases shownTexts run with
  | nil => exact ⟨[], rfl, rfl, rfl⟩
  | cons text texts =>
      rw [known]
      exact ⟨_, rfl, rfl, rfl⟩

/-- A call with an id is opened under it. -/
theorem register_some (ledger : CallLedger) {id : String} (notEmpty : id ≠ "") :
    (ledger.register (some id)).1 = id := by
  simp [CallLedger.register, givenId?, Option.filter, notEmpty]

/-- A call that has been opened waits, and so do all that waited before. -/
theorem mem_waiting_register (ledger : CallLedger) {given : Option String} {id : String}
    (waits : id = (ledger.register given).1 ∨ id ∈ ledger.waiting) :
    id ∈ (ledger.register given).2.waiting :=
  (perform_step ledger (.register given)).mem_waiting_of_register waits

/-- A call has a name, and an id of its own. -/
structure Identified (call : Call) : Prop where
  named : call.name ≠ ""
  exists_id : ∃ id, call.id = some id ∧ id ≠ ""

/-- **A turn of passages and calls** is converted, and its calls wait behind it. -/
theorem exists_partsBecome_of_calls {role : String} {sentRole : Wire.InputRole}
    (known : inputRole role = .ok sentRole) {parts : List Part}
    (said : ∀ part ∈ parts, (∃ passage, part = .passage passage) ∨ ∃ call, part = .call call)
    (identified : ∀ call ∈ callParts parts, Identified call) (ledger : CallLedger)
    (run : List String) :
    ∃ items next, PartsBecome role ledger run parts items next ∧
      calledNames items = (callParts parts).map (fun call => (call.id.getD "", call.name)) ∧
      outputTexts items = [] ∧
      ∀ id, id ∈ ledger.waiting ∨ some id ∈ (callParts parts).map (fun call => call.id) →
        id ∈ next.waiting := by
  induction parts generalizing ledger run with
  | nil =>
      obtain ⟨message, shown, noCall, noOutput⟩ := exists_messageItems known run
      refine ⟨message, ledger, .done shown, noCall, noOutput, fun id waits => ?_⟩
      simpa [callParts] using waits
  | cons part parts ih =>
      have saidLater : ∀ part ∈ parts,
          (∃ passage, part = .passage passage) ∨ ∃ call, part = .call call :=
        fun other member => said other (List.mem_cons_of_mem _ member)
      rcases said part (List.mem_cons_self ..) with ⟨passage, rfl⟩ | ⟨call, rfl⟩
      · obtain ⟨items, next, become, called, noOutput, wait⟩ :=
          ih saidLater identified ledger (run ++ [passage.text])
        exact ⟨items, next, .passage become, called, noOutput, wait⟩
      · have calls : callParts (.call call :: parts) = call :: callParts parts := rfl
        rw [calls] at identified ⊢
        obtain ⟨named, id, isId, notEmpty⟩ := identified call (List.mem_cons_self ..)
        obtain ⟨message, shown, noCall, noOutput⟩ := exists_messageItems known run
        obtain ⟨items, next, become, called, noLater, wait⟩ :=
          ih saidLater (fun other member => identified other (List.mem_cons_of_mem _ member))
            (ledger.register call.id).2 []
        have told : (ledger.register call.id).1 = call.id.getD "" := by
          rw [isId, register_some ledger notEmpty, Option.getD_some]
        refine ⟨_, next, .call shown named become, ?_, ?_, fun other waits => wait other ?_⟩
        · rw [calledNames_append, noCall, List.nil_append, List.map_cons, ← called, ← told]
          rfl
        · rw [outputTexts_append, noOutput, List.nil_append, ← noLater]
          rfl
        · rcases waits with before | here
          · exact .inl (mem_waiting_register ledger (.inr before))
          · rcases List.mem_cons.mp here with same | later
            · refine .inl (mem_waiting_register ledger (.inl ?_))
              rw [told, isId]
              exact Option.some.inj (same.trans isId)
            · exact .inr later

/-! ## A turn of answers -/

/-- An answer to a waiting call settles that call. -/
theorem settle_of_mem {ledger : CallLedger} {id : String} (notEmpty : id ≠ "")
    (waits : id ∈ ledger.waiting) (name : String) :
    ledger.settle (some id) name =
      (.ok id, { ledger with waiting := ledger.waiting.erase id }) := by
  simp [CallLedger.settle, givenId?, Option.filter, notEmpty, waits]

/-- **A turn of answers** to distinct waiting calls is converted. -/
theorem exists_partsBecome_of_answers (role : String) {answers : List Answer}
    {ledger : CallLedger}
    (waiting : ∀ answer ∈ answers, ∃ id, answer.id = some id ∧ id ≠ "" ∧ id ∈ ledger.waiting)
    (distinct : (answers.map fun answer => answer.id).Nodup) :
    ∃ items next, PartsBecome role ledger [] (answers.map .answer) items next ∧
      calledNames items = [] ∧
      outputTexts items =
        answers.map fun answer => (answer.id.getD "", objectText answer.result) := by
  induction answers generalizing ledger with
  | nil => exact ⟨[], ledger, .done rfl, rfl, rfl⟩
  | cons answer answers ih =>
      obtain ⟨id, isId, notEmpty, waits⟩ := waiting answer (List.mem_cons_self ..)
      obtain ⟨different, distinct⟩ := List.nodup_cons.mp distinct
      have settled : ledger.settle answer.id answer.name =
          (.ok id, { ledger with waiting := ledger.waiting.erase id }) := by
        rw [isId, settle_of_mem notEmpty waits]
      -- Only the call of this answer is taken away, and no later answer has its id.
      have waitingLater : ∀ later ∈ answers, ∃ other, later.id = some other ∧ other ≠ "" ∧
          other ∈ ({ ledger with waiting := ledger.waiting.erase id } : CallLedger).waiting := by
        intro later member
        obtain ⟨other, isOther, otherNotEmpty, otherWaits⟩ :=
          waiting later (List.mem_cons_of_mem _ member)
        refine ⟨other, isOther, otherNotEmpty, (List.mem_erase_of_ne ?_).mpr otherWaits⟩
        rintro rfl
        exact different (List.mem_map.mpr ⟨later, member, isOther.trans isId.symm⟩)
      obtain ⟨items, next, become, noCall, outputs⟩ := ih waitingLater distinct
      refine ⟨_, next, .answer rfl settled become, ?_, ?_⟩
      · rw [← noCall]
        rfl
      · rw [List.map_cons, ← outputs, isId]
        rfl

/-! ## Both turns behind a conversation -/

theorem TurnsBecome.append {ledger between next : CallLedger} {turns later : List Turn}
    {items rest : List InputItem} (one : TurnsBecome ledger turns items between)
    (other : TurnsBecome between later rest next) :
    TurnsBecome ledger (turns ++ later) (items ++ rest) next := by
  induction one with
  | done => exact other
  | turn first _ ih =>
      rw [List.append_assoc]
      exact .turn first (ih other)

/-- The calls of an output are identified if its items are. -/
theorem identified_of_outputParts {output : List OutputItem} {parts : List Part}
    (converted : outputParts output = .ok parts)
    (identified : ∀ item ∈ callItems output, item.name ≠ "" ∧ item.callId ≠ "") :
    ∀ call ∈ callParts parts, Identified call := by
  intro call member
  have told : (call.id, call.name) ∈
      (callParts parts).map fun call => (call.id, call.name) :=
    List.mem_map.mpr ⟨call, member, rfl⟩
  rw [Inbound.callParts_of_outputParts converted] at told
  obtain ⟨item, isItem, same⟩ := List.mem_map.mp told
  obtain ⟨id, name⟩ := Prod.mk.inj same
  obtain ⟨named, notEmpty⟩ := identified item isItem
  exact ⟨name ▸ named, item.callId, id.symm, notEmpty⟩

/-- **The parts of an output and the answers to its calls** are converted behind any ledger. -/
theorem exists_turnsBecome_of_output {output : List OutputItem} {parts : List Part}
    (converted : outputParts output = .ok parts)
    (identified : ∀ item ∈ callItems output, item.name ≠ "" ∧ item.callId ≠ "")
    (distinct : ((callItems output).map fun item => item.callId).Nodup) {answers : List Answer}
    (answered : (answers.map fun answer => answer.id).Perm
      ((callParts parts).map fun call => call.id)) (ledger : CallLedger) :
    ∃ items next,
      TurnsBecome ledger [⟨Conversation.modelRole, parts⟩, ⟨"user", answers.map .answer⟩] items
          next ∧
        calledNames items = (callItems output).map (fun item => (item.callId, item.name)) ∧
        outputTexts items =
          answers.map fun answer => (answer.id.getD "", objectText answer.result) := by
  have known : inputRole Conversation.modelRole = .ok .assistant := rfl
  have ids := Inbound.ids_of_outputParts converted
  obtain ⟨first, between, becomeFirst, called, noOutput, wait⟩ :=
    exists_partsBecome_of_calls known (Inbound.passage_or_call_of_outputParts converted)
      (identified_of_outputParts converted identified) ledger []
  have waiting : ∀ answer ∈ answers, ∃ id, answer.id = some id ∧ id ≠ "" ∧
      id ∈ between.waiting := by
    intro answer member
    have given := answered.mem_iff.mp (List.mem_map.mpr ⟨answer, member, rfl⟩)
    rw [ids] at given
    obtain ⟨item, isItem, same⟩ := List.mem_map.mp given
    refine ⟨item.callId, same.symm, (identified item isItem).2, wait _ (.inr ?_)⟩
    rw [ids]
    exact List.mem_map.mpr ⟨item, isItem, rfl⟩
  have distinctAnswers : (answers.map fun answer => answer.id).Nodup := by
    have distinctIds := distinct.map (Option.some_injective _)
    rw [List.map_map] at distinctIds
    rw [answered.nodup_iff, ids]
    exact distinctIds
  obtain ⟨second, next, becomeSecond, noCall, outputs⟩ :=
    exists_partsBecome_of_answers "user" waiting distinctAnswers
  refine ⟨first ++ (second ++ []), next, .turn becomeFirst (.turn becomeSecond .done), ?_, ?_⟩
  · have names := congrArg (List.map fun pair => (pair.1.getD "", pair.2))
      (Inbound.callParts_of_outputParts converted)
    rw [List.map_map, List.map_map] at names
    rw [List.append_nil, calledNames_append, called, noCall, List.append_nil]
    exact names
  · rw [List.append_nil, outputTexts_append, noOutput, List.nil_append, outputs]

/-- **A generated turn can be sent back** behind any conversation that can be sent, together with
one answer to each of its calls, in any order: the calls have names, and ids that differ from each
other. The items of the conversation stay the first ones; behind them come the calls of the
response, in order, under their ids and names, and the outputs in the order of the answers, each
under the id of its call. No id has to be new to the conversation. -/
theorem generated_turn_returns {turns : List Turn} {items : List InputItem}
    (converted : inputItems turns = .ok items) {response : Response} {made : Generation}
    (whole : generation response = .ok made)
    (identified : ∀ item ∈ callItems response.output, item.name ≠ "" ∧ item.callId ≠ "")
    (distinct : ((callItems response.output).map fun item => item.callId).Nodup) :
    ∃ generated, made.candidates.map (fun candidate => candidate.turn) = [generated] ∧
      ∀ answers : List Answer,
        (answers.map fun answer => answer.id).Perm
            ((callParts generated.parts).map fun call => call.id) →
          ∃ added,
            inputItems (turns ++ [generated, ⟨"user", answers.map .answer⟩]) =
                .ok (items ++ added) ∧
              calledNames added =
                (callItems response.output).map (fun item => (item.callId, item.name)) ∧
              outputTexts added =
                answers.map fun answer => (answer.id.getD "", objectText answer.result) := by
  obtain ⟨ledger, become⟩ := inputItems_eq_ok_iff.mp converted
  obtain ⟨parts, isOutput, generated⟩ := Inbound.candidates_of_generation whole
  refine ⟨_, generated, fun answers answered => ?_⟩
  obtain ⟨added, next, both, called, outputs⟩ :=
    exists_turnsBecome_of_output isOutput identified distinct answered ledger
  exact ⟨added, inputItems_eq_ok_iff.mpr ⟨next, become.append both⟩, called, outputs⟩

/-- A conversation with a call that has not been answered yet. -/
def waitingTurns : List Turn :=
  [⟨"user", [.ofText "Where"]⟩, ⟨"model", [.call { name := "find" }]⟩]

/-- The items of the conversation. -/
def waitingItems : List InputItem :=
  [.message ⟨.user, ["Where"]⟩, .functionCall ⟨"relay-call-1", "find", "\x7b\x7d"⟩]

/-- A response with two calls behind a message. -/
def callingResponse : Response where
  output :=
    [{ type := "message", content := [⟨"output_text", "Both", ""⟩] },
      { type := "function_call", name := "find", callId := "first" },
      { type := "function_call", name := "read", callId := "second" }]

/-- The turn of the response. -/
def callingTurn : Turn where
  role := "model"
  parts := [.ofText "Both", .call ⟨some "first", "find", []⟩, .call ⟨some "second", "read", []⟩]

/-- The generation of the response. -/
def callingGeneration : Generation where
  candidates := [{ turn := callingTurn, finishReason := .stop }]
  usage := some (Inbound.usage {})

theorem generated_turn_returns_crossed :
    inputItems waitingTurns = .ok waitingItems ∧
      generation callingResponse = .ok callingGeneration ∧
      (∀ item ∈ callItems callingResponse.output, item.name ≠ "" ∧ item.callId ≠ "") ∧
      ((callItems callingResponse.output).map fun item => item.callId).Nodup ∧
      ∃ generated,
        callingGeneration.candidates.map (fun candidate => candidate.turn) = [generated] ∧
          ∃ added,
            inputItems (waitingTurns ++ [generated,
                ⟨"user", [.answer { id := some "second" }, .answer { id := some "first" }]⟩]) =
                .ok (waitingItems ++ added) ∧
              calledNames added = [("first", "find"), ("second", "read")] ∧
              outputTexts added = [("second", "\x7b\x7d"), ("first", "\x7b\x7d")] := by
  have converted : inputItems waitingTurns = .ok waitingItems := rfl
  have whole : generation callingResponse = .ok callingGeneration := rfl
  have identified : ∀ item ∈ callItems callingResponse.output,
      item.name ≠ "" ∧ item.callId ≠ "" := by
    simp [callItems, callingResponse]
  have distinct : ((callItems callingResponse.output).map fun item => item.callId).Nodup := by
    simp [callItems, callingResponse]
  obtain ⟨generated, only, returns⟩ :=
    generated_turn_returns converted whole identified distinct
  obtain rfl : callingTurn = generated := List.head_eq_of_cons_eq only
  have answered := returns [{ id := some "second" }, { id := some "first" }] (.swap ..)
  exact ⟨converted, whole, identified, distinct, callingTurn, only, answered⟩

end ResponsesBridge.Outbound
