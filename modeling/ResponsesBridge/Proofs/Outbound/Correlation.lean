import ResponsesBridge.Proofs.Ledger.History
import ResponsesBridge.Proofs.Outbound.Conversion
import Mathlib.Data.Nat.Nth

/-!
# Outputs belong to calls

Every function-call output among the items of a conversation can be paired with a function call of
the same id that stands before it, no two outputs with the same call (`outputs_have_partners`).

A conversion performs operations on a ledger, one for each call and each answer, and puts the id
that an operation tells into the item (`Records`). Up to any place of the items, the outputs of an
id are therefore no more than its calls (`Records.countP_answers_le`): a call that is not answered
yet waits, an answer takes a waiting call away, and calling a waiting id again adds a call that
nobody waits for. From the numbers the pairs follow (`paired_partnerOf`): the first output of an id
belongs to its first call, the second one to its second call.
-/

set_option autoImplicit false

namespace ResponsesBridge.Outbound

open CallLedger (Operation Step perform_step)
open Conversation (Turn Part)
open Wire (InputItem Message FunctionCall FunctionCallOutput)

/-! ## Operations and items -/

/-- What a part does to the ledger. -/
def ledgerOperation? : Part → Option Operation
  | .call call => some (.register call.id)
  | .answer answer => some (.settle answer.id answer.name)
  | _ => none

/-- What turns do to the ledger. -/
def ledgerOperations (turns : List Turn) : List Operation :=
  turns.flatMap fun turn => turn.parts.filterMap ledgerOperation?

/-- Operations on a ledger succeed, and the items record the ids that they tell; between them may
be messages. -/
inductive Records : CallLedger → List Operation → List InputItem → CallLedger → Prop
  | done {ledger : CallLedger} : Records ledger [] [] ledger
  | message {ledger next : CallLedger} {operations : List Operation} {items : List InputItem}
      (message : Message) (later : Records ledger operations items next) :
      Records ledger operations (.message message :: items) next
  | call {ledger between next : CallLedger} {operations : List Operation} {items : List InputItem}
      {given : Option String} {call : FunctionCall}
      (step : Step ledger (.register given) (.ok call.callId) between)
      (later : Records between operations items next) :
      Records ledger (.register given :: operations) (.functionCall call :: items) next
  | answer {ledger between next : CallLedger} {operations : List Operation}
      {items : List InputItem} {given : Option String} {name : String}
      {output : FunctionCallOutput}
      (step : Step ledger (.settle given name) (.ok output.callId) between)
      (later : Records between operations items next) :
      Records ledger (.settle given name :: operations) (.functionCallOutput output :: items) next

theorem Records.append {ledger between next : CallLedger} {first second : List Operation}
    {items later : List InputItem} (one : Records ledger first items between)
    (other : Records between second later next) :
    Records ledger (first ++ second) (items ++ later) next := by
  induction one with
  | done => exact other
  | message message _ ih => exact .message message (ih other)
  | call step _ ih => exact .call step (ih other)
  | answer step _ ih => exact .answer step (ih other)

/-- The items of a run of passages record nothing. -/
theorem records_messageItems {role : String} {run : List String} {message : List InputItem}
    (shown : messageItems role run = .ok message) (ledger : CallLedger) :
    Records ledger [] message ledger := by
  rcases messageItems_eq_ok_iff.mp shown with ⟨-, rfl⟩ | ⟨-, known, -, rfl⟩
  · exact .done
  · exact .message _ .done

theorem PartsBecome.records {role : String} {ledger next : CallLedger} {run : List String}
    {parts : List Part} {items : List InputItem}
    (become : PartsBecome role ledger run parts items next) :
    Records ledger (parts.filterMap ledgerOperation?) items next := by
  induction become with
  | done shown => exact records_messageItems shown _
  | passage later ih => exact ih
  | @call ledger _ _ _ _ call _ shown named later ih =>
      exact (records_messageItems shown ledger).append
        (.call (perform_step ledger (.register call.id)) ih)
  | @answer ledger _ _ _ _ _ answer _ id shown settled later ih =>
      have step := perform_step ledger (.settle answer.id answer.name)
      simp only [CallLedger.perform, settled] at step
      exact (records_messageItems shown ledger).append (.answer step ih)

theorem TurnsBecome.records {ledger next : CallLedger} {turns : List Turn}
    {items : List InputItem} (become : TurnsBecome ledger turns items next) :
    Records ledger (ledgerOperations turns) items next := by
  induction become with
  | done => exact .done
  | turn first rest ih => exact first.records.append ih

/-- The items of a conversation record its operations on an empty ledger. -/
theorem records_of_inputItems {turns : List Turn} {items : List InputItem}
    (converted : inputItems turns = .ok items) :
    ∃ last, Records {} (ledgerOperations turns) items last := by
  obtain ⟨last, become⟩ := inputItems_eq_ok_iff.mp converted
  exact ⟨last, become.records⟩

/-! ## Numbers of calls and outputs -/

/-- Whether an item is a function call with an id. -/
def calls (id : String) : InputItem → Bool
  | .functionCall call => call.callId == id
  | _ => false

/-- Whether an item is a function-call output with an id. -/
def answers (id : String) : InputItem → Bool
  | .functionCallOutput output => output.callId == id
  | _ => false

section Counts

variable (id : String) (call : FunctionCall) (output : FunctionCallOutput)
  (items : List InputItem)

theorem countP_calls_cons_call :
    (.functionCall call :: items).countP (calls id) =
      items.countP (calls id) + [call.callId].count id := by
  simp [List.countP_cons, List.count_singleton, calls]

theorem countP_calls_cons_output :
    (.functionCallOutput output :: items).countP (calls id) = items.countP (calls id) := by
  simp [calls]

theorem countP_answers_cons_call :
    (.functionCall call :: items).countP (answers id) = items.countP (answers id) := by
  simp [answers]

theorem countP_answers_cons_output :
    (.functionCallOutput output :: items).countP (answers id) =
      items.countP (answers id) + [output.callId].count id := by
  simp [List.countP_cons, List.count_singleton, answers]

end Counts

/-- Up to any place the outputs of an id are no more than its calls and the waiting call that there
was before. -/
theorem Records.countP_answers_le {ledger next : CallLedger} {operations : List Operation}
    {items before : List InputItem} (records : Records ledger operations items next)
    (initial : before <+: items) (id : String) :
    before.countP (answers id) ≤ before.countP (calls id) + ledger.waiting.count id := by
  induction records generalizing before with
  | done => simp [List.prefix_nil.mp initial]
  | message message later ih =>
      rcases List.prefix_cons_iff.mp initial with rfl | ⟨rest, rfl, inLater⟩
      · simp
      · simpa [answers, calls] using ih inLater
  | @call ledger between next _ items given call step later ih =>
      rcases List.prefix_cons_iff.mp initial with rfl | ⟨rest, rfl, inLater⟩
      · simp
      · have bound := ih inLater
        have grows := step.count_waiting_le id
        rw [countP_answers_cons_call, countP_calls_cons_call]
        omega
  | @answer ledger between next _ items given name output step later ih =>
      rcases List.prefix_cons_iff.mp initial with rfl | ⟨rest, rfl, inLater⟩
      · simp
      · have bound := ih inLater
        have taken := step.count_waiting_eq id
        rw [countP_answers_cons_output, countP_calls_cons_output]
        omega

/-! ## Pairs -/

/-- Every output has a partner: a function call with the same id that stands before it. Different
outputs have different partners. -/
structure Paired (items : List InputItem) (partner : Nat → Nat) : Prop where
  earlier : ∀ {place : Nat} {output : FunctionCallOutput},
    items[place]? = some (.functionCallOutput output) → partner place < place
  sameId : ∀ {place : Nat} {output : FunctionCallOutput},
    items[place]? = some (.functionCallOutput output) →
      ∃ call, items[partner place]? = some (.functionCall call) ∧ call.callId = output.callId
  distinct : ∀ {one other : Nat} {first second : FunctionCallOutput},
    items[one]? = some (.functionCallOutput first) →
      items[other]? = some (.functionCallOutput second) → partner one = partner other → one = other

/-- Whether an item of some kind stands at a place. -/
def At (kind : InputItem → Bool) (items : List InputItem) (place : Nat) : Prop :=
  items[place]?.any kind = true

instance (kind : InputItem → Bool) (items : List InputItem) : DecidablePred (At kind items) :=
  fun _ => inferInstanceAs (Decidable (_ = true))

theorem at_calls_iff {id : String} {items : List InputItem} {place : Nat} :
    At (calls id) items place ↔
      ∃ call, items[place]? = some (.functionCall call) ∧ call.callId = id := by
  unfold At
  cases items[place]? with
  | none => simp
  | some item => cases item <;> simp [calls]

theorem at_answers_iff {id : String} {items : List InputItem} {place : Nat} :
    At (answers id) items place ↔
      ∃ output, items[place]? = some (.functionCallOutput output) ∧ output.callId = id := by
  unfold At
  cases items[place]? with
  | none => simp
  | some item => cases item <;> simp [answers]

/-- Counting the places before one is counting the items before it. -/
theorem count_at (kind : InputItem → Bool) (items : List InputItem) (place : Nat) :
    Nat.count (At kind items) place = (items.take place).countP kind := by
  induction place with
  | zero => simp
  | succ place ih =>
      rw [Nat.count_succ, ih, List.take_add_one, List.countP_append]
      cases present : items[place]? with
      | none => simp [At, present]
      | some item => simp [At, present, List.countP_cons]

/-- The place of the call of an output: the first output of an id belongs to the first call of
the id, and so on. -/
noncomputable def partnerOf (items : List InputItem) (place : Nat) : Nat :=
  match items[place]? with
  | some (.functionCallOutput output) =>
    Nat.nth (At (calls output.callId) items) (Nat.count (At (answers output.callId) items) place)
  | _ => 0

theorem partnerOf_eq {items : List InputItem} {place : Nat} {output : FunctionCallOutput}
    (stands : items[place]? = some (.functionCallOutput output)) :
    partnerOf items place =
      Nat.nth (At (calls output.callId) items)
        (Nat.count (At (answers output.callId) items) place) := by
  simp only [partnerOf, stands]

section Balanced

variable {items : List InputItem}
  (balanced : ∀ before, before <+: items → ∀ id,
    before.countP (answers id) ≤ before.countP (calls id))
include balanced

/-- Before an output there are more calls of its id than outputs. -/
theorem count_answers_lt_count_calls {place : Nat} {output : FunctionCallOutput}
    (stands : items[place]? = some (.functionCallOutput output)) :
    Nat.count (At (answers output.callId) items) place <
      Nat.count (At (calls output.callId) items) place := by
  have here : At (answers output.callId) items place := at_answers_iff.mpr ⟨output, stands, rfl⟩
  have notCall : ¬ At (calls output.callId) items place := by
    simp [At, stands, calls]
  have bound := balanced (items.take (place + 1)) (List.take_prefix _ _) output.callId
  rw [← count_at, ← count_at, Nat.count_succ, Nat.count_succ, if_pos here, if_neg notCall] at bound
  omega

/-- The call that belongs to an output exists. -/
theorem at_calls_partnerOf {place : Nat} {output : FunctionCallOutput}
    (stands : items[place]? = some (.functionCallOutput output)) :
    At (calls output.callId) items (partnerOf items place) := by
  have fewer := count_answers_lt_count_calls balanced stands
  rw [partnerOf_eq stands]
  exact Nat.nth_mem _ fun finite => fewer.trans_le (Nat.count_le_card finite _)

/-- Before the call that belongs to an output there are as many calls of its id as there are
outputs before the output. -/
theorem count_calls_partnerOf {place : Nat} {output : FunctionCallOutput}
    (stands : items[place]? = some (.functionCallOutput output)) :
    Nat.count (At (calls output.callId) items) (partnerOf items place) =
      Nat.count (At (answers output.callId) items) place := by
  have fewer := count_answers_lt_count_calls balanced stands
  rw [partnerOf_eq stands]
  exact Nat.count_nth fun finite => fewer.trans_le (Nat.count_le_card finite _)

/-- **Where outputs never outnumber calls, they can be paired with calls.** -/
theorem paired_partnerOf : Paired items (partnerOf items) where
  earlier stands := by
    rw [partnerOf_eq stands]
    exact Nat.nth_lt_of_lt_count (count_answers_lt_count_calls balanced stands)
  sameId stands := at_calls_iff.mp (at_calls_partnerOf balanced stands)
  distinct {one other first second} standsOne standsOther same := by
    -- The partners are one call, so the outputs have one id, and as many outputs before them.
    obtain ⟨call, isCall, firstId⟩ := at_calls_iff.mp (at_calls_partnerOf balanced standsOne)
    obtain ⟨call', isCall', secondId⟩ := at_calls_iff.mp (at_calls_partnerOf balanced standsOther)
    rw [same, isCall', Option.some.injEq, InputItem.functionCall.injEq] at isCall
    have ids : first.callId = second.callId := by rw [← firstId, ← secondId, isCall]
    have counts := count_calls_partnerOf balanced standsOne
    rw [same, ids, count_calls_partnerOf balanced standsOther] at counts
    have answersOne : At (answers second.callId) items one :=
      at_answers_iff.mpr ⟨first, standsOne, ids⟩
    have answersOther : At (answers second.callId) items other :=
      at_answers_iff.mpr ⟨second, standsOther, rfl⟩
    exact Nat.count_injective answersOne answersOther counts.symm

end Balanced

/-- **Every output belongs to an earlier call.** The outputs of a conversation that can be sent are
paired with calls of the same id before them, no two with the same call; so up to any place the
outputs of an id are no more than its calls. -/
theorem outputs_have_partners {turns : List Turn} {items : List InputItem}
    (converted : inputItems turns = .ok items) :
    (∃ partner, Paired items partner) ∧
      ∀ before, before <+: items → ∀ id,
        before.countP (answers id) ≤ before.countP (calls id) := by
  obtain ⟨last, records⟩ := records_of_inputItems converted
  have balanced : ∀ before, before <+: items → ∀ id,
      before.countP (answers id) ≤ before.countP (calls id) := by
    intro before initial id
    simpa using records.countP_answers_le initial id
  exact ⟨⟨partnerOf items, paired_partnerOf balanced⟩, balanced⟩

/-- A conversation with a made id, a repeated id and answers out of order. -/
def crossedTurns : List Turn :=
  [⟨"model", [.call { name := "find" }, .call { id := some "second", name := "read" },
      .call { id := some "second", name := "read" }]⟩,
    ⟨"user", [.answer { id := some "second", name := "read" }, .ofText "and",
      .answer { name := "find" }]⟩]

/-- The items of the conversation. -/
def crossedItems : List InputItem :=
  [.functionCall ⟨"relay-call-1", "find", "\x7b\x7d"⟩, .functionCall ⟨"second", "read", "\x7b\x7d"⟩,
    .functionCall ⟨"second", "read", "\x7b\x7d"⟩, .functionCallOutput ⟨"second", "\x7b\x7d"⟩,
    .message ⟨.user, ["and"]⟩, .functionCallOutput ⟨"relay-call-1", "\x7b\x7d"⟩]

theorem outputs_have_partners_crossed :
    inputItems crossedTurns = .ok crossedItems ∧ (∃ partner, Paired crossedItems partner) ∧
      ∀ before, before <+: crossedItems → ∀ id,
        before.countP (answers id) ≤ before.countP (calls id) := by
  have converted : inputItems crossedTurns = .ok crossedItems := rfl
  exact ⟨converted, outputs_have_partners converted⟩

end ResponsesBridge.Outbound
