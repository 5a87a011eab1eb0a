import ResponsesBridge.Proofs.Outbound.Correlation
import Mathlib.Data.List.Forall2

/-!
# Made ids among given ones

A call without an id is sent under a made one. Made ids differ from each other, since their
numbers ascend (`Records.ids`), and from every id that waits when they are made. They do not differ
from every id of the conversation: a call that was answered before, or one that comes later, may
carry the same id of its own. `made_id_unique_iff` says that this is the only way in which a made id
can occur twice, and that the call of an earlier occurrence has been answered;
`made_id_not_unique` is such a conversation.
-/

set_option autoImplicit false

namespace ResponsesBridge.Outbound

open CallLedger (Operation Step numberedId numberedId_injective lastNumber_lt_nextNumber)
open Conversation (Turn Part Call)
open Wire (InputItem FunctionCall FunctionCallOutput)

/-- The calls of turns, in order. -/
def callsOf (turns : List Turn) : List Call :=
  turns.flatMap fun turn => turn.parts.filterMap Part.call?

/-- The id of an item that is a function call. -/
def callId? : InputItem → Option String
  | .functionCall call => some call.callId
  | _ => none

/-- The ids of the function calls among items, in order. -/
def callIds (items : List InputItem) : List String :=
  items.filterMap callId?

/-- The id that is given to an operation that opens a call. -/
def registered? : Operation → Option (Option String)
  | .register given => some given
  | .settle _ _ => none

/-- The ids that are given to the operations that open calls, in order. -/
def registeredIds (operations : List Operation) : List (Option String) :=
  operations.filterMap registered?

theorem registeredIds_ledgerOperations (turns : List Turn) :
    registeredIds (ledgerOperations turns) = (callsOf turns).map fun call => call.id := by
  have parts : ∀ part : Part, (ledgerOperation? part).bind registered? =
      part.call?.map fun call => call.id := by
    intro part
    cases part <;> rfl
  simp only [registeredIds, ledgerOperations, callsOf, List.filterMap_flatMap, List.map_flatMap,
    List.filterMap_filterMap, List.map_filterMap, parts]

/-! ## Where the ids of calls come from -/

/-- An id is made with a number behind one number and not behind another one. -/
def MadeBetween (low high : Nat) (id : String) : Prop :=
  ∃ number, low < number ∧ number ≤ high ∧ id = numberedId number

theorem MadeBetween.mono {low high low' high' : Nat} {id : String} (made : MadeBetween low high id)
    (lower : low' ≤ low) (higher : high ≤ high') : MadeBetween low' high' id := by
  obtain ⟨number, above, below, rfl⟩ := made
  exact ⟨number, by omega, by omega, rfl⟩

/-- An id comes from what was given, or was made between two numbers. -/
def ComesFrom (low high : Nat) (given : Option String) (id : String) : Prop :=
  givenId? given = some id ∨ givenId? given = none ∧ MadeBetween low high id

theorem ComesFrom.mono {low high low' high' : Nat} {given : Option String} {id : String}
    (comes : ComesFrom low high given id) (lower : low' ≤ low) (higher : high ≤ high') :
    ComesFrom low' high' given id :=
  comes.imp_right fun made => ⟨made.1, made.2.mono lower higher⟩

/-- The ids of the calls are the given ones and ones that are made with ascending numbers. -/
theorem Records.ids {ledger next : CallLedger} {operations : List Operation}
    {items : List InputItem} (records : Records ledger operations items next) :
    ledger.lastNumber ≤ next.lastNumber ∧
      List.Forall₂ (ComesFrom ledger.lastNumber next.lastNumber) (registeredIds operations)
        (callIds items) := by
  induction records with
  | done => exact ⟨Nat.le_refl _, .nil⟩
  | message message later ih => exact ih
  | @call ledger between next _ _ given call step later ih =>
      obtain ⟨grows, ids⟩ := ih
      rcases step.told_of_register with ⟨isGiven, same⟩ | ⟨notGiven, made, -, number⟩
      · rw [same] at grows ids
        exact ⟨grows, .cons (.inl isGiven) ids⟩
      · have ascends := lastNumber_lt_nextNumber ledger
        rw [number] at grows ids
        have first : ComesFrom ledger.lastNumber next.lastNumber given call.callId :=
          .inr ⟨notGiven, ledger.nextNumber, ascends, grows, made⟩
        exact ⟨by omega, .cons first (ids.imp fun _ _ comes => comes.mono ascends.le le_rfl)⟩
  | answer step later ih =>
      rw [step.lastNumber_of_settle] at ih
      exact ih

/-- An id that is not made between the numbers is among the ids exactly if it was given. -/
theorem mem_iff_given_of_not_made {low high : Nat} {id : String} {given : List (Option String)}
    {ids : List String} (comes : List.Forall₂ (ComesFrom low high) given ids)
    (notMade : ¬ MadeBetween low high id) :
    id ∈ ids ↔ ∃ other ∈ given, givenId? other = some id := by
  induction comes with
  | nil => simp
  | @cons one first given ids source _ ih =>
      have here : id = first ↔ givenId? one = some id := by
        rcases source with isGiven | ⟨notGiven, made⟩
        · rw [isGiven, Option.some.injEq, eq_comm]
        · rw [notGiven]
          exact ⟨fun same => absurd (same ▸ made) notMade, fun impossible => by cases impossible⟩
      rw [List.mem_cons, here, ih]
      simp

/-! ## Splitting records -/

/-- Records split where their items do. -/
theorem Records.split_items {ledger next : CallLedger} {operations : List Operation}
    {front back : List InputItem} (records : Records ledger operations (front ++ back) next) :
    ∃ first second between, operations = first ++ second ∧ Records ledger first front between ∧
      Records between second back next := by
  generalize whole : front ++ back = items at records
  induction records generalizing front with
  | done =>
      obtain ⟨rfl, rfl⟩ := List.append_eq_nil_iff.mp whole
      exact ⟨[], [], _, rfl, .done, .done⟩
  | @message ledger next operations items message later ih =>
      rcases List.append_eq_cons_iff.mp whole with ⟨rfl, rfl⟩ | ⟨front, rfl, rfl⟩
      · exact ⟨[], operations, ledger, rfl, .done, .message message later⟩
      · obtain ⟨first, second, between, rfl, one, other⟩ := ih rfl
        exact ⟨first, second, between, rfl, .message message one, other⟩
  | @call ledger _ next operations items given call step later ih =>
      rcases List.append_eq_cons_iff.mp whole with ⟨rfl, rfl⟩ | ⟨front, rfl, rfl⟩
      · exact ⟨[], _, ledger, rfl, .done, .call step later⟩
      · obtain ⟨first, second, between, rfl, one, other⟩ := ih rfl
        exact ⟨_ :: first, second, between, rfl, .call step one, other⟩
  | @answer ledger _ next operations items given name output step later ih =>
      rcases List.append_eq_cons_iff.mp whole with ⟨rfl, rfl⟩ | ⟨front, rfl, rfl⟩
      · exact ⟨[], _, ledger, rfl, .done, .answer step later⟩
      · obtain ⟨first, second, between, rfl, one, other⟩ := ih rfl
        exact ⟨_ :: first, second, between, rfl, .answer step one, other⟩

/-- Records split at the operation that opens some call, and at its item. -/
theorem Records.split_register {ledger next : CallLedger} {operations : List Operation}
    {items : List InputItem} (records : Records ledger operations items next)
    {before after : List (Option String)} {given : Option String}
    (split : registeredIds operations = before ++ given :: after) :
    ∃ first second front call back middle behind,
      items = front ++ .functionCall call :: back ∧
        Records ledger first front middle ∧ registeredIds first = before ∧
        Step middle (.register given) (.ok call.callId) behind ∧
        Records behind second back next ∧ registeredIds second = after := by
  induction records generalizing before with
  | done => simp [registeredIds] at split
  | message message later ih =>
      obtain ⟨first, second, front, call, back, middle, behind, rfl, records, rest⟩ := ih split
      exact ⟨first, second, _ :: front, call, back, middle, behind, rfl, .message message records,
        rest⟩
  | @call ledger between next operations items other opened step later ih =>
      have cases : other :: registeredIds operations = before ++ given :: after := split
      rcases List.append_eq_cons_iff.mp cases.symm with ⟨rfl, same⟩ | ⟨before, rfl, same⟩
      · obtain ⟨rfl, rfl⟩ := List.cons.inj same
        exact ⟨[], operations, [], opened, items, ledger, between, rfl, .done, rfl, step, later, rfl⟩
      · obtain ⟨first, second, front, call, back, middle, behind, rfl, records, rfl, rest⟩ := ih same
        exact ⟨_ :: first, second, _ :: front, call, back, middle, behind, rfl, .call step records,
          rfl, rest⟩
  | answer step later ih =>
      obtain ⟨first, second, front, call, back, middle, behind, rfl, records, same, rest⟩ := ih split
      exact ⟨_ :: first, second, _ :: front, call, back, middle, behind, rfl, .answer step records,
        same, rest⟩

/-! ## Calls that go on waiting -/

/-- A waiting call that no item answers goes on waiting. -/
theorem Records.mem_waiting {ledger next : CallLedger} {operations : List Operation}
    {items : List InputItem} {id : String} (records : Records ledger operations items next)
    (waits : id ∈ ledger.waiting) (unanswered : ∀ item ∈ items, answers id item = false) :
    id ∈ next.waiting := by
  induction records with
  | done => exact waits
  | message message later ih =>
      exact ih waits fun item member => unanswered item (List.mem_cons_of_mem _ member)
  | call step later ih =>
      exact ih (step.mem_waiting_of_register (.inr waits)) fun item member =>
        unanswered item (List.mem_cons_of_mem _ member)
  | @answer _ _ _ _ _ _ _ output step later ih =>
      have different : id ≠ output.callId := by
        have notThis := unanswered _ (List.mem_cons_self ..)
        simp only [answers, beq_eq_false_iff_ne] at notThis
        exact notThis.symm
      exact ih (step.mem_waiting_of_settle different waits) fun item member =>
        unanswered item (List.mem_cons_of_mem _ member)

/-- A call that does not wait in the end was answered behind its item. -/
theorem Records.exists_answer {ledger next : CallLedger} {operations : List Operation}
    {first second : List InputItem} {call : FunctionCall}
    (records : Records ledger operations (first ++ .functionCall call :: second) next)
    (notWaiting : call.callId ∉ next.waiting) :
    ∃ item ∈ second, answers call.callId item = true := by
  obtain ⟨_, _, between, _, _, rest⟩ := records.split_items
  cases rest with
  | call step later =>
      by_contra unanswered
      refine notWaiting (later.mem_waiting (step.mem_waiting_of_register (.inl rfl)) ?_)
      intro item member
      by_contra answered
      exact unanswered ⟨item, member, by simpa using answered⟩

/-! ## The only repetitions -/

theorem numberedId_ne_empty (number : Nat) : numberedId number ≠ "" := by
  simp [numberedId]

/-- An id that is made behind the numbers of some records, or before them, is among their calls
exactly if it was given. -/
theorem Records.mem_callIds_iff {ledger next : CallLedger} {operations : List Operation}
    {items : List InputItem} (records : Records ledger operations items next) {number : Nat}
    (outside : number ≤ ledger.lastNumber ∨ next.lastNumber < number) :
    numberedId number ∈ callIds items ↔ some (numberedId number) ∈ registeredIds operations := by
  have notMade : ¬ MadeBetween ledger.lastNumber next.lastNumber (numberedId number) := by
    rintro ⟨other, above, below, same⟩
    obtain rfl := numberedId_injective same
    omega
  rw [mem_iff_given_of_not_made records.ids.2 notMade]
  constructor
  · rintro ⟨other, member, isGiven⟩
    exact (givenId?_eq_some_iff.mp isGiven).1 ▸ member
  · intro member
    exact ⟨_, member, givenId?_eq_some_iff.mpr ⟨rfl, numberedId_ne_empty number⟩⟩

/-- **When a made id is unique.** The id under which a call without an id is sent differs from the
id of every other function call exactly if no other call of the conversation carries it as its own
id. If an earlier call has it, that call has been answered before. -/
theorem made_id_unique_iff {turns : List Turn} {items : List InputItem}
    (converted : inputItems turns = .ok items) {before after : List Call} {call : Call}
    (parts : callsOf turns = before ++ call :: after)
    (notGiven : call.id = none ∨ call.id = some "") :
    ∃ front made back, items = front ++ .functionCall made :: back ∧
      (callIds front).length = before.length ∧ (callIds back).length = after.length ∧
      (made.callId ∉ callIds (front ++ back) ↔
        ∀ other ∈ before ++ after, other.id ≠ some made.callId) ∧
      ∀ first earlier second, front = first ++ .functionCall earlier :: second →
        earlier.callId = made.callId → ∃ item ∈ second, answers made.callId item = true := by
  obtain ⟨last, records⟩ := records_of_inputItems converted
  have given : registeredIds (ledgerOperations turns) =
      before.map (fun call => call.id) ++ call.id :: after.map (fun call => call.id) := by
    rw [registeredIds_ledgerOperations, parts, List.map_append, List.map_cons]
  obtain ⟨first, second, front, made, back, middle, behind, rfl, earlier, givenBefore, step, later,
    givenAfter⟩ := records.split_register given
  rcases step.told_of_register with ⟨isGiven, -⟩ | ⟨-, isMade, absent, number⟩
  · rw [givenId?_eq_none_iff.mpr notGiven] at isGiven
    cases isGiven
  · have inFront := earlier.mem_callIds_iff (.inr (lastNumber_lt_nextNumber middle))
    have inBack := later.mem_callIds_iff (.inl number.ge)
    rw [← isMade, givenBefore] at inFront
    rw [← isMade, givenAfter] at inBack
    refine ⟨front, made, back, rfl, ?_, ?_, ?_, ?_⟩
    · rw [← earlier.ids.2.length_eq, givenBefore, List.length_map]
    · rw [← later.ids.2.length_eq, givenAfter, List.length_map]
    · rw [callIds, List.filterMap_append, List.mem_append]
      simp only [callIds] at inFront inBack
      rw [inFront, inBack, ← List.mem_append, ← List.map_append]
      simp only [List.mem_map, not_exists, not_and, ne_eq]
    · rintro first' other second' rfl same
      rw [← same] at absent ⊢
      exact earlier.exists_answer absent

/-- A call with an id that looks like a made one is answered before a call without an id. -/
def reusedTurns : List Turn :=
  [⟨"model", [.call { id := some "relay-call-1", name := "find" }]⟩,
    ⟨"user", [.answer { id := some "relay-call-1", name := "find" }]⟩,
    ⟨"model", [.call { name := "read" }]⟩]

/-- The items of the conversation: both calls have one id. -/
def reusedItems : List InputItem :=
  [.functionCall ⟨"relay-call-1", "find", objectText []⟩,
    .functionCallOutput ⟨"relay-call-1", objectText []⟩,
    .functionCall ⟨"relay-call-1", "read", objectText []⟩]

theorem made_id_unique_iff_reused :
    inputItems reusedTurns = .ok reusedItems ∧
      callsOf reusedTurns =
        [{ id := some "relay-call-1", name := "find" }] ++ { name := "read" } :: [] ∧
      ∃ front made back, reusedItems = front ++ .functionCall made :: back ∧
        (callIds front).length = 1 ∧ (callIds back).length = 0 ∧
        (made.callId ∉ callIds (front ++ back) ↔
          ∀ other ∈ [({ id := some "relay-call-1", name := "find" } : Call)] ++ [],
            other.id ≠ some made.callId) ∧
        ∀ first earlier second, front = first ++ .functionCall earlier :: second →
          earlier.callId = made.callId → ∃ item ∈ second, answers made.callId item = true := by
  have converted : inputItems reusedTurns = .ok reusedItems := rfl
  have parts : callsOf reusedTurns =
      [{ id := some "relay-call-1", name := "find" }] ++ { name := "read" } :: [] := rfl
  exact ⟨converted, parts, made_id_unique_iff converted parts (.inl rfl)⟩

/-- **A made id need not be unique**: a call may have had the same id of its own. -/
theorem made_id_not_unique :
    ¬ ∀ turns items, inputItems turns = .ok items →
      ∀ before call after, callsOf turns = before ++ call :: after →
        (call.id = none ∨ call.id = some "") →
        ∀ id, (callIds items)[before.length]? = some id →
          ∀ place, place ≠ before.length → (callIds items)[place]? ≠ some id := by
  intro unique
  have parts : callsOf reusedTurns =
      [{ id := some "relay-call-1", name := "find" }] ++ { name := "read" } :: [] := rfl
  exact unique reusedTurns reusedItems rfl _ _ _ parts (.inl rfl) "relay-call-1" rfl 0
    (by decide) rfl

end ResponsesBridge.Outbound
