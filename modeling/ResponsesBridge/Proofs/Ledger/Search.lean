import ResponsesBridge.Proofs.Ledger.Told

/-!
# The search for the next made id

The number of the last made id is kept in a machine word, and the next id is searched for: the word
goes up by one until its id is not waiting (`Search.turn`). Nothing in the search says when to stop.
This module follows it turn by turn.

`Search.standing` says without a search how it stands after so many turns. Every turn keeps to it
(`Search.turn_standing`), so every search does (`Search.after_eq`). It ends at the number that
`CallLedger.nextNumber` names, unless no word holds that number. Operations that search are
therefore the operations of the ledger, as long as its numbers fit in words (`searchingRun_iff`).
Waiting calls take one number each, so a search has at most one turn more than there are waiting
calls (`search_ends`).
-/

set_option autoImplicit false

namespace ResponsesBridge.CallLedger

/-! ## The search -/

/-- How far the search for the next made id has come. -/
inductive Search
  | searching (counter : UInt64)
  | found (id : String) (counter : UInt64)
  /-- No word is greater than the counter, so it cannot go up. -/
  | exhausted
deriving DecidableEq, Repr

namespace Search

/-- One turn: the counter goes up by one, and the id of its number is found unless it is waiting. A
search that has ended stays as it is. -/
def turn (waiting : List String) : Search → Search
  | .searching counter =>
    if counter.toNat + 1 < UInt64.size then
      let next := counter + 1
      let id := numberedId next.toNat
      if waiting.contains id then .searching next else .found id next
    else .exhausted
  | .found id counter => .found id counter
  | .exhausted => .exhausted

/-- The search after some turns. -/
def after (waiting : List String) (counter : UInt64) (turns : Nat) : Search :=
  (turn waiting)^[turns] (.searching counter)

theorem after_succ (waiting : List String) (counter : UInt64) (turns : Nat) :
    after waiting counter (turns + 1) = turn waiting (after waiting counter turns) :=
  Function.iterate_succ_apply' _ _ _

section Turn

variable {waiting : List String} {number : Nat}

/-- A turn that is not the last one, and the one that finds an id. -/
theorem turn_searching (fits : number + 1 < UInt64.size) :
    turn waiting (.searching (.ofNat number)) =
      if numberedId (number + 1) ∈ waiting then .searching (.ofNat (number + 1))
      else .found (numberedId (number + 1)) (.ofNat (number + 1)) := by
  have fitsNow : (UInt64.ofNat number).toNat = number :=
    UInt64.toNat_ofNat_of_lt' (Nat.lt_of_succ_lt fits)
  have next : UInt64.ofNat number + 1 = UInt64.ofNat (number + 1) := (UInt64.ofNat_add _ _).symm
  have fitsNext : (UInt64.ofNat (number + 1)).toNat = number + 1 := UInt64.toNat_ofNat_of_lt' fits
  simp only [turn, fitsNow, fits, next, fitsNext, if_true, List.contains_iff_mem]

/-- A turn from the last word. -/
theorem turn_searching_last (fits : number < UInt64.size) (last : UInt64.size ≤ number + 1) :
    turn waiting (.searching (.ofNat number)) = .exhausted := by
  simp only [turn, UInt64.toNat_ofNat_of_lt' fits, Nat.not_lt.mpr last, if_false]

end Turn

/-! ## Where the search stands -/

/-- How the search for the next id of a ledger stands after some turns: it has passed as many
numbers, or has come to the next number, or to the end of the words if that is before. -/
def standing (ledger : CallLedger) (turns : Nat) : Search :=
  let reached := ledger.lastNumber + turns
  if reached < ledger.nextNumber ∧ reached < UInt64.size then .searching (.ofNat reached)
  else if ledger.nextNumber < UInt64.size then
    .found (numberedId ledger.nextNumber) (.ofNat ledger.nextNumber)
  else .exhausted

section Standing

variable {ledger : CallLedger} {turns : Nat}

theorem standing_of_lt (before : ledger.lastNumber + turns < ledger.nextNumber)
    (fits : ledger.lastNumber + turns < UInt64.size) :
    standing ledger turns = .searching (.ofNat (ledger.lastNumber + turns)) := by
  simp [standing, before, fits]

theorem standing_of_le (behind : ledger.nextNumber ≤ ledger.lastNumber + turns)
    (fits : ledger.nextNumber < UInt64.size) :
    standing ledger turns =
      .found (numberedId ledger.nextNumber) (.ofNat ledger.nextNumber) := by
  simp [standing, Nat.not_lt.mpr behind, fits]

theorem standing_of_size_le (last : UInt64.size ≤ ledger.lastNumber + turns)
    (full : UInt64.size ≤ ledger.nextNumber) : standing ledger turns = .exhausted := by
  simp [standing, Nat.not_lt.mpr last, Nat.not_lt.mpr full]

/-- A turn of a search that goes on passes a number, finds one or comes to the end of the words. -/
theorem turn_standing_of_lt (before : ledger.lastNumber + turns < ledger.nextNumber)
    (fits : ledger.lastNumber + turns < UInt64.size) :
    turn ledger.waiting (standing ledger turns) = standing ledger (turns + 1) := by
  rw [standing_of_lt before fits]
  rcases Nat.lt_or_ge (ledger.lastNumber + turns + 1) UInt64.size with fitsNext | last
  · rw [turn_searching fitsNext]
    rcases Nat.lt_or_ge (ledger.lastNumber + turns + 1) ledger.nextNumber with passed | reached
    · have taken : numberedId (ledger.lastNumber + turns + 1) ∈ ledger.waiting :=
        mem_of_lt_firstFree (by omega) passed
      have stands : standing ledger (turns + 1) =
          .searching (.ofNat (ledger.lastNumber + turns + 1)) := standing_of_lt passed fitsNext
      rw [if_pos taken, stands]
    · have next : ledger.lastNumber + turns + 1 = ledger.nextNumber := by omega
      rw [next, if_neg (numberedId_nextNumber_not_mem ledger)]
      exact (standing_of_le next.ge (next ▸ fitsNext)).symm
  · have full : UInt64.size ≤ ledger.nextNumber := by omega
    rw [turn_searching_last fits last]
    exact (standing_of_size_le last full).symm

/-- A search that has ended stays where it is. -/
theorem turn_standing_of_ended
    (ended : ¬ (ledger.lastNumber + turns < ledger.nextNumber ∧
      ledger.lastNumber + turns < UInt64.size)) :
    turn ledger.waiting (standing ledger turns) = standing ledger (turns + 1) := by
  rcases Nat.lt_or_ge ledger.nextNumber UInt64.size with fits | full
  · have behind : ledger.nextNumber ≤ ledger.lastNumber + turns := by omega
    rw [standing_of_le behind fits, standing_of_le (Nat.le_succ_of_le behind) fits]
    rfl
  · have last : UInt64.size ≤ ledger.lastNumber + turns := by omega
    rw [standing_of_size_le last full, standing_of_size_le (Nat.le_succ_of_le last) full]
    rfl

/-- Every turn keeps to the standing. -/
theorem turn_standing (ledger : CallLedger) (turns : Nat) :
    turn ledger.waiting (standing ledger turns) = standing ledger (turns + 1) := by
  by_cases goesOn : ledger.lastNumber + turns < ledger.nextNumber ∧
      ledger.lastNumber + turns < UInt64.size
  · exact turn_standing_of_lt goesOn.1 goesOn.2
  · exact turn_standing_of_ended goesOn

end Standing

/-- **The search is where it should be** after any number of turns. -/
theorem after_eq {ledger : CallLedger} (fits : ledger.lastNumber < UInt64.size) (turns : Nat) :
    after ledger.waiting (.ofNat ledger.lastNumber) turns = standing ledger turns := by
  induction turns with
  | zero =>
      have start : standing ledger 0 = .searching (.ofNat (ledger.lastNumber + 0)) :=
        standing_of_lt (lastNumber_lt_nextNumber ledger) fits
      exact start.symm
  | succ turns ih => rw [after_succ, ih, turn_standing]

/-- The search for the next id of a ledger ends after some turns at a number: it passes one number
in a turn, and finds the id of the last one. -/
structure EndsAt (ledger : CallLedger) (turns number : Nat) : Prop where
  count : number = ledger.lastNumber + turns
  passes : ∀ fewer < turns, after ledger.waiting (.ofNat ledger.lastNumber) fewer =
    .searching (.ofNat (ledger.lastNumber + fewer))
  finds : after ledger.waiting (.ofNat ledger.lastNumber) turns =
    .found (numberedId number) (.ofNat number)

/-- The search ends at the next number if a word holds it. -/
theorem endsAt_nextNumber {ledger : CallLedger} (fitsNext : ledger.nextNumber < UInt64.size) :
    EndsAt ledger (ledger.nextNumber - ledger.lastNumber) ledger.nextNumber := by
  have ascends := lastNumber_lt_nextNumber ledger
  have fits : ledger.lastNumber < UInt64.size := ascends.trans fitsNext
  refine ⟨by omega, fun fewer before => ?_, ?_⟩
  · rw [after_eq fits, standing_of_lt (by omega) (by omega)]
  · rw [after_eq fits, standing_of_le (by omega) fitsNext]

/-- What a search finds is the next number, and a word holds it. -/
theorem eq_of_after_eq_found {ledger : CallLedger} (fits : ledger.lastNumber < UInt64.size)
    {turns : Nat} {id : String} {counter : UInt64}
    (ends : after ledger.waiting (.ofNat ledger.lastNumber) turns = .found id counter) :
    id = numberedId ledger.nextNumber ∧ counter.toNat = ledger.nextNumber := by
  rw [after_eq fits, standing] at ends
  split at ends
  · cases ends
  · split at ends
    · rename_i fitsNext
      cases ends
      exact ⟨rfl, UInt64.toNat_ofNat_of_lt' fitsNext⟩
    · cases ends

end Search

/-! ## Operations that search -/

/-- The operation makes an id. -/
def Operation.MakesId : Operation → Prop
  | .register given => givenId? given = none
  | .settle _ _ => False

/-- What an operation does to a ledger where ids are made by the search. -/
inductive SearchingStep (ledger : CallLedger) :
    Operation → Except Failure String → CallLedger → Prop
  | searched {given : Option String} {turns : Nat} {id : String} {counter : UInt64}
      (notGiven : givenId? given = none)
      (ends : Search.after ledger.waiting (.ofNat ledger.lastNumber) turns = .found id counter) :
      SearchingStep ledger (.register given) (.ok id)
        ({ ledger with lastNumber := counter.toNat }.opened id)
  | other {operation : Operation} (makesNone : ¬ operation.MakesId) :
      SearchingStep ledger operation (ledger.perform operation).1 (ledger.perform operation).2

/-- The histories of operations where ids are made by the search, and the ledgers that they lead
to. -/
inductive SearchingRun : List Operation → List Entry → CallLedger → Prop
  | start : SearchingRun [] [] {}
  | step {operations : List Operation} {history : List Entry} {ledger next : CallLedger}
      {operation : Operation} {told : Except Failure String}
      (run : SearchingRun operations history ledger)
      (step : SearchingStep ledger operation told next) :
      SearchingRun (operations ++ [operation]) (history ++ [⟨operation, told⟩]) next

section Operations

variable {ledger next : CallLedger} {operation : Operation} {told : Except Failure String}

/-- The last number is the next one after an operation that makes an id, and the same after any
other. -/
theorem Step.lastNumber_cases (step : Step ledger operation told next) :
    operation.MakesId ∧ next.lastNumber = ledger.nextNumber ∨
      ¬ operation.MakesId ∧ next.lastNumber = ledger.lastNumber := by
  cases step with
  | opened isGiven absent => exact .inr ⟨by simp [Operation.MakesId, isGiven], rfl⟩
  | reopened isGiven present => exact .inr ⟨by simp [Operation.MakesId, isGiven], rfl⟩
  | made notGiven absent => exact .inl ⟨notGiven, rfl⟩
  | settled present which => exact .inr ⟨id, rfl⟩
  | refused why => exact .inr ⟨id, rfl⟩

/-- Numbers do not descend. -/
theorem Step.lastNumber_le (step : Step ledger operation told next) :
    ledger.lastNumber ≤ next.lastNumber := by
  rcases step.lastNumber_cases with ⟨-, ascends⟩ | ⟨-, same⟩
  · exact ascends ▸ (lastNumber_lt_nextNumber ledger).le
  · exact same.ge

/-- A call without an id is registered under the next made one, which waits behind all others. -/
theorem register_of_notGiven (ledger : CallLedger) {given : Option String}
    (notGiven : givenId? given = none) :
    ledger.register given = (numberedId ledger.nextNumber,
      ⟨ledger.waiting ++ [numberedId ledger.nextNumber], ledger.nextNumber⟩) := by
  have absent : numberedId ledger.nextNumber ∉
      (⟨ledger.waiting, ledger.nextNumber⟩ : CallLedger).waiting :=
    numberedId_nextNumber_not_mem ledger
  simp only [register, notGiven, opened_of_not_mem absent]

/-- Opening a call makes no id. -/
theorem lastNumber_opened (ledger : CallLedger) (id : String) :
    (ledger.opened id).lastNumber = ledger.lastNumber := by
  unfold opened
  split <;> rfl

/-- Where ids are made by the search, an operation is what it is otherwise, unless no word holds
the number that it makes. -/
theorem searchingStep_iff (fits : ledger.lastNumber < UInt64.size) :
    SearchingStep ledger operation told next ↔
      ledger.perform operation = (told, next) ∧ next.lastNumber < UInt64.size := by
  constructor
  · intro step
    cases step with
    | @searched given turns id counter notGiven ends =>
        obtain ⟨rfl, number⟩ := Search.eq_of_after_eq_found fits ends
        refine ⟨?_, ?_⟩
        · simp only [perform, register, notGiven, number]
        · rw [lastNumber_opened]
          exact counter.toNat_lt_size
    | other makesNone =>
        have kept := (perform_step ledger operation).lastNumber_cases.resolve_left
          fun makes => makesNone makes.1
        exact ⟨rfl, kept.2.trans_lt fits⟩
  · rintro ⟨performed, fitsNext⟩
    by_cases makes : operation.MakesId
    · cases operation with
      | settle given name => exact makes.elim
      | register given =>
          have notGiven : givenId? given = none := makes
          simp only [perform, register, notGiven, Prod.mk.injEq] at performed
          obtain ⟨rfl, rfl⟩ := performed
          rw [lastNumber_opened] at fitsNext
          have step := SearchingStep.searched notGiven (Search.endsAt_nextNumber fitsNext).finds
          rwa [UInt64.toNat_ofNat_of_lt' fitsNext] at step
    · have step : SearchingStep ledger operation (ledger.perform operation).1
          (ledger.perform operation).2 := .other makes
      rwa [performed] at step

end Operations

/-- **Searching makes the ids of the ledger.** Operations where ids are made by the search have the
history of the ledger and lead to its state, as long as words hold its numbers. -/
theorem searchingRun_iff {operations : List Operation} {history : List Entry}
    {ledger : CallLedger} :
    SearchingRun operations history ledger ↔
      ({} : CallLedger).run operations = (history, ledger) ∧ ledger.lastNumber < UInt64.size := by
  constructor
  · intro run
    induction run with
    | start => exact ⟨rfl, by decide⟩
    | step run step ih =>
        obtain ⟨same, fits⟩ := ih
        obtain ⟨performed, fitsNext⟩ := (searchingStep_iff fits).mp step
        rw [run_concat, same, performed]
        exact ⟨rfl, fitsNext⟩
  · rintro ⟨same, fits⟩
    induction operations using List.reverseRecOn generalizing history ledger with
    | nil =>
        cases same
        exact .start
    | append_singleton operations operation ih =>
        rw [run_concat] at same
        cases same
        have step := perform_step (({} : CallLedger).run operations).2 operation
        have fitsBefore := step.lastNumber_le.trans_lt fits
        exact .step (ih rfl fitsBefore) ((searchingStep_iff fitsBefore).mpr ⟨rfl, fits⟩)

/-! ## The end of the search -/

/-- **Every search ends.** Let a ledger be reached by any operations where ids are made by the
search, and the last number, the number of waiting calls and one together fit in a word. The
search passes one number in a turn and has at most one turn more than there are waiting calls. It
finds the least number behind the last one whose id is not waiting. A call without an id is opened
under this id and no other, behind all calls that wait, and the id was not made before. -/
theorem search_ends {operations : List Operation} {history : List Entry} {ledger : CallLedger}
    (reached : SearchingRun operations history ledger)
    (fits : ledger.lastNumber + ledger.waiting.length + 1 < UInt64.size) :
    ∃ turns number, turns ≤ ledger.waiting.length + 1 ∧ Search.EndsAt ledger turns number ∧
      IsLeast {free | ledger.lastNumber < free ∧ numberedId free ∉ ledger.waiting} number ∧
      ¬ MadeIn history number ∧
      ∀ given, given = none ∨ given = some "" →
        ledger.register given =
          (numberedId number, ⟨ledger.waiting ++ [numberedId number], number⟩) ∧
        ∀ told next, SearchingStep ledger (.register given) told next ↔
          told = .ok (numberedId number) ∧
            next = ⟨ledger.waiting ++ [numberedId number], number⟩ := by
  obtain ⟨same, fitsNow⟩ := searchingRun_iff.mp reached
  have agrees : Agrees history ledger := by
    have agrees := agrees_run operations
    rwa [same] at agrees
  have near := nextNumber_le ledger
  have fitsNext : ledger.nextNumber < UInt64.size := near.trans_lt fits
  refine ⟨ledger.nextNumber - ledger.lastNumber, ledger.nextNumber, by omega,
    Search.endsAt_nextNumber fitsNext, isLeast_nextNumber ledger, ?_, ?_⟩
  · intro made
    exact Nat.lt_irrefl _ (agrees.nextIn.unmade.2 _ made)
  · intro given notGiven
    have registered := register_of_notGiven ledger (givenId?_eq_none_iff.mpr notGiven)
    refine ⟨registered, fun told next => ?_⟩
    rw [searchingStep_iff fitsNow]
    simp only [perform, registered, Prod.mk.injEq]
    constructor
    · rintro ⟨⟨rfl, rfl⟩, -⟩
      exact ⟨rfl, rfl⟩
    · rintro ⟨rfl, rfl⟩
      exact ⟨⟨rfl, rfl⟩, fitsNext⟩

/-- Calls with ids of their own that look like made ones, and one that was made and answered. -/
def crowdedOperations : List Operation :=
  [.register (some "relay-call-3"), .register none, .register (some "relay-call-2"),
    .settle (some "relay-call-1") "read"]

/-- The history of the operations. -/
def crowdedHistory : List Entry :=
  [⟨.register (some "relay-call-3"), .ok "relay-call-3"⟩, ⟨.register none, .ok "relay-call-1"⟩,
    ⟨.register (some "relay-call-2"), .ok "relay-call-2"⟩,
    ⟨.settle (some "relay-call-1") "read", .ok "relay-call-1"⟩]

/-- The ledger behind the operations: both of the next two numbers are taken. -/
def crowdedLedger : CallLedger :=
  ⟨["relay-call-3", "relay-call-2"], 1⟩

theorem search_ends_crowded :
    SearchingRun crowdedOperations crowdedHistory crowdedLedger ∧
      crowdedLedger.lastNumber + crowdedLedger.waiting.length + 1 < UInt64.size ∧
      ∃ turns number, turns ≤ crowdedLedger.waiting.length + 1 ∧
        Search.EndsAt crowdedLedger turns number ∧
        IsLeast {free | crowdedLedger.lastNumber < free ∧
          numberedId free ∉ crowdedLedger.waiting} number ∧
        ¬ MadeIn crowdedHistory number ∧
        ∀ given, given = none ∨ given = some "" →
          crowdedLedger.register given =
            (numberedId number, ⟨crowdedLedger.waiting ++ [numberedId number], number⟩) ∧
          ∀ told next, SearchingStep crowdedLedger (.register given) told next ↔
            told = .ok (numberedId number) ∧
              next = ⟨crowdedLedger.waiting ++ [numberedId number], number⟩ := by
  have reached : SearchingRun crowdedOperations crowdedHistory crowdedLedger :=
    searchingRun_iff.mpr ⟨rfl, by decide⟩
  have fits : crowdedLedger.lastNumber + crowdedLedger.waiting.length + 1 < UInt64.size := by decide
  exact ⟨reached, fits, search_ends reached fits⟩

end ResponsesBridge.CallLedger
