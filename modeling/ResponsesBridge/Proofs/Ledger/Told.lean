import ResponsesBridge.Proofs.Ledger.History

/-!
# What operations tell

What an operation tells is a matter of the history before it, and no ledger is needed to say it
(`Responds`). A call is opened under its own id, or under the least number that is above all numbers
made before and whose id is not open. An answer settles the call that it names if that call is open,
or else the one that has been open longest.

So operations have exactly one history (`Traced`), and it is that of the ledger (`traced_iff`). What
is kept by every step is that the ledger agrees with its history (`Agrees`), the waiting calls as
before and the last number as well.
-/

set_option autoImplicit false

namespace ResponsesBridge.CallLedger

/-! ## Rules -/

/-- An id with a number was made in a history. -/
def MadeIn (history : List Entry) (number : Nat) : Prop :=
  ∃ entry ∈ history, ∃ given, entry.operation = .register given ∧ givenId? given = none ∧
    entry.Tells (numberedId number)

/-- A number is above all that were made in a history. -/
def Unmade (history : List Entry) (number : Nat) : Prop :=
  0 < number ∧ ∀ earlier, MadeIn history earlier → earlier < number

/-- The number of the next made id: the least one above all that were made before whose id is not
open. -/
structure NextIn (history : List Entry) (number : Nat) : Prop where
  unmade : Unmade history number
  free : ¬ OpenIn history (numberedId number)
  least : ∀ passed, Unmade history passed → passed < number → OpenIn history (numberedId passed)

/-- Of all the ids that are open, one has been open longest. -/
def OpenLongest (history : List Entry) (id : String) : Prop :=
  OpenIn history id ∧ ∀ other, OpenIn history other → other ≠ id → OpenedBefore history id other

/-- What an operation tells behind a history. -/
inductive Responds (history : List Entry) : Operation → Except Failure String → Prop
  | called {given : Option String} {id : String} (isGiven : givenId? given = some id) :
      Responds history (.register given) (.ok id)
  | made {given : Option String} {number : Nat} (notGiven : givenId? given = none)
      (next : NextIn history number) : Responds history (.register given) (.ok (numberedId number))
  | named {given : Option String} {id name : String} (isGiven : givenId? given = some id)
      (isOpen : OpenIn history id) : Responds history (.settle given name) (.ok id)
  | unknown {given : Option String} {id name : String} (isGiven : givenId? given = some id)
      (notOpen : ¬ OpenIn history id) :
      Responds history (.settle given name) (.error (.unknownCall id))
  | unnamed {given : Option String} {id name : String} (notGiven : givenId? given = none)
      (longest : OpenLongest history id) : Responds history (.settle given name) (.ok id)
  | vacant {given : Option String} {name : String} (notGiven : givenId? given = none)
      (noneOpen : ∀ id, ¬ OpenIn history id) :
      Responds history (.settle given name) (.error (.answerWithoutCall name))

/-- Operations have a history: each of them tells what the history before it says. -/
inductive Traced : List Operation → List Entry → Prop
  | start : Traced [] []
  | step {operations : List Operation} {history : List Entry} {operation : Operation}
      {told : Except Failure String} (traced : Traced operations history)
      (responds : Responds history operation told) :
      Traced (operations ++ [operation]) (history ++ [⟨operation, told⟩])

/-! ## The rules leave no choice -/

section Choice

variable {history : List Entry}

theorem NextIn.unique {one other : Nat} (first : NextIn history one)
    (second : NextIn history other) : one = other := by
  rcases Nat.lt_trichotomy one other with less | same | more
  · exact absurd (second.least one first.unmade less) first.free
  · exact same
  · exact absurd (first.least other second.unmade more) second.free

theorem OpenLongest.unique {one other : String} (first : OpenLongest history one)
    (second : OpenLongest history other) : one = other := by
  by_contra different
  obtain ⟨place, opened⟩ := openIn_iff_exists_openedAt.mp first.1
  obtain ⟨place', opened'⟩ := openIn_iff_exists_openedAt.mp second.1
  have before := first.2 other second.1 (Ne.symm different) place place' opened opened'
  have behind := second.2 one first.1 different place' place opened' opened
  omega

theorem Responds.unique {operation : Operation} {one other : Except Failure String}
    (first : Responds history operation one) (second : Responds history operation other) :
    one = other := by
  cases first with
  | called isGiven =>
      cases second with
      | called isGiven' => rw [Option.some.inj (isGiven.symm.trans isGiven')]
      | made notGiven => simp [isGiven] at notGiven
  | made notGiven next =>
      cases second with
      | called isGiven => simp [notGiven] at isGiven
      | made _ next' => rw [next.unique next']
  | named isGiven isOpen =>
      cases second with
      | named isGiven' => rw [Option.some.inj (isGiven.symm.trans isGiven')]
      | unknown isGiven' notOpen =>
          exact absurd (Option.some.inj (isGiven.symm.trans isGiven') ▸ isOpen) notOpen
      | unnamed notGiven => simp [isGiven] at notGiven
      | vacant notGiven => simp [isGiven] at notGiven
  | unknown isGiven notOpen =>
      cases second with
      | named isGiven' isOpen =>
          exact absurd isOpen (Option.some.inj (isGiven.symm.trans isGiven') ▸ notOpen)
      | unknown isGiven' => rw [Option.some.inj (isGiven.symm.trans isGiven')]
      | unnamed notGiven => simp [isGiven] at notGiven
      | vacant notGiven => simp [isGiven] at notGiven
  | unnamed notGiven longest =>
      cases second with
      | named isGiven => simp [notGiven] at isGiven
      | unknown isGiven => simp [notGiven] at isGiven
      | unnamed _ longest' => rw [longest.unique longest']
      | vacant _ noneOpen => exact absurd longest.1 (noneOpen _)
  | vacant notGiven noneOpen =>
      cases second with
      | named isGiven => simp [notGiven] at isGiven
      | unknown isGiven => simp [notGiven] at isGiven
      | unnamed _ longest => exact absurd longest.1 (noneOpen _)
      | vacant _ _ => rfl

end Choice

/-! ## The ledger follows the rules -/

/-- A ledger agrees with a history: the waiting calls are the open ones, and the last number is the
last one that was made. -/
structure Agrees (history : List Entry) (ledger : CallLedger) : Prop extends
    Reflects history ledger where
  unmade_iff : ∀ number, Unmade history number ↔ ledger.lastNumber < number

namespace Agrees

variable {history : List Entry} {ledger : CallLedger}

theorem start : Agrees [] {} where
  toReflects := .start
  unmade_iff number := by simp [Unmade, MadeIn]

/-- The number that the ledger makes next is the next one by the history. -/
theorem nextIn (agrees : Agrees history ledger) : NextIn history ledger.nextNumber where
  unmade := (agrees.unmade_iff _).mpr (lastNumber_lt_nextNumber ledger)
  free := by
    rw [← agrees.mem_iff]
    exact numberedId_nextNumber_not_mem ledger
  least passed unmade before := by
    rw [← agrees.mem_iff]
    exact mem_of_lt_firstFree ((agrees.unmade_iff passed).mp unmade) before

/-- The first waiting call is the one that has been open longest. -/
theorem openLongest (agrees : Agrees history ledger) {id : String}
    (first : ledger.waiting.head? = some id) : OpenLongest history id := by
  obtain ⟨rest, waiting⟩ := List.head?_eq_some_iff.mp first
  refine ⟨(agrees.mem_iff id).mp (waiting ▸ List.mem_cons_self ..), fun other isOpen different => ?_⟩
  have waits := (agrees.mem_iff other).mpr isOpen
  rw [waiting] at waits
  have ordered := agrees.ordered
  rw [waiting] at ordered
  exact (List.pairwise_cons.mp ordered).1 other ((List.mem_cons.mp waits).resolve_left different)

/-- An operation of the ledger tells what the history says. -/
theorem responds (agrees : Agrees history ledger) {operation : Operation}
    {told : Except Failure String} {next : CallLedger} (step : Step ledger operation told next) :
    Responds history operation told := by
  cases step with
  | opened isGiven absent => exact .called isGiven
  | reopened isGiven present => exact .called isGiven
  | made notGiven absent => exact .made notGiven agrees.nextIn
  | settled present which =>
      rcases which with isGiven | ⟨notGiven, first⟩
      · exact .named isGiven ((agrees.mem_iff _).mp present)
      · exact .unnamed notGiven (agrees.openLongest first)
  | refused why =>
      rcases why with ⟨id, isGiven, absent, rfl⟩ | ⟨notGiven, vacant, rfl⟩
      · exact .unknown isGiven fun isOpen => absent ((agrees.mem_iff id).mpr isOpen)
      · refine .vacant notGiven fun id isOpen => ?_
        have waits := (agrees.mem_iff id).mpr isOpen
        rw [vacant] at waits
        exact List.not_mem_nil waits

/-- What one more entry does to the numbers. -/
theorem unmade_concat_iff {entry : Entry} {number : Nat} :
    Unmade (history ++ [entry]) number ↔
      Unmade history number ∧ ∀ earlier given, entry.operation = .register given →
        givenId? given = none → entry.Tells (numberedId earlier) → earlier < number := by
  simp only [Unmade, MadeIn, List.mem_append, List.mem_singleton]
  grind

/-- An operation that makes no id leaves the numbers as they are. -/
theorem unmade_concat_of_not_made {operation : Operation} {told : Except Failure String}
    (notMade : ∀ given, operation = .register given → givenId? given ≠ none) {number : Nat} :
    Unmade (history ++ [⟨operation, told⟩]) number ↔ Unmade history number := by
  rw [unmade_concat_iff]
  exact and_iff_left fun _ given isRegister notGiven => absurd notGiven (notMade given isRegister)

/-- Every step keeps the agreement. -/
theorem step (agrees : Agrees history ledger) {operation : Operation}
    {told : Except Failure String} {next : CallLedger} (step : Step ledger operation told next) :
    Agrees (history ++ [⟨operation, told⟩]) next where
  toReflects := agrees.toReflects.step step
  unmade_iff number := by
    have kept := agrees.unmade_iff number
    cases step with
    | opened isGiven absent =>
        refine (unmade_concat_of_not_made ?_).trans kept
        rintro _ ⟨rfl⟩
        simp [isGiven]
    | reopened isGiven present =>
        refine (unmade_concat_of_not_made ?_).trans kept
        rintro _ ⟨rfl⟩
        simp [isGiven]
    | @made given notGiven absent =>
        rw [unmade_concat_iff, kept]
        constructor
        · rintro ⟨-, behind⟩
          exact behind ledger.nextNumber given rfl notGiven rfl
        · intro behind
          refine ⟨(lastNumber_lt_nextNumber ledger).trans behind, fun earlier _ _ _ tells => ?_⟩
          rw [← numberedId_injective (Except.ok.inj tells)]
          exact behind
    | settled present which =>
        refine (unmade_concat_of_not_made ?_).trans kept
        rintro _ ⟨⟩
    | refused why =>
        refine (unmade_concat_of_not_made ?_).trans kept
        rintro _ ⟨⟩

end Agrees

/-- **A ledger agrees with its history** after any operations, the last number included. -/
theorem agrees_run (operations : List Operation) :
    Agrees (({} : CallLedger).run operations).1 (({} : CallLedger).run operations).2 := by
  induction operations using List.reverseRecOn with
  | nil => exact .start
  | append_singleton operations operation ih =>
      rw [run_concat]
      exact ih.step (perform_step _ operation)

/-- **Operations have exactly one history**, which is that of the ledger. -/
theorem traced_iff {operations : List Operation} {history : List Entry} :
    Traced operations history ↔ history = (({} : CallLedger).run operations).1 := by
  constructor
  · intro traced
    induction traced with
    | start => rfl
    | @step operations _ operation _ _ responds ih =>
        subst ih
        have told := responds.unique ((agrees_run operations).responds (perform_step _ operation))
        rw [run_concat, told]
  · rintro rfl
    induction operations using List.reverseRecOn with
    | nil => exact .start
    | append_singleton operations operation ih =>
        rw [run_concat]
        exact .step ih ((agrees_run operations).responds (perform_step _ operation))

end ResponsesBridge.CallLedger
