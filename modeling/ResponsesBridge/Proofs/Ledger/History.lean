import ResponsesBridge.Proofs.Ledger.Numbering
import Mathlib.Data.List.Induction

/-!
# The waiting calls and the history of a ledger

What a ledger holds can be read off the history of its operations and of the ids they told. An id
is open in a history when an operation told it and the last operation that did opened a call
(`OpenIn`). The waiting ids of a ledger are exactly the open ones, each of them once, in the order
of the operations that opened them (`waiting_of_history`). Opening a call that is open does not
move it, so the operation that counts is the first one behind the last answer (`OpenedAt`).

`perform_step` says what one operation can do. `Reflects` is the invariant; it is kept by every
step (`Reflects.step`) and therefore by every run (`reflects_run`).
-/

set_option autoImplicit false

namespace ResponsesBridge

theorem givenId?_eq_some_iff {given : Option String} {id : String} :
    givenId? given = some id ↔ given = some id ∧ id ≠ "" := by
  simp [givenId?, Option.filter_eq_some_iff]

theorem givenId?_eq_none_iff {given : Option String} :
    givenId? given = none ↔ given = none ∨ given = some "" := by
  cases given with
  | none => simp [givenId?]
  | some id => simp [givenId?, Option.filter]

namespace CallLedger

/-! ## One operation -/

/-- What one operation can do to a ledger. -/
inductive Step (ledger : CallLedger) :
    Operation → Except Failure String → CallLedger → Prop
  /-- A call with a given id waits behind all others. -/
  | opened {given : Option String} {id : String} (isGiven : givenId? given = some id)
      (absent : id ∉ ledger.waiting) :
      Step ledger (.register given) (.ok id) { ledger with waiting := ledger.waiting ++ [id] }
  /-- A call that waits already keeps its place. -/
  | reopened {given : Option String} {id : String} (isGiven : givenId? given = some id)
      (present : id ∈ ledger.waiting) :
      Step ledger (.register given) (.ok id) ledger
  /-- A call without an id waits behind all others under the next made id. -/
  | made {given : Option String} (notGiven : givenId? given = none)
      (absent : numberedId ledger.nextNumber ∉ ledger.waiting) :
      Step ledger (.register given) (.ok (numberedId ledger.nextNumber))
        ⟨ledger.waiting ++ [numberedId ledger.nextNumber], ledger.nextNumber⟩
  /-- An answer settles the call that it names, or the first one. -/
  | settled {given : Option String} {name id : String} (present : id ∈ ledger.waiting)
      (which : givenId? given = some id ∨
        givenId? given = none ∧ ledger.waiting.head? = some id) :
      Step ledger (.settle given name) (.ok id)
        { ledger with waiting := ledger.waiting.erase id }
  /-- An answer to no open call is refused. -/
  | refused {given : Option String} {name : String} {failure : Failure}
      (why : (∃ id, givenId? given = some id ∧ id ∉ ledger.waiting ∧ failure = .unknownCall id) ∨
        givenId? given = none ∧ ledger.waiting = [] ∧ failure = .answerWithoutCall name) :
      Step ledger (.settle given name) (.error failure) ledger

theorem opened_of_not_mem {ledger : CallLedger} {id : String} (absent : id ∉ ledger.waiting) :
    ledger.opened id = { ledger with waiting := ledger.waiting ++ [id] } := by
  simp [opened, absent]

theorem opened_of_mem {ledger : CallLedger} {id : String} (present : id ∈ ledger.waiting) :
    ledger.opened id = ledger := by
  simp [opened, present]

/-- Every operation takes one of the steps. -/
theorem perform_step (ledger : CallLedger) (operation : Operation) :
    Step ledger operation (ledger.perform operation).1 (ledger.perform operation).2 := by
  cases operation with
  | register given =>
      cases isGiven : givenId? given with
      | some id =>
          simp only [perform, register, isGiven]
          by_cases present : id ∈ ledger.waiting
          · rw [opened_of_mem present]
            exact .reopened isGiven present
          · rw [opened_of_not_mem present]
            exact .opened isGiven present
      | none =>
          have absent : numberedId ledger.nextNumber ∉
              (⟨ledger.waiting, ledger.nextNumber⟩ : CallLedger).waiting :=
            numberedId_nextNumber_not_mem ledger
          simp only [perform, register, isGiven]
          rw [opened_of_not_mem absent]
          exact .made isGiven absent
  | settle given name =>
      cases isGiven : givenId? given with
      | some id =>
          by_cases present : id ∈ ledger.waiting
          · simp only [perform, settle, isGiven, List.contains_iff_mem, present, if_true]
            exact .settled present (.inl isGiven)
          · simp only [perform, settle, isGiven, List.contains_iff_mem, present, if_false]
            exact .refused (.inl ⟨id, isGiven, present, rfl⟩)
      | none =>
          cases first : ledger.waiting with
          | nil =>
              simp only [perform, settle, isGiven, first]
              exact .refused (.inr ⟨isGiven, first, rfl⟩)
          | cons id rest =>
              have step : Step ledger (.settle given name) (.ok id)
                  { ledger with waiting := ledger.waiting.erase id } :=
                .settled (by simp [first]) (.inr ⟨isGiven, by simp [first]⟩)
              simpa [perform, settle, isGiven, first] using step

section Step

variable {ledger next : CallLedger} {given : Option String} {name told : String}

/-- Opening a call adds at most one waiting call. -/
theorem Step.count_waiting_le (step : Step ledger (.register given) (.ok told) next)
    (id : String) : next.waiting.count id ≤ ledger.waiting.count id + [told].count id := by
  cases step with
  | opened isGiven absent => rw [List.count_append]
  | reopened isGiven present => exact Nat.le_add_right _ _
  | made notGiven absent => rw [List.count_append]

/-- Settling a call takes one waiting call away. -/
theorem Step.count_waiting_eq (step : Step ledger (.settle given name) (.ok told) next)
    (id : String) : next.waiting.count id + [told].count id = ledger.waiting.count id := by
  cases step with
  | settled present which =>
      have whole := (List.perm_cons_erase present).count_eq id
      rw [← List.singleton_append, List.count_append] at whole
      exact (Nat.add_comm _ _).trans whole.symm

/-- Opening a call tells the given id, or the next made one, which is not waiting. -/
theorem Step.told_of_register (step : Step ledger (.register given) (.ok told) next) :
    (givenId? given = some told ∧ next.lastNumber = ledger.lastNumber) ∨
      givenId? given = none ∧ told = numberedId ledger.nextNumber ∧ told ∉ ledger.waiting ∧
        next.lastNumber = ledger.nextNumber := by
  cases step with
  | opened isGiven absent => exact .inl ⟨isGiven, rfl⟩
  | reopened isGiven present => exact .inl ⟨isGiven, rfl⟩
  | made notGiven absent => exact .inr ⟨notGiven, rfl, absent, rfl⟩

/-- An opened call waits, and so do all that waited before. -/
theorem Step.mem_waiting_of_register (step : Step ledger (.register given) (.ok told) next)
    {id : String} (waits : id = told ∨ id ∈ ledger.waiting) : id ∈ next.waiting := by
  cases step with
  | opened isGiven absent => simpa [or_comm] using waits
  | reopened isGiven present =>
      rcases waits with rfl | waits
      · exact present
      · exact waits
  | made notGiven absent => simpa [or_comm] using waits

/-- A call that is not the settled one goes on waiting. -/
theorem Step.mem_waiting_of_settle (step : Step ledger (.settle given name) (.ok told) next)
    {id : String} (different : id ≠ told) (waits : id ∈ ledger.waiting) : id ∈ next.waiting := by
  cases step with
  | settled present which => exact (List.mem_erase_of_ne different).mpr waits

/-- Settling makes no id. -/
theorem Step.lastNumber_of_settle (step : Step ledger (.settle given name) (.ok told) next) :
    next.lastNumber = ledger.lastNumber := by
  cases step with
  | settled present which => rfl

end Step

/-! ## Histories -/

/-- An operation with what it told. -/
structure Entry where
  operation : Operation
  told : Except Failure String

/-- Whether an operation opens a call. -/
def Operation.opensCall : Operation → Bool
  | .register _ => true
  | .settle _ _ => false

namespace Entry

/-- The operation told an id. -/
def Tells (entry : Entry) (id : String) : Prop :=
  entry.told = .ok id

/-- The operation opened the call of an id. -/
def Opens (entry : Entry) (id : String) : Prop :=
  entry.operation.opensCall = true ∧ entry.Tells id

/-- The operation settled the call of an id. -/
def Settles (entry : Entry) (id : String) : Prop :=
  entry.operation.opensCall = false ∧ entry.Tells id

theorem tells_ok (operation : Operation) (id : String) : Tells ⟨operation, .ok id⟩ id := rfl

theorem not_tells_error (operation : Operation) (failure : Failure) (id : String) :
    ¬ Tells ⟨operation, .error failure⟩ id := by
  simp [Tells]

theorem Tells.unique {entry : Entry} {first second : String} (one : entry.Tells first)
    (other : entry.Tells second) : first = second :=
  Except.ok.inj (one.symm.trans other)

theorem Settles.not_opens {entry : Entry} {first second : String} (settles : entry.Settles first) :
    ¬ entry.Opens second := by
  intro opens
  have same := settles.1.symm.trans opens.1
  cases same

end Entry

/-- The entries of operations that are carried out one after the other, and the ledger behind
them. -/
def run (ledger : CallLedger) : List Operation → List Entry × CallLedger
  | [] => ([], ledger)
  | operation :: operations =>
    let (told, next) := ledger.perform operation
    let (entries, last) := next.run operations
    (⟨operation, told⟩ :: entries, last)

theorem run_append (ledger : CallLedger) (first second : List Operation) :
    ledger.run (first ++ second) =
      ((ledger.run first).1 ++ ((ledger.run first).2.run second).1,
        ((ledger.run first).2.run second).2) := by
  induction first generalizing ledger with
  | nil => rfl
  | cons operation first ih => simp only [List.cons_append, run, ih]

theorem run_concat (ledger : CallLedger) (operations : List Operation) (operation : Operation) :
    ledger.run (operations ++ [operation]) =
      ((ledger.run operations).1 ++ [⟨operation, ((ledger.run operations).2.perform operation).1⟩],
        ((ledger.run operations).2.perform operation).2) :=
  run_append ledger operations [operation]

/-- By a history an id is open: an operation told it, and the last one that did opened a call. -/
def OpenIn (history : List Entry) (id : String) : Prop :=
  ∃ earlier entry later, history = earlier ++ entry :: later ∧ entry.Opens id ∧
    ∀ other ∈ later, ¬ other.Tells id

/-- The place in a history of the operation from which on an id is open: it opened the call of the
id, which was not open before, and no later operation settled it. -/
def OpenedAt (history : List Entry) (id : String) (place : Nat) : Prop :=
  ∃ earlier entry later, history = earlier ++ entry :: later ∧ earlier.length = place ∧
    entry.Opens id ∧ ¬ OpenIn earlier id ∧ ∀ other ∈ later, ¬ other.Settles id

/-- One id has been open longer than another one. -/
def OpenedBefore (history : List Entry) (first second : String) : Prop :=
  ∀ one other, OpenedAt history first one → OpenedAt history second other → one < other

section Histories

variable {history : List Entry} {entry : Entry} {id : String}

theorem not_openIn_nil : ¬ OpenIn [] id := by
  rintro ⟨earlier, entry, later, split, -, -⟩
  simp at split

/-- An entry of a history with one more entry is that entry, or one of the history. -/
theorem concat_eq_append_cons_iff {earlier later : List Entry} {chosen : Entry} :
    history ++ [entry] = earlier ++ chosen :: later ↔
      (earlier = history ∧ chosen = entry ∧ later = []) ∨
        ∃ between, later = between ++ [entry] ∧ history = earlier ++ chosen :: between := by
  constructor
  · intro split
    cases later using List.reverseRecOn with
    | nil =>
        obtain ⟨rfl, last⟩ := List.append_inj' split rfl
        exact .inl ⟨rfl, (List.cons.inj last).1.symm, rfl⟩
    | append_singleton between last _ =>
        have regrouped : history ++ [entry] = (earlier ++ chosen :: between) ++ [last] := by
          simpa using split
        obtain ⟨same, lasts⟩ := List.append_inj' regrouped rfl
        exact .inr ⟨between, by rw [lasts], same⟩
  · rintro (⟨rfl, rfl, rfl⟩ | ⟨between, rfl, rfl⟩)
    · rfl
    · simp

/-- What one more entry does to the open ids. -/
theorem openIn_concat_iff :
    OpenIn (history ++ [entry]) id ↔
      entry.Opens id ∨ OpenIn history id ∧ ¬ entry.Tells id := by
  constructor
  · rintro ⟨earlier, opener, later, split, opens, silent⟩
    rcases concat_eq_append_cons_iff.mp split with ⟨-, rfl, -⟩ | ⟨between, rfl, old⟩
    · exact .inl opens
    · refine .inr ⟨⟨earlier, opener, between, old, opens, fun other member => ?_⟩, ?_⟩
      · exact silent other (List.mem_append_left _ member)
      · exact silent entry (by simp)
  · rintro (opens | ⟨⟨earlier, opener, later, rfl, opens, silent⟩, quiet⟩)
    · exact ⟨history, entry, [], rfl, opens, by simp⟩
    · refine ⟨earlier, opener, later ++ [entry], by simp, opens, fun other member => ?_⟩
      rcases List.mem_append.mp member with old | new
      · exact silent other old
      · exact List.mem_singleton.mp new ▸ quiet

/-- What one more entry does to the places. -/
theorem openedAt_concat_iff {place : Nat} :
    OpenedAt (history ++ [entry]) id place ↔
      OpenedAt history id place ∧ ¬ entry.Settles id ∨
        place = history.length ∧ entry.Opens id ∧ ¬ OpenIn history id := by
  constructor
  · rintro ⟨earlier, opener, later, split, rfl, opens, fresh, kept⟩
    rcases concat_eq_append_cons_iff.mp split with ⟨rfl, rfl, -⟩ | ⟨between, rfl, old⟩
    · exact .inr ⟨rfl, opens, fresh⟩
    · refine .inl ⟨⟨earlier, opener, between, old, rfl, opens, fresh, fun other member => ?_⟩, ?_⟩
      · exact kept other (List.mem_append_left _ member)
      · exact kept entry (by simp)
  · rintro (⟨⟨earlier, opener, later, rfl, rfl, opens, fresh, kept⟩, quiet⟩ | ⟨rfl, opens, fresh⟩)
    · refine ⟨earlier, opener, later ++ [entry], by simp, rfl, opens, fresh, fun other member => ?_⟩
      rcases List.mem_append.mp member with old | new
      · exact kept other old
      · exact List.mem_singleton.mp new ▸ quiet
    · exact ⟨history, entry, [], rfl, rfl, opens, fresh, by simp⟩

theorem OpenedAt.lt_length {place : Nat} (opened : OpenedAt history id place) :
    place < history.length := by
  obtain ⟨earlier, opener, later, rfl, rfl, -⟩ := opened
  simp

/-- An id is open exactly if there is a place from which on it is. -/
theorem openIn_iff_exists_openedAt :
    OpenIn history id ↔ ∃ place, OpenedAt history id place := by
  induction history using List.reverseRecOn with
  | nil =>
      refine ⟨fun isOpen => absurd isOpen not_openIn_nil, fun ⟨place, opened⟩ => ?_⟩
      exact absurd opened.lt_length (by simp)
  | append_singleton history entry ih =>
      simp only [openIn_concat_iff, openedAt_concat_iff]
      constructor
      · rintro (opens | ⟨isOpen, quiet⟩)
        · by_cases before : OpenIn history id
          · obtain ⟨place, opened⟩ := ih.mp before
            exact ⟨place, .inl ⟨opened, fun settles => settles.not_opens opens⟩⟩
          · exact ⟨history.length, .inr ⟨rfl, opens, before⟩⟩
        · obtain ⟨place, opened⟩ := ih.mp isOpen
          exact ⟨place, .inl ⟨opened, fun settles => quiet settles.2⟩⟩
      · rintro ⟨place, ⟨opened, unsettled⟩ | ⟨-, opens, -⟩⟩
        · by_cases tells : entry.Tells id
          · -- An entry that tells the id and does not settle its call opens it again.
            cases kind : entry.operation.opensCall with
            | true => exact .inl ⟨kind, tells⟩
            | false => exact absurd ⟨kind, tells⟩ unsettled
          · exact .inr ⟨ih.mpr ⟨place, opened⟩, tells⟩
        · exact .inl opens

/-- There is only one such place. -/
theorem OpenedAt.unique {one other : Nat} (first : OpenedAt history id one)
    (second : OpenedAt history id other) : one = other := by
  induction history using List.reverseRecOn with
  | nil => exact absurd first.lt_length (by simp)
  | append_singleton history entry ih =>
      rcases openedAt_concat_iff.mp first with ⟨old, -⟩ | ⟨rfl, -, fresh⟩ <;>
        rcases openedAt_concat_iff.mp second with ⟨old', -⟩ | ⟨rfl, -, fresh'⟩
      · exact ih old old'
      · exact absurd (openIn_iff_exists_openedAt.mpr ⟨one, old⟩) fresh'
      · exact absurd (openIn_iff_exists_openedAt.mpr ⟨other, old'⟩) fresh
      · rfl

/-- The place of an id that was open before does not change. -/
theorem OpenedAt.of_concat {place : Nat} (opened : OpenedAt (history ++ [entry]) id place)
    (isOpen : OpenIn history id) : OpenedAt history id place := by
  rcases openedAt_concat_iff.mp opened with ⟨old, -⟩ | ⟨-, -, fresh⟩
  · exact old
  · exact absurd isOpen fresh

end Histories

/-! ## The invariant -/

/-- A ledger agrees with a history: the waiting ids are the open ones, each of them once, the one
that has been open longest first. -/
structure Reflects (history : List Entry) (ledger : CallLedger) : Prop where
  nodup : ledger.waiting.Nodup
  mem_iff : ∀ id, id ∈ ledger.waiting ↔ OpenIn history id
  ordered : ledger.waiting.Pairwise (OpenedBefore history)

namespace Reflects

variable {history : List Entry} {ledger : CallLedger} {entry : Entry} {id : String}

theorem start : Reflects [] {} where
  nodup := List.nodup_nil
  mem_iff id := by simpa using not_openIn_nil
  ordered := List.Pairwise.nil

/-- Among the ids that are open already, one more entry does not change the order. -/
theorem ordered_concat (agrees : Reflects history ledger) (entry : Entry) :
    ledger.waiting.Pairwise (OpenedBefore (history ++ [entry])) := by
  refine agrees.ordered.imp_of_mem fun {first second} inFirst inSecond before => ?_
  intro one other openedFirst openedSecond
  have firstOpen := (agrees.mem_iff first).mp inFirst
  have secondOpen := (agrees.mem_iff second).mp inSecond
  exact before one other (openedFirst.of_concat firstOpen) (openedSecond.of_concat secondOpen)

/-- An entry that tells nothing leaves the ledger as it is. -/
theorem silent (agrees : Reflects history ledger) (quiet : ∀ id, ¬ entry.Tells id) :
    Reflects (history ++ [entry]) ledger where
  nodup := agrees.nodup
  mem_iff id := by
    rw [openIn_concat_iff, agrees.mem_iff]
    constructor
    · exact fun isOpen => .inr ⟨isOpen, quiet id⟩
    · rintro (opens | ⟨isOpen, -⟩)
      · exact absurd opens.2 (quiet id)
      · exact isOpen
  ordered := agrees.ordered_concat entry

/-- Opening a call that is open leaves the ledger as it is. -/
theorem reopened (agrees : Reflects history ledger) (opens : entry.Opens id)
    (present : id ∈ ledger.waiting) : Reflects (history ++ [entry]) ledger where
  nodup := agrees.nodup
  mem_iff other := by
    rw [openIn_concat_iff, agrees.mem_iff]
    constructor
    · intro isOpen
      by_cases tells : entry.Tells other
      · exact .inl ⟨opens.1, tells⟩
      · exact .inr ⟨isOpen, tells⟩
    · rintro (again | ⟨isOpen, -⟩)
      · exact (agrees.mem_iff other).mp (again.2.unique opens.2 ▸ present)
      · exact isOpen
  ordered := agrees.ordered_concat entry

/-- A call that is opened anew waits behind all others. -/
theorem opened (agrees : Reflects history ledger) (opens : entry.Opens id)
    (absent : id ∉ ledger.waiting) (number : Nat) :
    Reflects (history ++ [entry]) ⟨ledger.waiting ++ [id], number⟩ where
  nodup := by
    refine List.Nodup.append agrees.nodup (List.nodup_singleton id) ?_
    exact List.disjoint_singleton.mpr absent
  mem_iff other := by
    rw [openIn_concat_iff, List.mem_append, List.mem_singleton, agrees.mem_iff]
    constructor
    · rintro (isOpen | rfl)
      · by_cases tells : entry.Tells other
        · exact .inl ⟨opens.1, tells⟩
        · exact .inr ⟨isOpen, tells⟩
      · exact .inl opens
    · rintro (again | ⟨isOpen, -⟩)
      · exact .inr (again.2.unique opens.2)
      · exact .inl isOpen
  ordered := by
    refine List.pairwise_append.mpr ⟨agrees.ordered_concat entry, List.pairwise_singleton _ _, ?_⟩
    intro first inFirst last inLast one other openedFirst openedLast
    obtain rfl := List.mem_singleton.mp inLast
    have firstOpen := (agrees.mem_iff first).mp inFirst
    have early := (openedFirst.of_concat firstOpen).lt_length
    rcases openedAt_concat_iff.mp openedLast with ⟨before, -⟩ | ⟨rfl, -, -⟩
    · exact absurd ((agrees.mem_iff last).mpr (openIn_iff_exists_openedAt.mpr ⟨other, before⟩)) absent
    · exact early

/-- A settled call no longer waits; the others keep their order. -/
theorem settled (agrees : Reflects history ledger) (settles : entry.Settles id) :
    Reflects (history ++ [entry]) { ledger with waiting := ledger.waiting.erase id } where
  nodup := agrees.nodup.erase id
  mem_iff other := by
    rw [openIn_concat_iff, agrees.nodup.mem_erase_iff, agrees.mem_iff]
    constructor
    · rintro ⟨different, isOpen⟩
      exact .inr ⟨isOpen, fun tells => different (tells.unique settles.2)⟩
    · rintro (opens | ⟨isOpen, quiet⟩)
      · exact absurd opens settles.not_opens
      · exact ⟨fun same => quiet (same ▸ settles.2), isOpen⟩
  ordered := (agrees.ordered_concat entry).sublist List.erase_sublist

/-- Every step keeps the agreement. -/
theorem step (agrees : Reflects history ledger) {operation : Operation}
    {told : Except Failure String} {next : CallLedger} (step : Step ledger operation told next) :
    Reflects (history ++ [⟨operation, told⟩]) next := by
  cases step with
  | opened isGiven absent => exact agrees.opened ⟨rfl, Entry.tells_ok _ _⟩ absent _
  | reopened isGiven present => exact agrees.reopened ⟨rfl, Entry.tells_ok _ _⟩ present
  | made notGiven absent => exact agrees.opened ⟨rfl, Entry.tells_ok _ _⟩ absent _
  | settled present which => exact agrees.settled ⟨rfl, Entry.tells_ok _ _⟩
  | refused why => exact agrees.silent (Entry.not_tells_error _ _)

end Reflects

/-- **A ledger agrees with its history** after any operations. -/
theorem reflects_run (operations : List Operation) :
    Reflects (({} : CallLedger).run operations).1 (({} : CallLedger).run operations).2 := by
  induction operations using List.reverseRecOn with
  | nil => exact .start
  | append_singleton operations operation ih =>
      rw [run_concat]
      exact ih.step (perform_step _ operation)

/-! ## Answers -/

/-- An answer that names a call succeeds exactly if the call waits, and takes away that call
only. -/
def SettlesNamed (ledger : CallLedger) (id : String)
    (outcome : Except Failure String × CallLedger) : Prop :=
  ((∃ told, outcome.1 = .ok told) ↔ id ∈ ledger.waiting) ∧
    ∀ told, outcome.1 = .ok told → told = id ∧ ∃ front back,
      ledger.waiting = front ++ id :: back ∧ outcome.2 = { ledger with waiting := front ++ back }

/-- An answer that names no call succeeds exactly if a call waits, and takes away the one that has
been open longest. -/
def SettlesLongest (history : List Entry) (ledger : CallLedger)
    (outcome : Except Failure String × CallLedger) : Prop :=
  ((∃ told, outcome.1 = .ok told) ↔ ledger.waiting ≠ []) ∧
    ∀ told, outcome.1 = .ok told → ∃ rest, ledger.waiting = told :: rest ∧
      (∀ other ∈ rest, OpenedBefore history told other) ∧
      outcome.2 = { ledger with waiting := rest }

theorem settlesNamed_settle (ledger : CallLedger) {id : String} (notEmpty : id ≠ "")
    (name : String) : SettlesNamed ledger id (ledger.settle (some id) name) := by
  have isGiven : givenId? (some id) = some id := givenId?_eq_some_iff.mpr ⟨rfl, notEmpty⟩
  by_cases present : id ∈ ledger.waiting
  · have outcome : ledger.settle (some id) name =
        (.ok id, { ledger with waiting := ledger.waiting.erase id }) := by
      simp [settle, isGiven, present]
    obtain ⟨front, back, -, split, erased⟩ := List.exists_erase_eq present
    rw [outcome]
    refine ⟨⟨fun _ => present, fun _ => ⟨id, rfl⟩⟩, fun told same => ?_⟩
    exact ⟨(Except.ok.inj same).symm, front, back, split, by rw [erased]⟩
  · have outcome : ledger.settle (some id) name = (.error (.unknownCall id), ledger) := by
      simp [settle, isGiven, present]
    rw [outcome]
    refine ⟨⟨?_, fun waits => absurd waits present⟩, ?_⟩
    · rintro ⟨told, same⟩
      cases same
    · intro told same
      cases same

theorem settlesLongest_settle {history : List Entry} {ledger : CallLedger}
    (agrees : Reflects history ledger) {given : Option String}
    (notGiven : given = none ∨ given = some "") (name : String) :
    SettlesLongest history ledger (ledger.settle given name) := by
  have unnamed : givenId? given = none := givenId?_eq_none_iff.mpr notGiven
  have ordered := agrees.ordered
  cases waiting : ledger.waiting with
  | nil =>
      have outcome : ledger.settle given name = (.error (.answerWithoutCall name), ledger) := by
        simp [settle, unnamed, waiting]
      rw [outcome, SettlesLongest, waiting]
      refine ⟨⟨?_, fun some => absurd rfl some⟩, ?_⟩
      · rintro ⟨told, same⟩
        cases same
      · intro told same
        cases same
  | cons id rest =>
      have outcome : ledger.settle given name = (.ok id, { ledger with waiting := rest }) := by
        simp [settle, unnamed, waiting]
      rw [waiting] at ordered
      rw [outcome, SettlesLongest, waiting]
      refine ⟨⟨fun _ => List.cons_ne_nil _ _, fun _ => ⟨id, rfl⟩⟩, fun told same => ?_⟩
      obtain rfl := Except.ok.inj same
      exact ⟨rest, rfl, (List.pairwise_cons.mp ordered).1, rfl⟩

/-- An answer that is refused leaves the whole ledger as it is. -/
theorem settle_eq_self_of_error {ledger : CallLedger} {given : Option String} {name : String}
    {failure : Failure} (refused : (ledger.settle given name).1 = .error failure) :
    (ledger.settle given name).2 = ledger := by
  have step := perform_step ledger (.settle given name)
  simp only [perform, refused] at step
  generalize (ledger.settle given name).2 = next at step ⊢
  cases step with
  | refused why => rfl

/-- **The waiting calls are what the history says.** After any operations the waiting ids are
distinct, they are the ids that were told last by the opening of a call, and they stand in the
order of the operations that opened them, of which each has one. An answer with an id succeeds
exactly if that id waits, an answer without one exactly if any id waits, and a refused answer
changes nothing. -/
theorem waiting_of_history (operations : List Operation) :
    let history := (({} : CallLedger).run operations).1
    let ledger := (({} : CallLedger).run operations).2
    ledger.waiting.Nodup ∧
      (∀ id, id ∈ ledger.waiting ↔ OpenIn history id) ∧
      (∀ id ∈ ledger.waiting, ∃! place, OpenedAt history id place) ∧
      ledger.waiting.Pairwise (OpenedBefore history) ∧
      (∀ id name, id ≠ "" → SettlesNamed ledger id (ledger.settle (some id) name)) ∧
      (∀ given name, given = none ∨ given = some "" →
        SettlesLongest history ledger (ledger.settle given name)) ∧
      ∀ given name failure, (ledger.settle given name).1 = .error failure →
        (ledger.settle given name).2 = ledger := by
  intro history ledger
  have agrees : Reflects history ledger := reflects_run operations
  refine ⟨agrees.nodup, agrees.mem_iff, fun id waits => ?_, agrees.ordered, ?_, ?_, ?_⟩
  · obtain ⟨place, opened⟩ := openIn_iff_exists_openedAt.mp ((agrees.mem_iff id).mp waits)
    exact ⟨place, opened, fun other openedToo => openedToo.unique opened⟩
  · intro id name notEmpty
    exact settlesNamed_settle ledger notEmpty name
  · intro given name notGiven
    exact settlesLongest_settle agrees notGiven name
  · intro given name failure refused
    exact settle_eq_self_of_error refused

end CallLedger

end ResponsesBridge
