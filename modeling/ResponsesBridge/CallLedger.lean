import ResponsesBridge.Failure

/-!
# The ledger of open calls

Answers refer to calls by id. The ledger keeps the ids of the calls that still wait for their
answer, the call that has waited longest first, and makes ids for calls that come without one. An
answer without an id settles the call that has waited longest.

Made ids are numbered, and a number is never used twice. Numbers whose id is in use by a waiting
call are passed over (`CallLedger.nextNumber`).
-/

set_option autoImplicit false

namespace ResponsesBridge

/-- The open calls, and the number of the last id that was made. -/
structure CallLedger where
  waiting : List String := []
  lastNumber : Nat := 0
deriving DecidableEq, Repr

/-- An id that is given and not empty. -/
def givenId? (id : Option String) : Option String :=
  id.filter fun text => !text.isEmpty

namespace CallLedger

/-- The made id of a number. -/
def numberedId (number : Nat) : String :=
  "relay-call-" ++ toString number

/-- The least number from `number` on whose id is not taken, among the first so many numbers; the
one after them if all are taken. -/
def firstFree (taken : List String) : (attempts number : Nat) → Nat
  | 0, number => number
  | attempts + 1, number =>
    if taken.contains (numberedId number) then firstFree taken attempts (number + 1) else number

/-- The number of the next made id. One waiting call takes at most one number, so no more numbers
than there are waiting calls have to be passed over. -/
def nextNumber (ledger : CallLedger) : Nat :=
  firstFree ledger.waiting ledger.waiting.length (ledger.lastNumber + 1)

/-- The ledger with a call waiting behind all others; a call that waits already keeps its place. -/
def opened (ledger : CallLedger) (id : String) : CallLedger :=
  if ledger.waiting.contains id then ledger
  else { ledger with waiting := ledger.waiting ++ [id] }

/-- Opens a call and tells its id: the given one, or a made one. -/
def register (ledger : CallLedger) (id : Option String) : String × CallLedger :=
  match givenId? id with
  | some id => (id, ledger.opened id)
  | none =>
    let number := ledger.nextNumber
    (numberedId number, { ledger with lastNumber := number }.opened (numberedId number))

/-- Settles the call that an answer belongs to and tells its id: the given one, which must be
waiting, or the one that has waited longest. -/
def settle (ledger : CallLedger) (id : Option String) (name : String) :
    Except Failure String × CallLedger :=
  match givenId? id with
  | some id =>
    if ledger.waiting.contains id then
      (.ok id, { ledger with waiting := ledger.waiting.erase id })
    else (.error (.unknownCall id), ledger)
  | none =>
    match ledger.waiting with
    | [] => (.error (.answerWithoutCall name), ledger)
    | id :: waiting => (.ok id, { ledger with waiting })

/-- What can be done to a ledger: opening a call, or settling one for an answer to a function of
some name. -/
inductive Operation
  | register (id : Option String)
  | settle (id : Option String) (name : String)

/-- The ledger after an operation, with the id that the operation tells. -/
def perform (ledger : CallLedger) : Operation → Except Failure String × CallLedger
  | .register id =>
    let (id, ledger) := ledger.register id
    (.ok id, ledger)
  | .settle id name => ledger.settle id name

/-! ## Numbers ascend -/

/-- The number that is found is not smaller than the first one tried. -/
theorem le_firstFree (taken : List String) (attempts number : Nat) :
    number ≤ firstFree taken attempts number := by
  induction attempts generalizing number with
  | zero => simp [firstFree]
  | succ attempts ih =>
      simp only [firstFree]
      split
      · exact Nat.le_of_succ_le (ih (number + 1))
      · exact Nat.le_refl _

/-- Numbers of made ids ascend. -/
theorem lastNumber_lt_nextNumber (ledger : CallLedger) :
    ledger.lastNumber < ledger.nextNumber :=
  le_firstFree _ _ _

end CallLedger

end ResponsesBridge
