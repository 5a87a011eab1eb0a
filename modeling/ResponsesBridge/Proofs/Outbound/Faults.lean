import ResponsesBridge.Proofs.Ledger.Told
import ResponsesBridge.Proofs.Outbound.Correlation
import ResponsesBridge.Proofs.Rows
import Mathlib.Tactic.MkIffOfInductiveProp

/-!
# Where a conversation is at fault

A conversation is checked at each part and at the end of each turn (`stops`). What is wrong at such a
stop is told by the parts before it (`Faults`): the role of the turn, if a message is due there that
shows something; a call without a name; an answer to which the history of the calls and answers
before it has no open call; a part of a kind that cannot be sent. The history is that of the
operations alone, without a ledger (`CallLedger.Traced`).

A conversation is converted exactly if nothing is wrong at any stop, in terms of the whole
conversation `Convertible`, and fails with the fault of the first stop otherwise
(`inputItems_by_stops`). Each step of the conversion reports the stop that it passes
(`reports_partItems`).

The role is checked once for a run of passages, behind which the run is forgotten. Since it is
refused at the first stop where it matters, it makes no difference to look at all passages before the
stop (`RunOf`).
-/

set_option autoImplicit false

namespace ResponsesBridge.Outbound

open CallLedger (Agrees OpenIn Operation Responds Traced agrees_run perform_step traced_iff)
open Conversation (Turn Part Passage Call Answer)
open Wire (InputItem)

/-! ## Stops and faults -/

/-- A part of a kind that cannot be sent. -/
def isForeign : Part → Bool
  | .passage _ | .call _ | .answer _ => false
  | .inlineData _ | .file _ | .program _ | .programResult _ => true

/-- One of some parts is a passage that is not blank. -/
def Shown (parts : List Part) : Prop :=
  ∃ passage : Passage, .passage passage ∈ parts ∧ Text.isBlank passage.text = false

/-- A role that the service knows. -/
def KnownRole (role : String) : Prop :=
  role = "" ∨ role = "user" ∨ role = "model" ∨ role = "system" ∨ role = "developer"

/-- A place where a conversation is checked: a part, or the end of a turn, behind the parts of the
turn before it and the operations of earlier turns. -/
structure Stop where
  past : List Operation
  role : String
  before : List Part
  part : Option Part

/-- The operations before a stop. -/
def Stop.operations (stop : Stop) : List Operation :=
  stop.past ++ stop.before.filterMap ledgerOperation?

/-- A message is due at a stop, at a call or an answer or at the end of a turn, and the role of the
turn is not known. -/
structure RefusesRole (stop : Stop) : Prop where
  due : ∀ part ∈ stop.part, isExchange part = true
  shown : Shown stop.before
  unknown : ¬ KnownRole stop.role

/-- What is wrong at a stop. The role is checked before a call or an answer is. -/
@[mk_iff]
inductive Faults (stop : Stop) : Failure → Prop
  | role (refuses : RefusesRole stop) : Faults stop (.unsupportedRole stop.role)
  | unnamed {call : Call} (here : stop.part = some (.call call)) (accepts : ¬ RefusesRole stop)
      (unnamed : call.name = "") : Faults stop .callWithoutName
  | refused {answer : Answer} {history : List CallLedger.Entry} {failure : Failure}
      (here : stop.part = some (.answer answer)) (accepts : ¬ RefusesRole stop)
      (traced : Traced stop.operations history)
      (responds : Responds history (.settle answer.id answer.name) (.error failure)) :
      Faults stop failure
  | foreign {part : Part} (here : stop.part = some part) (isForeign : isForeign part = true) :
      Faults stop (.unsupportedPart part.kind)

/-- The stops of parts behind other parts of their turn, with the end of the turn. -/
def partStops (past : List Operation) (role : String) (before : List Part) : List Part → List Stop
  | [] => [⟨past, role, before, none⟩]
  | part :: parts => ⟨past, role, before, some part⟩ :: partStops past role (before ++ [part]) parts

/-- The stops of turns behind some operations. -/
def stops (past : List Operation) : List Turn → List Stop
  | [] => []
  | turn :: turns =>
    partStops past turn.role [] turn.parts ++
      stops (past ++ turn.parts.filterMap ledgerOperation?) turns

/-! ## Convertible conversations -/

/-- By a history there is a call for an answer: the one that it names is open, or some call is if it
names none. -/
def Answerable (history : List CallLedger.Entry) (given : Option String) : Prop :=
  (∀ id, givenId? given = some id → OpenIn history id) ∧
    (givenId? given = none → ∃ id, OpenIn history id)

/-- A conversation that can be converted. -/
structure Convertible (turns : List Turn) : Prop where
  parts : ∀ turn ∈ turns, ∀ part ∈ turn.parts, isForeign part = false
  roles : ∀ turn ∈ turns, Shown turn.parts → KnownRole turn.role
  names : ∀ turn ∈ turns, ∀ call : Call, .call call ∈ turn.parts → call.name ≠ ""
  answers : ∀ earlier turn later, turns = earlier ++ turn :: later →
    ∀ before answer after, turn.parts = before ++ .answer answer :: after →
      ∃ history, Traced (ledgerOperations earlier ++ before.filterMap ledgerOperation?) history ∧
        Answerable history answer.id

/-! ## The faults of each stop -/

section Stops

variable {past : List Operation} {role : String} {before : List Part} {failure : Failure}

theorem refusesRole_iff {part : Option Part} (due : ∀ other ∈ part, isExchange other = true) :
    RefusesRole ⟨past, role, before, part⟩ ↔ Shown before ∧ ¬ KnownRole role :=
  ⟨fun refuses => ⟨refuses.shown, refuses.unknown⟩, fun ⟨shown, unknown⟩ => ⟨due, shown, unknown⟩⟩

theorem not_refusesRole {part : Part} (notDue : isExchange part = false) :
    ¬ RefusesRole ⟨past, role, before, some part⟩ := by
  intro refuses
  have due := refuses.due part rfl
  rw [notDue] at due
  cases due

theorem faults_end_iff :
    Faults ⟨past, role, before, none⟩ failure ↔
      (Shown before ∧ ¬ KnownRole role) ∧ failure = .unsupportedRole role := by
  simp [faults_iff, refusesRole_iff]

theorem not_faults_passage {passage : Passage} :
    ¬ Faults ⟨past, role, before, some (.passage passage)⟩ failure := by
  have accepts := @not_refusesRole past role before (.passage passage) rfl
  simp [faults_iff, accepts, isForeign]

theorem faults_call_iff {call : Call} :
    Faults ⟨past, role, before, some (.call call)⟩ failure ↔
      (Shown before ∧ ¬ KnownRole role) ∧ failure = .unsupportedRole role ∨
        ¬ (Shown before ∧ ¬ KnownRole role) ∧ call.name = "" ∧ failure = .callWithoutName := by
  have due : ∀ other ∈ some (Part.call call), isExchange other = true := by simp [isExchange]
  simp [faults_iff, refusesRole_iff due, isForeign]

theorem faults_answer_iff {answer : Answer} {history : List CallLedger.Entry}
    (traced : Traced (past ++ before.filterMap ledgerOperation?) history) :
    Faults ⟨past, role, before, some (.answer answer)⟩ failure ↔
      (Shown before ∧ ¬ KnownRole role) ∧ failure = .unsupportedRole role ∨
        ¬ (Shown before ∧ ¬ KnownRole role) ∧
          Responds history (.settle answer.id answer.name) (.error failure) := by
  have due : ∀ other ∈ some (Part.answer answer), isExchange other = true := by simp [isExchange]
  have only : ∀ other, Traced (past ++ before.filterMap ledgerOperation?) other ↔
      other = history := by
    intro other
    rw [traced_iff, ← traced_iff.mp traced]
  simp [faults_iff, refusesRole_iff due, isForeign, Stop.operations, only]

theorem faults_foreign_iff {part : Part} (foreign : isForeign part = true) :
    Faults ⟨past, role, before, some part⟩ failure ↔ failure = .unsupportedPart part.kind := by
  have notDue : isExchange part = false := by
    cases part <;> first | rfl | cases foreign
  have accepts := @not_refusesRole past role before part notDue
  cases part with
  | passage _ | call _ | answer _ => cases foreign
  | inlineData _ | file _ | program _ | programResult _ => simp [faults_iff, accepts, isForeign]

end Stops

/-! ## Steps that report stops -/

/-- The outcome of steps reports stops: it fails exactly with the first fault, and a value is good. -/
structure Reports {Value : Type} (stops : List Stop) (outcome : Except Failure Value)
    (Good : Value → Prop) : Prop where
  error (failure : Failure) : outcome = .error failure ↔ FirstOffends Faults stops failure
  none (value : Value) : outcome = .ok value → NoneOffends Faults stops
  good (value : Value) : outcome = .ok value → Good value

namespace Reports

variable {Value Result : Type} {Good : Value → Prop} {Good' : Result → Prop}

theorem nil {value : Value} (good : Good value) : Reports [] (.ok value) Good where
  error _ := iff_of_false nofun not_firstOffends_nil
  none _ _ := noneOffends_nil
  good _ same := Except.ok.inj same ▸ good

/-- Something is wrong at the first stop. -/
theorem of_fault {stop : Stop} {rest : List Stop} {fault : Failure}
    (only : ∀ failure, Faults stop failure ↔ failure = fault) :
    Reports (stop :: rest) (.error fault) Good where
  error failure := by
    rw [firstOffends_cons_iff, or_iff_left fun later => later.1 fault ((only fault).mpr rfl), only,
      Except.error.injEq, eq_comm]
  none := nofun
  good := nofun

/-- Nothing is wrong at the first stop. -/
theorem of_fine {stop : Stop} {rest : List Stop} {outcome : Except Failure Value}
    (fine : ∀ failure, ¬ Faults stop failure) (later : Reports rest outcome Good) :
    Reports (stop :: rest) outcome Good where
  error failure := by
    rw [later.error, firstOffends_cons_iff, or_iff_right (fine failure), and_iff_right fine]
  none value passed := noneOffends_cons_iff.mpr ⟨fine, later.none value passed⟩
  good := later.good

/-- Steps behind others report the stops behind theirs. -/
theorem bind {front back : List Stop} {outcome : Except Failure Value}
    {next : Value → Except Failure Result} (reports : Reports front outcome Good)
    (behind : ∀ value, outcome = .ok value → Good value → Reports back (next value) Good') :
    Reports (front ++ back) (outcome >>= next) Good' := by
  cases outcome with
  | error fault =>
      have first := (reports.error fault).mp rfl
      refine ⟨fun failure => ?_, nofun, nofun⟩
      rw [firstOffends_append_iff, ← reports.error,
        or_iff_left fun later => first.not_none later.1]
      simp only [Bind.bind, Except.bind, Except.error.injEq]
  | ok value =>
      have fine := reports.none value rfl
      have later := behind value rfl (reports.good value rfl)
      refine ⟨fun failure => ?_, fun result passed => ?_, later.good⟩
      · rw [firstOffends_append_iff, ← reports.error, ← later.error]
        exact ⟨fun fails => .inr ⟨fine, fails⟩, fun fails => (fails.resolve_left nofun).2⟩
      · exact noneOffends_append_iff.mpr ⟨fine, later.none result passed⟩

theorem map {stops : List Stop} {outcome : Except Failure Value} {change : Value → Result}
    (reports : Reports stops outcome Good) (kept : ∀ value, Good value → Good' (change value)) :
    Reports stops (do return change (← outcome)) Good' := by
  have changed := reports.bind fun value _ good => nil (kept value good)
  rwa [List.append_nil] at changed

/-- The outcome succeeds exactly if nothing is wrong at any stop. -/
theorem exists_ok_iff {stops : List Stop} {outcome : Except Failure Value}
    (reports : Reports stops outcome Good) :
    (∃ value, outcome = .ok value) ↔ NoneOffends Faults stops := by
  constructor
  · rintro ⟨value, passed⟩
    exact reports.none value passed
  · intro fine
    cases outcome with
    | ok value => exact ⟨value, rfl⟩
    | error failure => exact absurd fine ((reports.error failure).mp rfl).not_none

end Reports

/-! ## The conversion reports its stops -/

/-- The ledger at a stop, behind operations of earlier turns and parts of the same turn. -/
def ledgerAt (past : List Operation) (before : List Part) : CallLedger :=
  (({} : CallLedger).run (past ++ before.filterMap ledgerOperation?)).2

section Ledger

variable {past : List Operation} {before : List Part} {part : Part}

theorem ledgerAt_concat_of_some {operation : Operation}
    (performs : ledgerOperation? part = some operation) :
    ledgerAt past (before ++ [part]) = ((ledgerAt past before).perform operation).2 := by
  have whole : past ++ (before ++ [part]).filterMap ledgerOperation? =
      (past ++ before.filterMap ledgerOperation?) ++ [operation] := by
    simp [performs]
  rw [ledgerAt, whole, CallLedger.run_concat, ledgerAt]

theorem ledgerAt_concat_of_none (silent : ledgerOperation? part = none) :
    ledgerAt past (before ++ [part]) = ledgerAt past before := by
  simp [ledgerAt, silent]

theorem ledgerAt_append (past : List Operation) (parts : List Part) :
    ledgerAt (past ++ parts.filterMap ledgerOperation?) [] = ledgerAt past parts := by
  simp [ledgerAt]

/-- What the ledger tells is what the history says. -/
theorem responds_iff_perform {operations : List Operation} {history : List CallLedger.Entry}
    (traced : Traced operations history) (operation : Operation)
    (told : Except Failure String) :
    Responds history operation told ↔
      ((({} : CallLedger).run operations).2.perform operation).1 = told := by
  obtain rfl := traced_iff.mp traced
  have responds := (agrees_run operations).responds (perform_step _ operation)
  constructor
  · exact fun other => responds.unique other
  · rintro rfl
    exact responds

end Ledger

/-- A run of passages behind some parts of a turn matters like all the passages among the parts, as
the role has not been refused. -/
structure RunOf (role : String) (before : List Part) (run : List String) : Prop where
  shown : shownTexts run ≠ [] → Shown before
  known : Shown before → shownTexts run ≠ [] ∨ KnownRole role

theorem inputRole_eq_error_iff {role : String} {failure : Failure} :
    inputRole role = .error failure ↔ ¬ KnownRole role ∧ failure = .unsupportedRole role := by
  unfold inputRole KnownRole
  grind

theorem messageItems_eq_error_iff {role : String} {before : List Part} {run : List String}
    (runOf : RunOf role before run) {failure : Failure} :
    messageItems role run = .error failure ↔
      (Shown before ∧ ¬ KnownRole role) ∧ failure = .unsupportedRole role := by
  cases texts : shownTexts run with
  | nil =>
      have nothing : ¬ (Shown before ∧ ¬ KnownRole role) := by
        rintro ⟨shown, unknown⟩
        exact (runOf.known shown).elim (fun some => some texts) unknown
      simp [messageItems, texts, nothing]
  | cons text later =>
      have shown : Shown before := runOf.shown (by rw [texts]; exact List.cons_ne_nil _ _)
      have failed : messageItems role run = .error failure ↔ inputRole role = .error failure := by
        simp only [messageItems, texts]
        cases inputRole role <;> simp [bind, Except.bind, pure, Except.pure]
      rw [failed, inputRole_eq_error_iff, and_iff_right shown]

/-- A message has been made or was not due, and behind it a new run begins. -/
theorem RunOf.flush {role : String} {before : List Part} {run : List String} {part : Part}
    (runOf : RunOf role before run) {message : List InputItem}
    (passed : messageItems role run = .ok message) (exchange : isExchange part = true) :
    RunOf role (before ++ [part]) [] where
  shown some := absurd rfl some
  known shown := by
    right
    by_contra unknown
    have before : Shown before := by
      obtain ⟨passage, member, visible⟩ := shown
      rcases List.mem_append.mp member with there | here
      · exact ⟨passage, there, visible⟩
      · rw [← List.mem_singleton.mp here] at exchange
        cases exchange
    have refused := (messageItems_eq_error_iff runOf).mpr ⟨⟨before, unknown⟩, rfl⟩
    cases passed.symm.trans refused

/-- A passage goes on with the run. -/
theorem RunOf.passage {role : String} {before : List Part} {run : List String}
    (runOf : RunOf role before run) (passage : Passage) :
    RunOf role (before ++ [.passage passage]) (run ++ [passage.text]) := by
  have texts : shownTexts (run ++ [passage.text]) = shownTexts run ++ shownTexts [passage.text] :=
    List.filter_append ..
  have here : shownTexts [passage.text] ≠ [] ↔ Text.isBlank passage.text = false := by
    simp [shownTexts]
  have whole : Shown (before ++ [.passage passage]) ↔
      Shown before ∨ Text.isBlank passage.text = false := by
    simp [Shown, or_and_right, exists_or]
  have some : shownTexts (run ++ [passage.text]) ≠ [] ↔
      shownTexts run ≠ [] ∨ Text.isBlank passage.text = false := by
    rw [texts, ← here, ne_eq, List.append_eq_nil_iff, not_and_or]
  constructor
  · rw [some, whole]
    exact Or.imp_left runOf.shown
  · rw [some, whole]
    rintro (shown | visible)
    · exact (runOf.known shown).imp_left .inl
    · exact .inl (.inr visible)

theorem callItem_eq_error_iff {ledger : CallLedger} {call : Call} {failure : Failure} :
    callItem ledger call = .error failure ↔ call.name = "" ∧ failure = .callWithoutName := by
  by_cases unnamed : call.name = ""
  · rw [callItem, if_pos (by simpa using unnamed), Except.error.injEq, eq_comm,
      and_iff_right unnamed]
  · rw [callItem, if_neg (by simpa using unnamed)]
    refine iff_of_false (fun refused => ?_) fun both => unnamed both.1
    cases refused

theorem answerItem_eq_error_iff {ledger : CallLedger} {answer : Answer} {failure : Failure} :
    answerItem ledger answer = .error failure ↔
      (ledger.settle answer.id answer.name).1 = .error failure := by
  cases told : (ledger.settle answer.id answer.name).1 <;>
    simp [answerItem, told, bind, Except.bind, pure, Except.pure]

section Conversion

variable {past : List Operation} {role : String} {before parts : List Part} {run : List String}

/-- A call or an answer is checked behind the role, and what it does to the ledger is its
operation. -/
theorem reports_exchange (runOf : RunOf role before run) {part : Part}
    (exchange : isExchange part = true) {outcome : Except Failure (InputItem × CallLedger)}
    (faults : ∀ failure, Faults ⟨past, role, before, some part⟩ failure ↔
      (Shown before ∧ ¬ KnownRole role) ∧ failure = .unsupportedRole role ∨
        ¬ (Shown before ∧ ¬ KnownRole role) ∧ outcome = .error failure)
    (performs : ∀ made, outcome = .ok made → made.2 = ledgerAt past (before ++ [part]))
    {last : CallLedger}
    (later : RunOf role (before ++ [part]) [] → Reports (partStops past role (before ++ [part]) parts)
      (partItems role (ledgerAt past (before ++ [part])) [] parts) fun result => result.2 = last) :
    Reports (partStops past role before (part :: parts)) (do
      let message ← messageItems role run
      let made ← outcome
      let later ← partItems role made.2 [] parts
      return (message ++ made.1 :: later.1, later.2)) fun result => result.2 = last := by
  have refuses := @messageItems_eq_error_iff role before run runOf
  cases shown : messageItems role run with
  | error failure =>
      obtain ⟨refused, rfl⟩ := refuses.mp shown
      exact .of_fault fun other => (faults other).trans
        ((or_iff_left fun both => both.1 refused).trans (and_iff_right refused))
  | ok message =>
      have accepted : ¬ (Shown before ∧ ¬ KnownRole role) := by
        intro refused
        cases shown.symm.trans (refuses.mpr ⟨refused, rfl⟩)
      have faults := fun failure => (faults failure).trans
        ((or_iff_right fun refused => accepted refused.1).trans (and_iff_right accepted))
      cases made : outcome with
      | error failure =>
          refine .of_fault fun other => ?_
          rw [faults, made, Except.error.injEq, eq_comm]
      | ok result =>
          refine .of_fine (fun failure fault => ?_) ?_
          · cases made.symm.trans ((faults failure).mp fault)
          · have rest := later (runOf.flush shown exchange)
            rw [← performs result made] at rest
            exact rest.map fun _ isLast => isLast

theorem reports_partItems (runOf : RunOf role before run) :
    Reports (partStops past role before parts) (partItems role (ledgerAt past before) run parts)
      fun result => result.2 = ledgerAt past (before ++ parts) := by
  induction parts generalizing before run with
  | nil =>
      have refuses := @messageItems_eq_error_iff role before run runOf
      rw [List.append_nil, partItems]
      cases shown : messageItems role run with
      | error failure =>
          obtain ⟨refused, rfl⟩ := refuses.mp shown
          exact .of_fault fun other => faults_end_iff.trans (and_iff_right refused)
      | ok message =>
          refine .of_fine (fun failure fault => ?_) (.nil rfl)
          cases shown.symm.trans (refuses.mpr (faults_end_iff.mp fault))
  | cons part parts ih =>
      have whole : before ++ part :: parts = (before ++ [part]) ++ parts := by simp
      rw [whole]
      cases part with
      | passage passage =>
          have later := ih (runOf.passage passage)
          rw [ledgerAt_concat_of_none rfl] at later
          exact .of_fine (fun _ => not_faults_passage) later
      | call call =>
          refine reports_exchange runOf rfl (fun failure => ?_) (fun made isMade => ?_) ih
          · rw [faults_call_iff, callItem_eq_error_iff]
          · rw [(callItem_eq_ok_iff.mp isMade).2.2, ledgerAt_concat_of_some rfl]
            rfl
      | answer answer =>
          refine reports_exchange runOf rfl (fun failure => ?_) (fun made isMade => ?_) ih
          · rw [faults_answer_iff (traced_iff.mpr rfl), responds_iff_perform (traced_iff.mpr rfl),
              answerItem_eq_error_iff]
            rfl
          · obtain ⟨id, settled, -⟩ := answerItem_eq_ok_iff.mp isMade
            rw [ledgerAt_concat_of_some rfl]
            exact (congrArg Prod.snd settled).symm
      | inlineData _ => exact .of_fault fun _ => faults_foreign_iff rfl
      | file _ => exact .of_fault fun _ => faults_foreign_iff rfl
      | program _ => exact .of_fault fun _ => faults_foreign_iff rfl
      | programResult _ => exact .of_fault fun _ => faults_foreign_iff rfl

theorem reports_turnItems {turns : List Turn} :
    Reports (stops past turns) (turnItems (ledgerAt past []) turns) fun _ => True := by
  induction turns generalizing past with
  | nil => exact .nil trivial
  | cons turn turns ih =>
      have start : RunOf turn.role [] [] := ⟨fun some => absurd rfl some, by simp [Shown]⟩
      refine (reports_partItems start).bind fun first _ behind => ?_
      have later := @ih (past ++ turn.parts.filterMap ledgerOperation?)
      rw [ledgerAt_append] at later
      rw [List.nil_append] at behind
      rw [← behind] at later
      exact later.map fun _ _ => trivial

end Conversion

/-- The conversion of a conversation reports the stops of the conversation. -/
theorem reports_inputItems (turns : List Turn) :
    Reports (stops [] turns) (inputItems turns) fun _ => True :=
  (@reports_turnItems [] turns).map fun _ _ => trivial

/-! ## Stops of a whole conversation -/

theorem mem_partStops_iff {past : List Operation} {role : String} {before parts : List Part}
    {stop : Stop} :
    stop ∈ partStops past role before parts ↔
      ∃ front back, parts = front ++ back ∧ stop = ⟨past, role, before ++ front, back.head?⟩ := by
  induction parts generalizing before with
  | nil =>
      simp only [partStops, List.mem_singleton, List.nil_eq, List.append_eq_nil_iff]
      constructor
      · rintro rfl
        exact ⟨[], [], ⟨rfl, rfl⟩, by simp⟩
      · rintro ⟨_, _, ⟨rfl, rfl⟩, rfl⟩
        simp
  | cons part parts ih =>
      simp only [partStops, List.mem_cons, ih]
      constructor
      · rintro (rfl | ⟨front, back, rfl, rfl⟩)
        · exact ⟨[], part :: parts, rfl, by simp⟩
        · exact ⟨part :: front, back, rfl, by simp⟩
      · rintro ⟨front, back, same, rfl⟩
        cases front with
        | nil =>
            left
            simp [← (List.nil_append back ▸ same)]
        | cons first front =>
            obtain ⟨rfl, rfl⟩ := List.cons.inj same
            exact .inr ⟨front, back, rfl, by simp⟩

/-- The stops of turns are the places of their parts and their ends. -/
theorem mem_stops_iff {past : List Operation} {turns : List Turn} {stop : Stop} :
    stop ∈ stops past turns ↔
      ∃ earlier turn later front back, turns = earlier ++ turn :: later ∧
        turn.parts = front ++ back ∧
          stop = ⟨past ++ ledgerOperations earlier, turn.role, front, back.head?⟩ := by
  induction turns generalizing past with
  | nil => simp [stops]
  | cons turn turns ih =>
      simp only [stops, List.mem_append, mem_partStops_iff, ih]
      constructor
      · rintro (⟨front, back, parts, rfl⟩ | ⟨earlier, other, later, front, back, rfl, parts, rfl⟩)
        · exact ⟨[], turn, turns, front, back, rfl, parts, by simp [ledgerOperations]⟩
        · exact ⟨turn :: earlier, other, later, front, back, rfl, parts, by simp [ledgerOperations]⟩
      · rintro ⟨earlier, other, later, front, back, same, parts, rfl⟩
        cases earlier with
        | nil =>
            obtain ⟨rfl, rfl⟩ := List.cons.inj same
            exact .inl ⟨front, back, parts, by simp [ledgerOperations]⟩
        | cons first earlier =>
            obtain ⟨rfl, rfl⟩ := List.cons.inj same
            exact .inr ⟨earlier, other, later, front, back, rfl, parts, by simp [ledgerOperations]⟩

/-- There is a call for an answer exactly if the answer is not refused. -/
theorem answerable_iff {history : List CallLedger.Entry} {given : Option String} (name : String) :
    Answerable history given ↔
      ∀ failure, ¬ Responds history (.settle given name) (.error failure) := by
  constructor
  · rintro ⟨named, unnamed⟩ failure refused
    cases refused with
    | unknown isGiven notOpen => exact notOpen (named _ isGiven)
    | vacant notGiven noneOpen =>
        obtain ⟨id, isOpen⟩ := unnamed notGiven
        exact noneOpen id isOpen
  · intro accepted
    constructor
    · intro id isGiven
      by_contra notOpen
      exact accepted _ (.unknown isGiven notOpen)
    · intro notGiven
      by_contra noneOpen
      exact accepted _ (.vacant notGiven (not_exists.mp noneOpen))

section Whole

variable {turns earlier later : List Turn} {turn : Turn} {front back : List Part}

/-- Nothing is wrong at a place of a conversation without faults. -/
theorem not_faults_of_none (fine : NoneOffends Faults (stops [] turns))
    (same : turns = earlier ++ turn :: later) (parts : turn.parts = front ++ back)
    (failure : Failure) : ¬ Faults ⟨ledgerOperations earlier, turn.role, front, back.head?⟩ failure :=
  fine _ (mem_stops_iff.mpr ⟨earlier, turn, later, front, back, same, parts, rfl⟩) failure

theorem Convertible.of_none (fine : NoneOffends Faults (stops [] turns)) : Convertible turns where
  parts turn inTurns part inParts := by
    obtain ⟨earlier, later, same⟩ := List.append_of_mem inTurns
    obtain ⟨front, back, parts⟩ := List.append_of_mem inParts
    by_contra notFalse
    exact not_faults_of_none fine same parts _ (.foreign rfl (by simpa using notFalse))
  roles turn inTurns shown := by
    obtain ⟨earlier, later, same⟩ := List.append_of_mem inTurns
    by_contra unknown
    exact not_faults_of_none fine same (List.append_nil _).symm _
      (faults_end_iff.mpr ⟨⟨shown, unknown⟩, rfl⟩)
  names turn inTurns call inParts unnamed := by
    obtain ⟨earlier, later, same⟩ := List.append_of_mem inTurns
    obtain ⟨front, back, parts⟩ := List.append_of_mem inParts
    have noFault := not_faults_of_none fine same parts
    exact noFault _ (.unnamed rfl (fun refuses => noFault _ (.role refuses)) unnamed)
  answers earlier turn later same before answer after parts := by
    have noFault := not_faults_of_none fine same parts
    refine ⟨_, traced_iff.mpr rfl, (answerable_iff answer.name).mpr fun failure refused => ?_⟩
    exact noFault _ (.refused rfl (fun refuses => noFault _ (.role refuses)) (traced_iff.mpr rfl)
      refused)

theorem Convertible.none (convertible : Convertible turns) :
    NoneOffends Faults (stops [] turns) := by
  rintro stop member failure fault
  obtain ⟨earlier, turn, later, front, back, same, parts, rfl⟩ := mem_stops_iff.mp member
  have inTurns : turn ∈ turns := same ▸ List.mem_append_right _ (List.mem_cons_self ..)
  have split : ∀ {part}, back.head? = some part → ∃ rest, turn.parts = front ++ part :: rest := by
    intro part first
    obtain ⟨rest, rfl⟩ := List.head?_eq_some_iff.mp first
    exact ⟨rest, parts⟩
  cases fault with
  | role refuses =>
      obtain ⟨passage, inFront, visible⟩ := refuses.shown
      have shown : Shown turn.parts := ⟨passage, parts ▸ List.mem_append_left _ inFront, visible⟩
      exact refuses.unknown (convertible.roles turn inTurns shown)
  | @unnamed call here _ unnamed =>
      obtain ⟨rest, parts⟩ := split here
      have inParts : .call call ∈ turn.parts := by simp [parts]
      exact convertible.names turn inTurns call inParts unnamed
  | @refused answer history _ here _ traced refused =>
      obtain ⟨rest, parts⟩ := split here
      obtain ⟨history', traced', answerable⟩ :=
        convertible.answers earlier turn later same front answer rest parts
      obtain rfl : history' = history := (traced_iff.mp traced').trans (traced_iff.mp traced).symm
      exact (answerable_iff answer.name).mp answerable failure refused
  | @foreign part here isForeign =>
      obtain ⟨rest, parts⟩ := split here
      have inParts : part ∈ turn.parts := by simp [parts]
      rw [convertible.parts turn inTurns part inParts] at isForeign
      cases isForeign

end Whole

/-- **Where a conversation is at fault.** All operations have exactly one history. A conversation is
converted exactly if all its parts can be sent, the roles of turns with passages to show are known,
all calls have names, and there is an open call for each answer by the history before it. Otherwise
the failure is the fault of the first stop of the conversation. -/
theorem inputItems_by_stops (turns : List Turn) :
    (∀ operations, ∃! history, Traced operations history) ∧
    ((∃ items, inputItems turns = .ok items) ↔ Convertible turns) ∧
    ∀ failure, inputItems turns = .error failure ↔
      FirstOffends Faults (stops [] turns) failure := by
  have reports := reports_inputItems turns
  refine ⟨fun operations => ?_, ?_, reports.error⟩
  · exact ⟨_, traced_iff.mpr rfl, fun _ traced => traced_iff.mp traced⟩
  · rw [reports.exists_ok_iff]
    exact ⟨.of_none, Convertible.none⟩

end ResponsesBridge.Outbound
