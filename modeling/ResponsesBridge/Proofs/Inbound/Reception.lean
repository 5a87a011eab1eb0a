import ResponsesBridge.Inbound.Fragments

/-!
# Events that are received one after the other

Every event is received with the arguments that the events before it have left open. A failing
event does not end the reception: the events behind it are received as well. The run of a
reception (`receiveAll`) tells the outcome of each event and what is open behind the last one.
-/

set_option autoImplicit false

namespace ResponsesBridge.Inbound

open Conversation (Generation)
open Wire (Event)

/-- What becomes of one event: its generation, if it has one, or a failure. -/
abbrev Reception := Except Failure (Option Generation)

/-- The outcomes of events, and the open arguments behind them. -/
def receiveAll : OpenArguments → List Event → List Reception × OpenArguments
  | collected, [] => ([], collected)
  | collected, event :: events =>
    let (outcome, between) := received collected event
    let (later, last) := receiveAll between events
    (outcome :: later, last)

/-- The outcomes of events that are the first ones of a stream. -/
def outcomes (events : List Event) : List Reception :=
  (receiveAll .empty events).1

/-- The arguments that are open behind the first events of a stream. -/
def openBehind (events : List Event) : OpenArguments :=
  (receiveAll .empty events).2

/-- The generation of an outcome, if it has one. -/
def made? : Reception → Option Generation
  | .ok made => made
  | .error _ => none

/-- The generations of events, in order. -/
def generationsOf (events : List Event) : List Generation :=
  (outcomes events).filterMap made?

/-- No event fails. -/
def Faultless (events : List Event) : Prop :=
  ∀ failure, .error failure ∉ outcomes events

theorem receiveAll_append (collected : OpenArguments) (first second : List Event) :
    receiveAll collected (first ++ second) =
      ((receiveAll collected first).1 ++
          (receiveAll (receiveAll collected first).2 second).1,
        (receiveAll (receiveAll collected first).2 second).2) := by
  induction first generalizing collected with
  | nil => rfl
  | cons event events ih => simp only [List.cons_append, receiveAll, ih]

theorem length_outcomes (events : List Event) : (outcomes events).length = events.length := by
  have lengths : ∀ collected, (receiveAll collected events).1.length = events.length := by
    induction events with
    | nil => exact fun _ => rfl
    | cons event events ih =>
        intro collected
        simp only [receiveAll, List.length_cons, ih]
  exact lengths .empty

section Concat

variable (events : List Event) (event : Event)

theorem outcomes_concat :
    outcomes (events ++ [event]) = outcomes events ++ [(received (openBehind events) event).1] := by
  simp only [outcomes, receiveAll_append, receiveAll, openBehind]

theorem openBehind_concat :
    openBehind (events ++ [event]) = (received (openBehind events) event).2 := by
  simp only [openBehind, receiveAll_append, receiveAll]

theorem generationsOf_concat :
    generationsOf (events ++ [event]) =
      generationsOf events ++ (made? (received (openBehind events) event).1).toList := by
  rw [generationsOf, outcomes_concat, List.filterMap_append, ← generationsOf]
  cases made : made? (received (openBehind events) event).1 <;> simp [made]

theorem faultless_concat_iff :
    Faultless (events ++ [event]) ↔
      Faultless events ∧ ∃ made, (received (openBehind events) event).1 = .ok made := by
  simp only [Faultless, outcomes_concat, List.mem_append, List.mem_singleton, not_or, forall_and]
  refine and_congr_right fun _ => ?_
  cases (received (openBehind events) event).1 <;> simp

end Concat

theorem faultless_nil : Faultless [] := by
  simp [Faultless, outcomes, receiveAll]

/-- The outcome of an event depends only on what is open behind those before it. -/
theorem getElem?_outcomes (before : List Event) (event : Event) (after : List Event) :
    (outcomes (before ++ event :: after))[before.length]? =
      some (received (openBehind before) event).1 := by
  have split : outcomes (before ++ event :: after) =
      outcomes before ++ (receiveAll (openBehind before) (event :: after)).1 := by
    simp only [outcomes, openBehind, receiveAll_append]
  rw [split, ← length_outcomes before, List.getElem?_append_right (Nat.le_refl _), Nat.sub_self]
  rfl

end ResponsesBridge.Inbound
