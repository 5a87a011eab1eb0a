import ResponsesBridge.Stream.Aggregation
import Mathlib.Data.List.Induction

/-!
# Runs of an aggregator

A new aggregator is given generations one after the other and is closed behind the last one
(`Aggregator.outputs`). What holds of a new aggregator and is kept by every generation holds after
every run (`Aggregator.run_invariant`).
-/

set_option autoImplicit false

namespace ResponsesBridge.Stream.Aggregator

open Conversation (Generation Reply)

variable (aggregator : Aggregator)

/-- The replies to generations from a state on, and the state behind them. -/
def addAll : aggregator.State → List Generation → List Reply × aggregator.State
  | state, [] => ([], state)
  | state, generation :: generations =>
    let (replies, between) := aggregator.add state generation
    let (later, last) := addAll between generations
    (replies ++ later, last)

/-- The replies of a new aggregator to generations, and the state behind them. -/
def run (generations : List Generation) : List Reply × aggregator.State :=
  aggregator.addAll aggregator.initial generations

/-- All replies of a new aggregator that is closed behind the last generation. -/
def outputs (generations : List Generation) : List Reply :=
  (aggregator.run generations).1 ++
    (aggregator.close (aggregator.run generations).2).1.toList

theorem addAll_append (state : aggregator.State) (first second : List Generation) :
    aggregator.addAll state (first ++ second) =
      ((aggregator.addAll state first).1 ++
          (aggregator.addAll (aggregator.addAll state first).2 second).1,
        (aggregator.addAll (aggregator.addAll state first).2 second).2) := by
  induction first generalizing state with
  | nil => rfl
  | cons generation generations ih =>
      simp only [List.cons_append, addAll, ih, List.append_assoc]

theorem run_concat (generations : List Generation) (generation : Generation) :
    aggregator.run (generations ++ [generation]) =
      ((aggregator.run generations).1 ++
          (aggregator.add (aggregator.run generations).2 generation).1,
        (aggregator.add (aggregator.run generations).2 generation).2) := by
  simp only [run, addAll_append, addAll, List.append_nil]

/-- The replies to the first generations are the first outputs. -/
theorem run_prefix_outputs (first second : List Generation) :
    (aggregator.run first).1 <+: aggregator.outputs (first ++ second) := by
  simp only [outputs, run, addAll_append, List.append_assoc]
  exact List.prefix_append _ _

/-- **Run invariant.** A property of generations, replies and state that a new aggregator has and
that every generation keeps holds after every run. -/
theorem run_invariant {aggregator : Aggregator}
    {Holds : List Generation → List Reply → aggregator.State → Prop}
    (atFirst : Holds [] [] aggregator.initial)
    (keeps : ∀ generations replies state generation, Holds generations replies state →
      Holds (generations ++ [generation]) (replies ++ (aggregator.add state generation).1)
        (aggregator.add state generation).2)
    (generations : List Generation) :
    Holds generations (aggregator.run generations).1 (aggregator.run generations).2 := by
  induction generations using List.reverseRecOn with
  | nil => exact atFirst
  | append_singleton generations generation ih =>
      rw [run_concat]
      exact keeps generations _ _ generation ih

end ResponsesBridge.Stream.Aggregator
