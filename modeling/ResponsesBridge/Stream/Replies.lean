import ResponsesBridge.Inbound.Fragments
import ResponsesBridge.Stream.Aggregation

/-!
# The replies of a stream

A stream of replies is polled for one item after the other (`Polled.poll`), and takes events from
its source only where no item is ready. The events become generations, and the generations are
aggregated, which may make any number of replies of one event. The first failure is the last item:
a source that fails, and an event that reports a failure or cannot be understood. A source that
comes to its end without a failure ends with what the aggregator makes of being closed.
-/

set_option autoImplicit false

namespace ResponsesBridge.Stream

open Conversation (Reply)
open Inbound (OpenArguments)
open Wire (Event)

/-- A stream between two polls: what is left of its source, the collected arguments and the state
of the aggregator, the items that are ready, and whether the source is done with. -/
structure Polled (aggregator : Aggregator) where
  source : List (Except Failure Event)
  collected : OpenArguments
  state : aggregator.State
  ready : List (Except Failure Reply)
  finished : Bool

namespace Polled

variable {aggregator : Aggregator}

/-- A stream that has not been polled yet. -/
def start (aggregator : Aggregator) (source : List (Except Failure Event)) : Polled aggregator where
  source := source
  collected := .empty
  state := aggregator.initial
  ready := []
  finished := false

/-- The stream behind a failure. -/
def fail (stream : Polled aggregator) (failure : Failure) : Polled aggregator :=
  { stream with ready := stream.ready ++ [.error failure], finished := true }

/-- The stream behind the next item of its source, or behind its end. -/
def advance (stream : Polled aggregator) : Polled aggregator :=
  match stream.source with
  | [] =>
    let (last, state) := aggregator.close stream.state
    { stream with state, ready := stream.ready ++ last.toList.map .ok, finished := true }
  | .error failure :: source => { stream with source }.fail failure
  | .ok event :: source =>
    match Inbound.received stream.collected event with
    | (.error failure, collected) => { stream with source, collected }.fail failure
    | (.ok none, collected) => { stream with source, collected }
    | (.ok (some generation), collected) =>
      let (replies, state) := aggregator.add stream.state generation
      { stream with source, collected, state, ready := stream.ready ++ replies.map .ok }

/-- How often a stream can still advance. -/
def stepsLeft (stream : Polled aggregator) : Nat :=
  if stream.finished then 0 else stream.source.length + 1

theorem stepsLeft_advance {stream : Polled aggregator} (unfinished : ¬ stream.finished) :
    stream.advance.stepsLeft < stream.stepsLeft := by
  obtain ⟨source, collected, state, ready, finished⟩ := stream
  obtain rfl : finished = false := Bool.eq_false_iff.mpr unfinished
  rcases source with _ | ⟨⟨failure⟩ | ⟨event⟩, source⟩
  · simp [advance, stepsLeft]
  · simp [advance, fail, stepsLeft]
  · rcases outcome : Inbound.received collected event with
      ⟨⟨failure⟩ | ⟨_ | generation⟩, behind⟩ <;>
      simp [advance, fail, stepsLeft, outcome]

/-- The next item, if there is one more, and the stream behind it. -/
def poll (stream : Polled aggregator) : Option (Except Failure Reply) × Polled aggregator :=
  match stream.ready with
  | item :: ready => (some item, { stream with ready })
  | [] => if stream.finished then (none, stream) else stream.advance.poll
termination_by stream.stepsLeft
decreasing_by exact stepsLeft_advance ‹_›

theorem poll_of_ready {stream : Polled aggregator} {item : Except Failure Reply}
    {ready : List (Except Failure Reply)} (isReady : stream.ready = item :: ready) :
    stream.poll = (some item, { stream with ready }) := by
  rw [poll, isReady]

theorem poll_of_finished {stream : Polled aggregator} (nothing : stream.ready = [])
    (finished : stream.finished) : stream.poll = (none, stream) := by
  rw [poll, nothing]
  exact if_pos finished

theorem poll_of_unfinished {stream : Polled aggregator} (nothing : stream.ready = [])
    (unfinished : ¬ stream.finished) : stream.poll = stream.advance.poll := by
  rw [poll, nothing]
  exact if_neg unfinished

/-- A poll that gives an item has advanced the stream, or has taken an item that was ready. -/
theorem poll_decreases {stream next : Polled aggregator} {item : Except Failure Reply}
    (polled : stream.poll = (some item, next)) :
    Prod.Lex (· < ·) (· < ·) (next.stepsLeft, next.ready.length)
      (stream.stepsLeft, stream.ready.length) := by
  induction stream using poll.induct with
  | case1 stream first ready isReady =>
      rw [poll_of_ready isReady] at polled
      cases polled
      rw [isReady]
      exact .right _ (Nat.lt_succ_self _)
  | case2 stream nothing finished =>
      rw [poll_of_finished nothing finished] at polled
      cases polled
  | case3 stream nothing unfinished ih =>
      rw [poll_of_unfinished nothing unfinished] at polled
      have fewer := stepsLeft_advance unfinished
      rcases Prod.lex_def.mp (ih polled) with less | ⟨same, -⟩
      · exact .left _ _ (Nat.lt_trans less fewer)
      · exact .left _ _ (Nat.lt_of_le_of_lt (Nat.le_of_eq same) fewer)

/-- All items of the polls up to the end, and the stream at its end. -/
def collect (stream : Polled aggregator) : List (Except Failure Reply) × Polled aggregator :=
  match _polled : stream.poll with
  | (none, last) => ([], last)
  | (some item, next) => (item :: next.collect.1, next.collect.2)
termination_by (stream.stepsLeft, stream.ready.length)
decreasing_by all_goals exact poll_decreases ‹_›

theorem collect_of_ready {stream : Polled aggregator} {item : Except Failure Reply}
    {ready : List (Except Failure Reply)} (isReady : stream.ready = item :: ready) :
    stream.collect =
      (item :: { stream with ready }.collect.1, { stream with ready }.collect.2) := by
  rw [collect, poll_of_ready isReady]

theorem collect_of_finished {stream : Polled aggregator} (nothing : stream.ready = [])
    (finished : stream.finished) : stream.collect = ([], stream) := by
  rw [collect, poll_of_finished nothing finished]

theorem collect_of_unfinished {stream : Polled aggregator} (nothing : stream.ready = [])
    (unfinished : ¬ stream.finished) : stream.collect = stream.advance.collect := by
  rw [collect, poll_of_unfinished nothing unfinished, ← collect]

end Polled

/-- **The items of a stream.** -/
def replies (aggregator : Aggregator) (events : List (Except Failure Event)) :
    List (Except Failure Reply) :=
  (Polled.start aggregator events).collect.1

end ResponsesBridge.Stream
