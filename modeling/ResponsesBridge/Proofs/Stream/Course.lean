import ResponsesBridge.Proofs.Inbound.Reception
import ResponsesBridge.Proofs.Stream.Run
import ResponsesBridge.Service.Exchange

/-!
# The course of a stream

A source is read up to its first failing item (`Course`). A polled stream gives what its aggregator
makes of the generations before that item, each of them added once and in order, and then the
failure, with the aggregator left open; without a failing item it ends with what the aggregator
makes of being closed (`collect_of_course`).

The stream behind some events whose generations have been added (`Polled.behind`) carries the proof.
Polling it gives what the next event makes ready, and then what the stream behind that event gives
(`Polled.advance_behind_cons`). The consequences for the caller are collected in
`replies_follow_course`.
-/

set_option autoImplicit false

namespace ResponsesBridge.Stream

open Conversation (Reply)
open Inbound (Faultless faultless_nil faultless_concat_iff generationsOf generationsOf_concat made?
  openBehind openBehind_concat received)
open Wire (Event)

/-! ## Courses of a source -/

/-- The failure of an item of a source: that of the source, or that of the event. -/
def failureAt? (collected : Inbound.OpenArguments) : Except Failure Event → Option Failure
  | .error failure => some failure
  | .ok event =>
    match (received collected event).1 with
    | .error failure => some failure
    | .ok _ => none

/-- The events of a source before its first failing item, and the failure of that item. -/
inductive Course : List (Except Failure Event) → List Event → Option Failure → Prop
  /-- No item fails. -/
  | ends {events : List Event} (faultless : Faultless events) :
      Course (events.map .ok) events none
  /-- An item fails, whatever comes behind it. -/
  | fails {events : List Event} {item : Except Failure Event}
      {later : List (Except Failure Event)} {failure : Failure} (faultless : Faultless events)
      (fault : failureAt? (openBehind events) item = some failure) :
      Course (events.map .ok ++ item :: later) events (some failure)

/-- Every source has a course. -/
theorem exists_course (source : List (Except Failure Event)) :
    ∃ events failure?, Course source events failure? := by
  induction source using List.reverseRecOn with
  | nil => exact ⟨[], none, .ends faultless_nil⟩
  | append_singleton source item ih =>
      obtain ⟨events, failure?, course⟩ := ih
      cases course with
      | fails faultless fault =>
          rw [List.append_assoc, List.cons_append]
          exact ⟨events, _, .fails faultless fault⟩
      | ends faultless =>
          cases fault : failureAt? (openBehind events) item with
          | some failure => exact ⟨events, some failure, .fails faultless fault⟩
          | none =>
              rcases item with failure | event
              · cases fault
              · cases received : (received (openBehind events) event).1 with
                | error failure => simp [failureAt?, received] at fault
                | ok made =>
                    have course := Course.ends
                      ((faultless_concat_iff events event).mpr ⟨faultless, made, received⟩)
                    rw [List.map_append] at course
                    exact ⟨_, _, course⟩

/-! ## Polling -/

namespace Polled

variable {aggregator : Aggregator}

/-- The items that are ready come first. -/
theorem collect_eq_ready_append (stream : Polled aggregator) :
    stream.collect =
      (stream.ready ++ { stream with ready := [] }.collect.1,
        { stream with ready := [] }.collect.2) := by
  obtain ⟨source, collected, state, ready, finished⟩ := stream
  induction ready with
  | nil => rfl
  | cons item ready ih =>
      rw [collect_of_ready rfl]
      simp only [ih, List.cons_append]

/-- A stream that is done with its source gives the items that are ready. -/
theorem collect_of_isFinished {stream : Polled aggregator} (finished : stream.finished) :
    stream.collect = (stream.ready, { stream with ready := [] }) := by
  have ended : { stream with ready := [] }.collect = ([], { stream with ready := [] }) :=
    collect_of_finished rfl finished
  rw [collect_eq_ready_append, ended, List.append_nil]

/-- The stream behind events that have been taken from the source. -/
def behind (aggregator : Aggregator) (events : List Event)
    (rest : List (Except Failure Event)) : Polled aggregator where
  source := rest
  collected := openBehind events
  state := (aggregator.run (generationsOf events)).2
  ready := []
  finished := false

section Behind

variable (aggregator) (events : List Event)

theorem collect_behind (rest : List (Except Failure Event)) :
    (behind aggregator events rest).collect = (behind aggregator events rest).advance.collect :=
  collect_of_unfinished rfl Bool.false_ne_true

/-- At the end of the source the aggregator is closed. -/
theorem collect_behind_nil :
    (behind aggregator events []).collect.1 =
        (aggregator.close (aggregator.run (generationsOf events)).2).1.toList.map .ok ∧
      (behind aggregator events []).collect.2.state =
        (aggregator.close (aggregator.run (generationsOf events)).2).2 := by
  rw [collect_behind, collect_of_isFinished rfl]
  exact ⟨rfl, rfl⟩

variable {events}

/-- At a failing item the stream ends with the failure. -/
theorem collect_behind_failing {item : Except Failure Event} {failure : Failure}
    (fault : failureAt? (openBehind events) item = some failure)
    (later : List (Except Failure Event)) :
    (behind aggregator events (item :: later)).collect.1 = [.error failure] ∧
      (behind aggregator events (item :: later)).collect.2.state =
        (aggregator.run (generationsOf events)).2 := by
  rw [collect_behind]
  rcases item with failed | event
  · cases fault
    rw [collect_of_isFinished rfl]
    exact ⟨rfl, rfl⟩
  · rcases outcome : received (openBehind events) event with ⟨failed | made, open'⟩
    · simp only [failureAt?, outcome, Option.some.injEq] at fault
      subst fault
      have advanced : (behind aggregator events (.ok event :: later)).advance =
          { behind aggregator events later with collected := open' }.fail failed := by
        simp only [advance, behind, outcome]
      rw [advanced, collect_of_isFinished rfl]
      exact ⟨rfl, rfl⟩
    · simp [failureAt?, outcome] at fault

/-- An event that does not fail makes ready what its generation is turned into. -/
theorem advance_behind_cons {event : Event} {made : Option Conversation.Generation}
    (succeeds : (received (openBehind events) event).1 = .ok made)
    (rest : List (Except Failure Event)) :
    (behind aggregator events (.ok event :: rest)).advance =
      { behind aggregator (events ++ [event]) rest with
        ready :=
          (aggregator.addAll (aggregator.run (generationsOf events)).2 made.toList).1.map
            .ok } := by
  have collected := openBehind_concat events event
  have generations := generationsOf_concat events event
  rcases outcome : received (openBehind events) event with ⟨told, open'⟩
  rw [outcome] at succeeds collected generations
  obtain rfl : told = .ok made := succeeds
  cases made with
  | none =>
      simp only [made?, Option.toList_none, List.append_nil] at generations
      simp only [advance, behind, outcome, collected, generations, Option.toList_none,
        Aggregator.addAll, List.map_nil]
  | some generation =>
      simp only [made?, Option.toList_some] at generations
      simp only [advance, behind, outcome, collected, generations, Aggregator.run_concat,
        Option.toList_some, Aggregator.addAll, List.append_nil, List.nil_append]

/-- **Events that do not fail are taken one after the other**: the stream gives the replies to
their generations, and then what the stream behind them gives. -/
theorem collect_start_append (faultless : Faultless events)
    (rest : List (Except Failure Event)) :
    (start aggregator (events.map .ok ++ rest)).collect =
      ((aggregator.run (generationsOf events)).1.map .ok ++
          (behind aggregator events rest).collect.1,
        (behind aggregator events rest).collect.2) := by
  induction events using List.reverseRecOn generalizing rest with
  | nil => rfl
  | append_singleton events event ih =>
      obtain ⟨faultless, made, succeeds⟩ := (faultless_concat_iff events event).mp faultless
      have replies : (aggregator.run (generationsOf (events ++ [event]))).1 =
          (aggregator.run (generationsOf events)).1 ++
            (aggregator.addAll (aggregator.run (generationsOf events)).2 made.toList).1 := by
        rw [generationsOf_concat, succeeds, made?, Aggregator.run, Aggregator.addAll_append]
        rfl
      rw [List.map_append, List.append_assoc, List.map_singleton, List.singleton_append,
        ih faultless, collect_behind, advance_behind_cons aggregator succeeds,
        collect_eq_ready_append, replies, List.map_append, List.append_assoc]
      rfl

end Behind

end Polled

/-! ## What a source comes to -/

/-- The items of a stream by its course: the replies to the generations before the failing item, and
its failure; or all outputs of the aggregator. -/
def itemsBy (aggregator : Aggregator) (events : List Event) :
    Option Failure → List (Except Failure Reply)
  | some failure => (aggregator.run (generationsOf events)).1.map .ok ++ [.error failure]
  | none => (aggregator.outputs (generationsOf events)).map .ok

/-- The state of the aggregator at the end of a stream by its course: it is closed only where no
item fails. -/
def stateBy (aggregator : Aggregator) (events : List Event) : Option Failure → aggregator.State
  | some _ => (aggregator.run (generationsOf events)).2
  | none => (aggregator.close (aggregator.run (generationsOf events)).2).2

section Courses

variable (aggregator : Aggregator) {source : List (Except Failure Event)} {events : List Event}
  {failure? : Option Failure}

/-- **A polled stream follows the course of its source.** -/
theorem collect_of_course (course : Course source events failure?) :
    replies aggregator source = itemsBy aggregator events failure? ∧
      (Polled.start aggregator source).collect.2.state = stateBy aggregator events failure? := by
  cases course with
  | ends faultless =>
      have polled := Polled.collect_start_append aggregator faultless []
      obtain ⟨items, state⟩ := Polled.collect_behind_nil aggregator events
      rw [List.append_nil] at polled
      rw [replies, polled, items, itemsBy, Aggregator.outputs, List.map_append]
      exact ⟨rfl, state⟩
  | @fails _ item later failure faultless fault =>
      have polled := Polled.collect_start_append aggregator faultless (item :: later)
      obtain ⟨items, state⟩ := Polled.collect_behind_failing aggregator fault later
      rw [replies, polled, items]
      exact ⟨rfl, state⟩

/-- A failure is the last item. -/
theorem eq_nil_of_itemsBy {before after : List (Except Failure Reply)} {failure : Failure}
    (split : itemsBy aggregator events failure? = before ++ .error failure :: after) :
    after = [] := by
  have noFailure : ∀ (replies : List Reply) (rest : List (Except Failure Reply)),
      replies.map .ok ≠ before ++ .error failure :: rest := by
    intro replies rest same
    have member : Except.error failure ∈ replies.map Except.ok := by
      rw [same]
      exact List.mem_append_right _ (List.mem_cons_self ..)
    simp at member
  cases failure? with
  | none => exact absurd split (noFailure _ after)
  | some last =>
      cases after using List.reverseRecOn with
      | nil => rfl
      | append_singleton after item _ =>
          rw [itemsBy, ← List.cons_append, ← List.append_assoc] at split
          exact absurd (List.append_inj' split rfl).1 (noFailure _ after)

/-- What comes before a failing item, and that item, decide about all items. -/
theorem replies_congr_of_failing {item : Except Failure Event} {failure : Failure}
    (faultless : Faultless events) (fault : failureAt? (openBehind events) item = some failure)
    (later other : List (Except Failure Event)) :
    replies aggregator (events.map .ok ++ item :: later) =
      replies aggregator (events.map .ok ++ item :: other) := by
  rw [(collect_of_course aggregator (.fails faultless fault)).1,
    (collect_of_course aggregator (.fails faultless fault)).1]

/-- **An event that makes nothing and leaves the collected arguments as they are has no part in the
items of a stream**, wherever it comes. -/
theorem replies_insert_silent {event : Event}
    (silent : ∀ collected, received collected event = (.ok none, collected))
    (before after : List (Except Failure Event)) :
    replies aggregator (before ++ .ok event :: after) = replies aggregator (before ++ after) := by
  obtain ⟨events, failure?, course⟩ := exists_course before
  cases course with
  | fails faultless fault =>
      rw [List.append_assoc, List.append_assoc]
      exact replies_congr_of_failing aggregator faultless fault _ _
  | ends faultless =>
      have makesNothing : (received (openBehind events) event).1 = .ok none := by rw [silent]
      have same : Polled.behind aggregator (events ++ [event]) after =
          Polled.behind aggregator events after := by
        simp only [Polled.behind, openBehind_concat, generationsOf_concat, silent, made?,
          Option.toList_none, List.append_nil]
      rw [replies, replies, Polled.collect_start_append aggregator faultless,
        Polled.collect_start_append aggregator faultless, Polled.collect_behind,
        Polled.advance_behind_cons aggregator makesNothing, same]
      rfl

/-- The replies to events that do not fail are given whatever comes behind them. -/
theorem run_prefix_replies (faultless : Faultless events) (longer : List (Except Failure Event)) :
    (aggregator.run (generationsOf events)).1.map .ok <+:
      replies aggregator (events.map .ok ++ longer) := by
  rw [replies, Polled.collect_start_append aggregator faultless]
  exact List.prefix_append _ _

end Courses

/-- A call for a list of items that asks for a stream sends what a call for a stream sends, and
gives the items of the stream, or one failure where there is none. -/
theorem replies_of_stream (model : Service.Model) (network : Service.Network)
    (request : Conversation.Request) :
    (model.replies network true request).sent = (model.stream network request).sent ∧
      ((∃ source,
          (model.stream network request).result = .ok (replies accumulating source) ∧
            (model.replies network true request).result = replies accumulating source) ∨
        ∃ failure, (model.stream network request).result = .error failure ∧
          (model.replies network true request).result = [.error failure]) := by
  refine ⟨rfl, ?_⟩
  simp only [Service.Model.replies, Service.Model.stream, Service.Outcome.map, if_true]
  cases (model.call network true request).result with
  | error failure => exact .inr ⟨failure, rfl, rfl⟩
  | ok response =>
      cases isStream : response.isEventStream with
      | true =>
          refine .inl ⟨Service.events response.payloads.1 response.payloads.2, ?_, ?_⟩ <;>
            simp [bind, Except.bind, Service.streamReplies, isStream, Service.itemsOrFailure]
      | false =>
          refine .inr ⟨.streamingUnavailable, ?_, ?_⟩ <;>
            simp [bind, Except.bind, Service.streamReplies, isStream, Service.itemsOrFailure]

/-- **The items of a stream follow the course of its source**, for every aggregator. They are the
replies to the generations of the events before the first failing item, each added once and in
order, and then its failure, with the aggregator left open; or the replies to all generations and
what closing the aggregator gives. So a failure is the last item, nothing behind a failing item
matters, and what is given before the end stays where the source goes on. A call for a list of items
that asks for a stream keeps this. -/
theorem replies_follow_course (aggregator : Aggregator) :
    (∀ source, ∃ events failure?, Course source events failure? ∧
        replies aggregator source = itemsBy aggregator events failure? ∧
        (Polled.start aggregator source).collect.2.state = stateBy aggregator events failure?) ∧
      (∀ source before failure after,
        replies aggregator source = before ++ .error failure :: after → after = []) ∧
      (∀ events item failure, Faultless events →
        failureAt? (openBehind events) item = some failure → ∀ later other,
          replies aggregator (events.map .ok ++ item :: later) =
            replies aggregator (events.map .ok ++ item :: other)) ∧
      (∀ events, Faultless events → ∀ longer,
        (aggregator.run (generationsOf events)).1.map .ok <+:
          replies aggregator (events.map .ok ++ longer)) ∧
      ∀ (model : Service.Model) (network : Service.Network) (request : Conversation.Request),
        (model.replies network true request).sent = (model.stream network request).sent ∧
          ((∃ source,
              (model.stream network request).result = .ok (replies accumulating source) ∧
                (model.replies network true request).result = replies accumulating source) ∨
            ∃ failure, (model.stream network request).result = .error failure ∧
              (model.replies network true request).result = [.error failure]) := by
  refine ⟨fun source => ?_, fun source before failure after split => ?_, ?_, ?_,
    replies_of_stream⟩
  · obtain ⟨events, failure?, course⟩ := exists_course source
    exact ⟨events, failure?, course, collect_of_course aggregator course⟩
  · obtain ⟨events, failure?, course⟩ := exists_course source
    rw [(collect_of_course aggregator course).1] at split
    exact eq_nil_of_itemsBy aggregator split
  · intro events item failure faultless fault later other
    exact replies_congr_of_failing aggregator faultless fault later other
  · intro events faultless longer
    exact run_prefix_replies aggregator faultless longer

end ResponsesBridge.Stream
