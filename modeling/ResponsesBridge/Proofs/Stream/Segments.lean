import ResponsesBridge.Proofs.Inbound.OpenCalls
import ResponsesBridge.Proofs.Stream.Conservation
import ResponsesBridge.Proofs.Stream.Course

/-!
# The replies of a stream, segment by segment

The events that complete the arguments of calls cut a stream into segments (`Cut`). What the caller
gets can be told from the segments alone: every fragment of text as a partial reply, behind the
fragments of a segment one reply with the whole thought and the whole text of the segment, and
then the call. The segment that is still open at the end is repeated as the reply that completes
the turn (`replies_by_segments`).

Behind any events the aggregator holds what the open segment thinks and says, and nothing else
(`heldBehind`). An event of the segment adds its fragment to it, and a completed call empties it, so
one induction over the cut carries replies and state together (`run_of_cut`).
-/

set_option autoImplicit false

namespace ResponsesBridge.Stream

open Conversation (Call Generation Part Passage Reply)
open Inbound (Faultless argumentText callArguments completion faultless_concat_iff generationsOf
  generationsOf_concat made? openBehind openText received received_argumentsDone
  textOf_openBehind)
open Wire (Event)

/-! ## What a segment brings -/

/-- The passage of which an event is a fragment. -/
def spoken? : Event → Option Passage
  | .textDelta fragment => some ⟨fragment.delta, false⟩
  | .reasoningDelta fragment | .summaryDelta fragment => some ⟨fragment.delta, true⟩
  | _ => none

/-- The fragments of texts and of thoughts among events, in order, without the empty ones. -/
def fragments (events : List Event) : List Passage :=
  (events.filterMap spoken?).filter fun passage => !passage.text.isEmpty

/-- The thoughts among events, or what is said besides them, as one text. -/
def toldIn (thought : Bool) (events : List Event) : String :=
  String.join (((fragments events).filter (·.thought == thought)).map (·.text))

/-- What events think as one part, and behind it what they say as one part; neither if empty. -/
def repeatedParts (events : List Event) : List Part :=
  ([⟨toldIn true events, true⟩, ⟨toldIn false events, false⟩].filter fun passage : Passage =>
    !passage.text.isEmpty).map .passage

/-! ## Replies -/

/-- A fragment as a reply. -/
def partialReply (fragment : Passage) : Reply where
  turn := some ⟨Conversation.modelRole, [.passage fragment]⟩
  isPartial := true
  finishReason := some .unspecified

/-- A call as a reply. -/
def callReply (call : Call) : Reply where
  turn := some ⟨Conversation.modelRole, [.call call]⟩
  finishReason := some .unspecified

/-- The reply that repeats a segment, unless it thinks and says nothing. -/
def summary? (events : List Event) : Option Reply :=
  match repeatedParts events with
  | [] => none
  | parts => some { turn := some ⟨Conversation.modelRole, parts⟩ }

/-- The reply that repeats the last segment and completes the turn. -/
def closing? (events : List Event) : Option Reply :=
  (summary? events).map fun reply => { reply with turnComplete := true }

/-- The events up to one that completes a call, and the call. -/
structure Segment where
  events : List Event
  call : Call

/-- The replies to a segment that are not partial. -/
def Segment.complete (segment : Segment) : List Reply :=
  (summary? segment.events).toList ++ [callReply segment.call]

/-- All replies to a segment. -/
def Segment.replies (segment : Segment) : List Reply :=
  (fragments segment.events).map partialReply ++ segment.complete

/-- Events are cut behind each one that completes the arguments of a call; the last events are
those behind the last cut. The arguments of the call are those that its event brings, else those
that its item has collected. -/
inductive Cut : List Event → List Segment → List Event → Prop
  | start : Cut [] [] []
  | event {events last : List Event} {segments : List Segment} {event : Event}
      (cut : Cut events segments last) (other : ∀ done, event ≠ .argumentsDone done) :
      Cut (events ++ [event]) segments (last ++ [event])
  | call {events last : List Event} {segments : List Segment} {done : Wire.DoneArguments}
      {arguments : Json.Fields} (cut : Cut events segments last)
      (read : callArguments (argumentText done (openText done.itemId events)) = .ok arguments) :
      Cut (events ++ [.argumentsDone done])
        (segments ++ [⟨last, ⟨some done.itemId, done.name, arguments⟩⟩]) []

/-- Events none of which fails can be cut. -/
theorem exists_cut {events : List Event} (faultless : Faultless events) :
    ∃ segments last, Cut events segments last := by
  induction events using List.reverseRecOn with
  | nil => exact ⟨[], [], .start⟩
  | append_singleton events event ih =>
      obtain ⟨faultless, made, succeeds⟩ := (faultless_concat_iff events event).mp faultless
      obtain ⟨segments, last, cut⟩ := ih faultless
      by_cases completes : ∃ done, event = .argumentsDone done
      · obtain ⟨done, rfl⟩ := completes
        rw [received_argumentsDone, textOf_openBehind] at succeeds
        obtain ⟨arguments, read, -⟩ := bind_eq_ok_iff.mp succeeds
        exact ⟨_, _, .call cut read⟩
      · exact ⟨_, _, .event cut fun done same => completes ⟨done, same⟩⟩

/-! ## What the aggregator holds -/

theorem fragments_append (first second : List Event) :
    fragments (first ++ second) = fragments first ++ fragments second := by
  simp only [fragments, List.filterMap_append, List.filter_append]

theorem toldIn_append (thought : Bool) (first second : List Event) :
    toldIn thought (first ++ second) = toldIn thought first ++ toldIn thought second := by
  simp only [toldIn, fragments_append, List.filter_append, List.map_append, String.join_append]

/-- What has been collected of a segment. -/
def heldBehind (events : List Event) : Accumulated where
  text := toldIn false events
  thought := toldIn true events

theorem parts_heldBehind (events : List Event) :
    (heldBehind events).parts = repeatedParts events := by
  cases thoughts : (toldIn true events).isEmpty <;> cases texts : (toldIn false events).isEmpty <;>
    simp [Accumulated.parts, heldBehind, repeatedParts, thoughts, texts, Part.ofText,
      Part.ofThought]

/-- What is held of a segment is repeated as a whole, and nothing is held then. -/
theorem flush_heldBehind (events : List Event) :
    (heldBehind events).flush = (summary? events, heldBehind []) := by
  unfold Accumulated.flush summary?
  rw [parts_heldBehind]
  cases repeated : repeatedParts events with
  | cons part parts => rfl
  | nil =>
      have silent : ∀ thought, toldIn thought events = "" := by
        rw [← parts_heldBehind] at repeated
        intro thought
        have said := Accumulated.saidIn_parts thought (heldBehind events)
        rw [repeated] at said
        cases thought <;> exact said.symm
      simp only [heldBehind, silent]
      rfl

/-- An event without a fragment adds nothing to what is held. -/
theorem heldBehind_concat_of_silent {event : Event} (silent : fragments [event] = [])
    (events : List Event) : heldBehind (events ++ [event]) = heldBehind events := by
  have nothing : ∀ thought, toldIn thought [event] = "" := by
    intro thought
    rw [toldIn, silent]
    rfl
  simp only [heldBehind, toldIn_append, nothing, String.append_empty]

/-- The fragment of an event is collected behind what is held. -/
theorem heldBehind_concat_of_fragment {event : Event} {passage : Passage}
    (brings : fragments [event] = [passage]) (events : List Event) :
    heldBehind (events ++ [event]) = (heldBehind events).append passage := by
  have told : ∀ thought,
      toldIn thought [event] = if passage.thought == thought then passage.text else "" := by
    intro thought
    rw [toldIn, brings]
    cases kind : passage.thought == thought <;> simp [kind]
  rcases passage with ⟨text, isThought⟩
  cases isThought <;> simp [heldBehind, toldIn_append, told, Accumulated.append]

/-- An event has one fragment or none. -/
theorem fragments_singleton (event : Event) :
    fragments [event] = [] ∨ ∃ passage, fragments [event] = [passage] := by
  cases spoken : spoken? event with
  | none => exact .inl (by simp [fragments, spoken])
  | some passage =>
      cases empty : passage.text.isEmpty with
      | true => exact .inl (by simp [fragments, spoken, empty])
      | false => exact .inr ⟨passage, by simp [fragments, spoken, empty]⟩

/-! ## Runs -/

/-- An event that does not complete a call makes a generation of its fragment, if it has one. -/
theorem made?_received {event : Event} (other : ∀ done, event ≠ .argumentsDone done)
    (collected : Inbound.OpenArguments) :
    (made? (received collected event).1).toList =
      (fragments [event]).map fun passage => .ofPart (.passage passage) := by
  have fragment : ∀ (delta : Wire.Delta) (thought : Bool),
      (Inbound.fragment? (fun text => .passage ⟨text, thought⟩) delta).toList =
        ([⟨delta.delta, thought⟩].filter fun passage : Passage => !passage.text.isEmpty).map
          fun passage => Generation.ofPart (.passage passage) := by
    intro delta thought
    cases empty : delta.delta.isEmpty <;> simp [Inbound.fragment?, empty]
  cases event with
  | argumentsDone done => exact absurd rfl (other done)
  | textDelta delta => exact fragment delta false
  | reasoningDelta delta => exact fragment delta true
  | summaryDelta delta => exact fragment delta true
  | _ => rfl

theorem add_passage (collected : Accumulated) (passage : Passage) :
    collected.add (.ofPart (.passage passage)) =
      ([partialReply passage], collected.append passage) := by
  rfl

theorem add_call (collected : Accumulated) (call : Call) :
    collected.add (.ofPart (.call call)) =
      (collected.flush.1.toList ++ [callReply call], collected.flush.2) := by
  rfl

/-- **Behind a cut** the aggregator has given the replies to the segments and the fragments of the
last one, and holds what the last one thinks and says. -/
theorem run_of_cut {events last : List Event} {segments : List Segment}
    (cut : Cut events segments last) :
    accumulating.run (generationsOf events) =
      (segments.flatMap Segment.replies ++ (fragments last).map partialReply,
        heldBehind last) := by
  induction cut with
  | start => rfl
  | @event events last segments event cut other ih =>
      rw [generationsOf_concat, made?_received other, fragments_append]
      rcases fragments_singleton event with silent | ⟨passage, brings⟩
      · rw [heldBehind_concat_of_silent silent, silent, List.map_nil, List.append_nil,
          List.append_nil, ih]
      · have added : accumulating.add (heldBehind last) (.ofPart (.passage passage)) =
            ([partialReply passage], (heldBehind last).append passage) := add_passage _ _
        rw [heldBehind_concat_of_fragment brings, brings, List.map_singleton,
          Aggregator.run_concat, ih]
        simp only [added, List.map_append, List.map_singleton, List.append_assoc]
        rfl
  | @call events last segments done arguments cut read ih =>
      have made : made? (received (openBehind events) (.argumentsDone done)).1 =
          some (.ofPart (.call ⟨some done.itemId, done.name, arguments⟩)) := by
        rw [received_argumentsDone, textOf_openBehind, completion, read]
        rfl
      have added : accumulating.add (heldBehind last)
          (.ofPart (.call ⟨some done.itemId, done.name, arguments⟩)) =
            ((summary? last).toList ++ [callReply ⟨some done.itemId, done.name, arguments⟩],
              heldBehind []) := by
        have called := add_call (heldBehind last) ⟨some done.itemId, done.name, arguments⟩
        rwa [flush_heldBehind] at called
      rw [generationsOf_concat, made, Option.toList_some, Aggregator.run_concat, ih]
      simp only [added, List.flatMap_append, List.flatMap_cons, List.flatMap_nil, Segment.replies,
        Segment.complete, List.append_nil, List.append_assoc]
      rfl

/-- A stream whose events do not fail gives the replies to its segments, the fragments of the last
one, and the reply that completes the turn. -/
theorem replies_of_cut {events last : List Event} {segments : List Segment}
    (faultless : Faultless events) (cut : Cut events segments last) :
    replies accumulating (events.map .ok) =
      (segments.flatMap Segment.replies ++ (fragments last).map partialReply ++
        (closing? last).toList).map .ok := by
  have closed : (accumulating.close (heldBehind last)).1 = closing? last := by
    have flushed := flush_heldBehind last
    simp only [accumulating, Accumulated.close, flushed, closing?]
  rw [(collect_of_course accumulating (.ends faultless)).1, itemsBy, Aggregator.outputs,
    run_of_cut cut, closed]

/-- The fragments of events are those of the segments and of the last events. -/
theorem fragments_of_cut {events last : List Event} {segments : List Segment}
    (cut : Cut events segments last) :
    fragments events = segments.flatMap (fun segment => fragments segment.events) ++
      fragments last := by
  induction cut with
  | start => rfl
  | event cut other ih => rw [fragments_append, fragments_append, ih, List.append_assoc]
  | @call events last segments done arguments cut read ih =>
      have silent : fragments [.argumentsDone done] = [] := rfl
      have nothing : fragments [] = [] := rfl
      simp only [fragments_append, silent, nothing, ih, List.append_nil, List.flatMap_append,
        List.flatMap_cons, List.flatMap_nil]

/-! ## Kinds of replies -/

/-- Something is thought, or said, exactly if there is a fragment of it. -/
theorem toldIn_ne_empty_iff (thought : Bool) (events : List Event) :
    toldIn thought events ≠ "" ↔ ∃ passage ∈ fragments events, passage.thought = thought := by
  rw [toldIn, Inbound.join_ne_empty_iff]
  simp only [List.mem_map, List.mem_filter, beq_iff_eq, exists_exists_and_eq_and]
  constructor
  · rintro ⟨passage, ⟨member, kind⟩, -⟩
    exact ⟨passage, member, kind⟩
  · rintro ⟨passage, member, kind⟩
    have nonempty : passage.text.isEmpty = false := by simpa using (List.mem_filter.mp member).2
    exact ⟨passage, ⟨member, kind⟩, by simpa using nonempty⟩

/-- A segment is repeated exactly if it has a fragment. -/
theorem summary?_eq_none_iff (events : List Event) :
    summary? events = none ↔ fragments events = [] := by
  have parts : summary? events = none ↔ ∀ thought, toldIn thought events = "" := by
    unfold summary?
    split
    case h_1 nothing =>
      simpa [repeatedParts, List.filter_eq_nil_iff, and_comm] using nothing
    case h_2 parts some =>
      simpa [repeatedParts, List.filter_eq_nil_iff, and_comm] using some
  rw [parts, List.eq_nil_iff_forall_not_mem]
  constructor
  · intro silent passage member
    exact (toldIn_ne_empty_iff passage.thought events).mpr ⟨passage, member, rfl⟩ (silent _)
  · intro silent thought
    by_contra told
    obtain ⟨passage, member, -⟩ := (toldIn_ne_empty_iff thought events).mp told
    exact silent passage member

theorem kind_of_mem_summary? {events : List Event} {reply : Reply}
    (summary : reply ∈ (summary? events).toList) :
    reply.isPartial = false ∧ reply.turnComplete = false := by
  unfold summary? at summary
  split at summary
  · cases summary
  · obtain rfl := List.mem_singleton.mp summary
    exact ⟨rfl, rfl⟩

/-- The replies that repeat a segment and tell its call are complete ones of an open turn. -/
theorem kind_of_mem_complete {segment : Segment} {reply : Reply}
    (member : reply ∈ segment.complete) :
    reply.isPartial = false ∧ reply.turnComplete = false := by
  rcases List.mem_append.mp member with summary | call
  · exact kind_of_mem_summary? summary
  · obtain rfl := List.mem_singleton.mp call
    exact ⟨rfl, rfl⟩

theorem kind_of_mem_closing? {events : List Event} {reply : Reply}
    (member : reply ∈ (closing? events).toList) :
    reply.isPartial = false ∧ reply.turnComplete = true := by
  obtain ⟨summary, isSummary, rfl⟩ := Option.map_eq_some_iff.mp (Option.mem_toList.mp member)
  exact ⟨(kind_of_mem_summary? (Option.mem_toList.mpr isSummary)).1, rfl⟩

/-- All replies, by the segments and the events behind them. -/
def repliesBy (segments : List Segment) (last : List Event) : List Reply :=
  segments.flatMap Segment.replies ++ (fragments last).map partialReply ++
    (closing? last).toList

theorem filter_of_forall {α : Type} {kind : α → Bool} {isKind : Bool} {things : List α}
    (same : ∀ thing ∈ things, kind thing = isKind) :
    things.filter kind = if isKind then things else [] := by
  cases isKind with
  | true => exact List.filter_eq_self.mpr same
  | false => exact List.filter_eq_nil_iff.mpr fun thing member => by simp [same thing member]

/-- A kind of reply that is told by the two flags is found among fragments, among complete replies
or in the reply that completes the turn, in each of them throughout or not at all. -/
theorem filter_repliesBy {kind : Reply → Bool} {ofFragments ofComplete ofClosing : Bool}
    (fragment : ∀ passage, kind (partialReply passage) = ofFragments)
    (complete : ∀ reply : Reply, reply.isPartial = false ∧ reply.turnComplete = false →
      kind reply = ofComplete)
    (closing : ∀ reply : Reply, reply.isPartial = false ∧ reply.turnComplete = true →
      kind reply = ofClosing)
    (segments : List Segment) (last : List Event) :
    (repliesBy segments last).filter kind =
      segments.flatMap (fun segment =>
        (if ofFragments then (fragments segment.events).map partialReply else []) ++
          if ofComplete then segment.complete else []) ++
      (if ofFragments then (fragments last).map partialReply else []) ++
      if ofClosing then (closing? last).toList else [] := by
  have picked (events : List Event) : ((fragments events).map partialReply).filter kind =
      if ofFragments then (fragments events).map partialReply else [] := by
    refine filter_of_forall fun reply member => ?_
    obtain ⟨passage, -, rfl⟩ := List.mem_map.mp member
    exact fragment passage
  have completed (segment : Segment) : segment.complete.filter kind =
      if ofComplete then segment.complete else [] :=
    filter_of_forall fun reply member => complete reply (kind_of_mem_complete member)
  have closed : (closing? last).toList.filter kind =
      if ofClosing then (closing? last).toList else [] :=
    filter_of_forall fun reply member => closing reply (kind_of_mem_closing? member)
  simp only [repliesBy, List.filter_append, List.filter_flatMap, Segment.replies, picked,
    completed, closed]

/-- **The replies of a stream, segment by segment.** Events none of which fails are cut behind each
completed call. The replies that are not partial are, for each segment, its thoughts as one part
and its text as one part, neither if empty and no reply if both are, and then its call; at the end
comes the same for the events behind the last call, which completes the turn. The partial
replies are the fragments that are not empty, in order, each before the reply that repeats it. No
other reply completes the turn, and there is one that does exactly if a fragment that is not empty
stands behind the last call. -/
theorem replies_by_segments {events : List Event} (faultless : Faultless events) :
    ∃ segments last, Cut events segments last ∧
      replies accumulating (events.map .ok) = (repliesBy segments last).map .ok ∧
      (repliesBy segments last).filter (!·.isPartial) =
        segments.flatMap (fun segment =>
          (summary? segment.events).toList ++ [callReply segment.call]) ++
        (closing? last).toList ∧
      (repliesBy segments last).filter (·.isPartial) = (fragments events).map partialReply ∧
      (repliesBy segments last).filter (·.turnComplete) = (closing? last).toList ∧
      (closing? last).toList <:+ repliesBy segments last ∧
      (closing? last ≠ none ↔ fragments last ≠ []) := by
  obtain ⟨segments, last, cut⟩ := exists_cut faultless
  refine ⟨segments, last, cut, replies_of_cut faultless cut, ?_, ?_, ?_, ?_, ?_⟩
  · rw [@filter_repliesBy (!·.isPartial) false true true (fun _ => rfl)
      (fun _ kind => by rw [kind.1, Bool.not_false]) (fun _ kind => by rw [kind.1, Bool.not_false])]
    simp only [Bool.false_eq_true, if_false, if_true, List.nil_append, List.append_nil,
      Segment.complete]
  · rw [@filter_repliesBy (·.isPartial) true false false (fun _ => rfl) (fun _ kind => kind.1)
      (fun _ kind => kind.1), fragments_of_cut cut]
    simp only [Bool.false_eq_true, if_false, if_true, List.append_nil, List.map_append,
      List.map_flatMap]
  · rw [@filter_repliesBy (·.turnComplete) false false true (fun _ => rfl) (fun _ kind => kind.2)
      (fun _ kind => kind.2)]
    simp
  · exact List.suffix_append _ _
  · rw [closing?, ne_eq, Option.map_eq_none_iff, summary?_eq_none_iff]

/-- A thought and a text, a call whose arguments come in two fragments, and a text behind it. -/
def calledEvents : List Event :=
  [.reasoningDelta ⟨"", 0, "Look"⟩, .textDelta ⟨"", 0, ""⟩, .textDelta ⟨"", 0, "One"⟩,
    .argumentsDelta ⟨"item", 0, "\x7b\"at\""⟩, .summaryDelta ⟨"", 0, "up"⟩,
    .argumentsDelta ⟨"item", 0, ":1\x7d"⟩, .argumentsDone ⟨"item", 0, "find", ""⟩, .unknown,
    .textDelta ⟨"", 0, "Two"⟩]

theorem replies_by_segments_called :
    Faultless calledEvents ∧
      ∃ segments last, Cut calledEvents segments last ∧
        replies accumulating (calledEvents.map .ok) = (repliesBy segments last).map .ok ∧
        (repliesBy segments last).filter (!·.isPartial) =
          segments.flatMap (fun segment =>
            (summary? segment.events).toList ++ [callReply segment.call]) ++
          (closing? last).toList ∧
        (repliesBy segments last).filter (·.isPartial) =
          [⟨"Look", true⟩, ⟨"One", false⟩, ⟨"up", true⟩, ⟨"Two", false⟩].map partialReply ∧
        (repliesBy segments last).filter (·.turnComplete) = (closing? last).toList ∧
        (closing? last).toList <:+ repliesBy segments last ∧
        (closing? last ≠ none ↔ fragments last ≠ []) := by
  have received : (Inbound.outcomes calledEvents).all (·.toBool) = true := by decide +kernel
  have faultless : Faultless calledEvents := by
    intro failure member
    have succeeds := List.all_eq_true.mp received _ member
    cases succeeds
  exact ⟨faultless, replies_by_segments faultless⟩

end ResponsesBridge.Stream
