import ResponsesBridge.Proofs.Inbound.Agreement
import ResponsesBridge.Proofs.Stream.Course
import ResponsesBridge.Proofs.Wire.NewMembers

/-!
# Payloads that say nothing

A stream carries payloads that are there for other readers: blank ones, the mark for the end, events
that repeat what has been said in fragments or tell how far the response has come, events of unknown
kinds, and fragments of no text (`Ignorable`). With such payloads put in anywhere (`Padded`), between
the fragments of a text, between those of open arguments, around a failure, a stream gives the same
items (`padding_unheard`).

A payload is ignorable because of what it says alone. Whatever has been collected, its event makes
nothing and leaves the collected arguments as they are (`SaysNothing.received`); so it can be taken
out of any source, wherever it stands (`replies_insert_silent`).
-/

set_option autoImplicit false

namespace ResponsesBridge.Stream

open Inbound (event? eventOf received)
open Wire (Delta Event)

/-- An event says nothing that the other events do not say. -/
inductive SaysNothing : Event → Prop
  /-- It completes a text, tells about the response or an item, or is of an unknown kind. -/
  | informs {event : Event} (only : Inbound.informs event = true) : SaysNothing event
  /-- It adds an empty fragment to a text or to arguments. -/
  | fragment {kind : Delta → Event} {delta : Delta}
      (isFragment : kind ∈ [.textDelta, .reasoningDelta, .summaryDelta, .argumentsDelta])
      (empty : delta.delta = "") : SaysNothing (kind delta)

/-- A payload is blank or the mark for the end, or its event says nothing. -/
def Ignorable (payload : String) : Prop :=
  (Text.trim payload = "" ∨ Text.trim payload = Inbound.endMark) ∨
    ∃ event, eventOf (Text.trim payload) = .ok event ∧ SaysNothing event

/-- The second list is the first one with ignorable payloads put in anywhere. -/
inductive Padded : List String → List String → Prop
  | done : Padded [] []
  | kept {payloads longer : List String} (payload : String) (later : Padded payloads longer) :
      Padded (payload :: payloads) (payload :: longer)
  | inserted {payloads longer : List String} {payload : String} (ignorable : Ignorable payload)
      (later : Padded payloads longer) : Padded payloads (payload :: longer)

/-! ## One payload -/

/-- **Step.** An event that says nothing makes nothing, and leaves what has been collected as it is. -/
theorem SaysNothing.received {event : Event} (silent : SaysNothing event)
    (collected : Inbound.OpenArguments) :
    Inbound.received collected event = (.ok none, collected) := by
  cases silent with
  | informs only => exact Inbound.received_of_informs only collected
  | @fragment kind delta isFragment empty =>
      have isEmpty : delta.delta.isEmpty = true := String.isEmpty_iff.mpr empty
      have noText (make : String → Conversation.Part) : Inbound.fragment? make delta = none :=
        if_pos isEmpty
      have unchanged : collected.append delta = collected := if_pos isEmpty
      simp only [List.mem_cons, List.not_mem_nil, or_false] at isFragment
      rcases isFragment with rfl | rfl | rfl | rfl
      all_goals simp only [Inbound.received, noText, unchanged]

/-- An ignorable payload carries no event, or one that says nothing. -/
theorem Ignorable.event? {payload : String} (ignorable : Ignorable payload) :
    Inbound.event? payload = none ∨
      ∃ event, Inbound.event? payload = some (.ok event) ∧ SaysNothing event := by
  by_cases carriesNone : Inbound.event? payload = none
  · exact .inl carriesNone
  · right
    rcases ignorable with empty | ⟨event, reads, silent⟩
    · exact absurd ((Inbound.event?_eq_none_iff payload).mpr empty) carriesNone
    · refine ⟨event, ?_, silent⟩
      simp only [Inbound.event?, ite_eq_left_iff, reduceCtorEq, imp_false] at carriesNone ⊢
      rw [if_neg (by simpa using carriesNone), reads]

/-! ## All payloads -/

/-- Behind any beginning of a source, padding its payloads changes no item. -/
theorem replies_append_padded (aggregator : Aggregator) {payloads longer : List String}
    (padded : Padded payloads longer) (before after : List (Except Failure Event)) :
    replies aggregator (before ++ (longer.filterMap event? ++ after)) =
      replies aggregator (before ++ (payloads.filterMap event? ++ after)) := by
  -- the payloads that are kept move into `before`
  induction padded generalizing before with
  | done => rfl
  | kept payload later ih =>
      cases carried : event? payload with
      | none =>
          rw [List.filterMap_cons_none carried, List.filterMap_cons_none carried]
          exact ih before
      | some item =>
          have moved := ih (before ++ [item])
          rw [List.append_assoc, List.append_assoc] at moved
          rw [List.filterMap_cons_some carried, List.filterMap_cons_some carried]
          exact moved
  | inserted ignorable later ih =>
      rcases ignorable.event? with nothing | ⟨event, carried, silent⟩
      · rw [List.filterMap_cons_none nothing]
        exact ih before
      · rw [List.filterMap_cons_some carried, List.cons_append,
          replies_insert_silent aggregator silent.received]
        exact ih before

/-- **Ignorable payloads go unheard.** For every aggregator and every list of payloads, whether or not
the stream breaks off behind them, the items are the same with ignorable payloads put in anywhere: the
same replies in the same order, and the same failure at the end if there is one. -/
theorem padding_unheard (aggregator : Aggregator) {payloads longer : List String}
    (padded : Padded payloads longer) (interruption : Option Http.Interruption) :
    replies aggregator (Service.events longer interruption) =
      replies aggregator (Service.events payloads interruption) :=
  replies_append_padded aggregator padded [] _

/-- The payload of an event. -/
def payloadOf (event : Event) : String :=
  (Event.codec.write event).toText

/-- Arguments that begin like an array and are completed. -/
def brokenCall : List String :=
  [payloadOf (.argumentsDelta { itemId := "a", delta := "[" }),
    payloadOf (.argumentsDone { itemId := "a", name := "find" })]

/-- The same arguments among payloads that say nothing. -/
def paddedCall : List String :=
  [" \n", payloadOf (.argumentsDelta { itemId := "a", delta := "[" }),
    payloadOf (.argumentsDelta { itemId := "a" }), payloadOf (.created {}), " [DONE]",
    payloadOf (.argumentsDone { itemId := "a", name := "find" }), payloadOf .unknown]

/-- A payload without blanks around it that is read as an event which says nothing. -/
theorem ignorable_payloadOf {event : Event}
    (bare : Text.trimEnd (Text.trimStart (Event.codec.write event).write) =
      (Event.codec.write event).write)
    (reads : eventOf (payloadOf event) = .ok event) (silent : SaysNothing event) :
    Ignorable (payloadOf event) := by
  have trimmed : Text.trim (payloadOf event) = payloadOf event := by
    rw [Text.trim, payloadOf, Json.Value.toText, String.toList_ofList, bare]
  exact .inr ⟨event, by rw [trimmed, reads], silent⟩

theorem padding_unheard_broken :
    Padded brokenCall paddedCall ∧
      replies accumulating (Service.events paddedCall none) =
        replies accumulating (Service.events brokenCall none) := by
  have emptyFragment : Ignorable (payloadOf (.argumentsDelta { itemId := "a" })) :=
    ignorable_payloadOf rfl
      (Wire.eventOf_eq_ok_iff.mpr (Json.readText_toText (by decide) (by decide) _))
      (.fragment (by simp) rfl)
  have created : Ignorable (payloadOf (.created {})) :=
    ignorable_payloadOf rfl
      (Wire.eventOf_eq_ok_iff.mpr (Json.readText_toText (by decide) (by decide) _))
      (.informs rfl)
  have unknown : Ignorable (payloadOf .unknown) :=
    ignorable_payloadOf rfl
      (Wire.eventOf_eq_ok_iff.mpr (Json.readText_toText (by decide) (by decide) _))
      (.informs rfl)
  have blank : Ignorable " \n" := .inl (.inl (by decide))
  have ending : Ignorable " [DONE]" := .inl (.inr (by decide))
  have padded : Padded brokenCall paddedCall :=
    .inserted blank (.kept _ (.inserted emptyFragment (.inserted created (.inserted ending
      (.kept _ (.inserted unknown .done))))))
  exact ⟨padded, padding_unheard accumulating padded none⟩

end ResponsesBridge.Stream
