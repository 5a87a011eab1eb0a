import ResponsesBridge.Inbound.Response

/-!
# The parts of a whole output

An item becomes its call, or passages (`itemParts_cases`). So the parts of an output are passages
and calls, and the calls among them are those of its items, in order, under their ids and names
(`callParts_of_outputParts`).
-/

set_option autoImplicit false

namespace ResponsesBridge.Inbound

open Conversation (Generation Part)
open Wire (OutputContent OutputItem Response)

/-- The items of an output that are calls, in order. -/
def callItems (items : List OutputItem) : List OutputItem :=
  items.filter fun item => item.type == "function_call"

theorem callItems_cons (item : OutputItem) (items : List OutputItem) :
    callItems (item :: items) = callItems [item] ++ callItems items := by
  simp only [callItems, List.filter_cons, List.filter_nil]
  split <;> rfl

/-- The parts of output items are those of the first one and those of the others. -/
theorem outputParts_cons_eq_ok_iff {item : OutputItem} {items : List OutputItem}
    {parts : List Part} :
    outputParts (item :: items) = .ok parts ↔
      ∃ first, itemParts item = .ok first ∧
        ∃ later, outputParts items = .ok later ∧ first ++ later = parts := by
  simp only [outputParts, bind_eq_ok_iff, pure, Except.pure, Except.ok.injEq]

/-- The parts of a generation are those of the output, in one turn of the model. -/
theorem candidates_of_generation {response : Response} {made : Generation}
    (whole : generation response = .ok made) :
    ∃ parts, outputParts response.output = .ok parts ∧
      made.candidates.map (fun candidate => candidate.turn) =
        [⟨Conversation.modelRole, parts⟩] := by
  simp only [generation, usableParts, bind_eq_ok_iff, pure, Except.pure, Except.ok.injEq] at whole
  obtain ⟨parts, usable, rfl⟩ := whole
  refine ⟨parts, ?_, rfl⟩
  split at usable
  · cases usable
  · obtain ⟨found, isFound, usable⟩ := bind_eq_ok_iff.mp usable
    split at usable
    · cases usable
    · cases usable
      exact isFound

/-! ## The parts of one item -/

/-- All parts are passages. -/
def AllPassages (parts : List Part) : Prop :=
  ∀ part ∈ parts, ∃ passage, part = .passage passage

theorem AllPassages.append {first second : List Part} (one : AllPassages first)
    (other : AllPassages second) : AllPassages (first ++ second) := by
  intro part member
  exact (List.mem_append.mp member).elim (one part) (other part)

theorem allPassages_messageParts {entry : OutputContent} {parts : List Part}
    (converted : messageParts entry = .ok parts) : AllPassages parts := by
  unfold messageParts at converted
  split at converted
  · cases converted
    split
    · exact fun _ member => absurd member List.not_mem_nil
    · exact fun _ member => ⟨_, List.mem_singleton.mp member⟩
  · split at converted
    · cases converted
      exact fun _ member => ⟨_, List.mem_singleton.mp member⟩
    · cases converted

theorem allPassages_entryParts {entries : List OutputContent} {parts : List Part}
    (converted : entryParts entries = .ok parts) : AllPassages parts := by
  induction entries generalizing parts with
  | nil =>
      cases converted
      exact fun _ member => absurd member List.not_mem_nil
  | cons entry entries ih =>
      simp only [entryParts, bind_eq_ok_iff, pure, Except.pure, Except.ok.injEq] at converted
      obtain ⟨first, here, later, rest, rfl⟩ := converted
      exact (allPassages_messageParts here).append (ih rest)

theorem allPassages_thoughts (item : OutputItem) : AllPassages (thoughts item) := by
  intro part member
  obtain ⟨entry, -, rfl⟩ := List.mem_map.mp member
  exact ⟨_, rfl⟩

/-- An item becomes its call, or passages if it is none. -/
theorem itemParts_cases {item : OutputItem} {parts : List Part}
    (converted : itemParts item = .ok parts) :
    (item.type = "function_call" ∧ ∃ arguments, callArguments item.arguments = .ok arguments ∧
        parts = [.call ⟨some item.callId, item.name, arguments⟩]) ∨
      item.type ≠ "function_call" ∧ AllPassages parts := by
  unfold itemParts at converted
  split at converted
  · rename_i isMessage
    exact .inr ⟨by simp [isMessage], allPassages_entryParts converted⟩
  · split at converted
    · rename_i isCall
      obtain ⟨arguments, read, same⟩ := bind_eq_ok_iff.mp converted
      exact .inl ⟨isCall, arguments, read, (Except.ok.inj same).symm⟩
    · rename_i notCall
      split at converted
      · cases converted
        exact .inr ⟨notCall, allPassages_thoughts item⟩
      · cases converted

/-! ## Calls -/

/-- The calls among parts, in order. -/
def callParts (parts : List Part) : List Conversation.Call :=
  parts.filterMap Part.call?

theorem AllPassages.callParts_eq_nil {parts : List Part} (passages : AllPassages parts) :
    callParts parts = [] := by
  refine List.filterMap_eq_nil_iff.mpr fun part member => ?_
  obtain ⟨passage, rfl⟩ := passages part member
  rfl

/-- The calls of an item are the item, if it is a call. -/
theorem callParts_of_itemParts {item : OutputItem} {parts : List Part}
    (converted : itemParts item = .ok parts) :
    (callParts parts).map (fun call => (call.id, call.name)) =
      (callItems [item]).map fun item => (some item.callId, item.name) := by
  rcases itemParts_cases converted with ⟨isCall, arguments, -, rfl⟩ | ⟨notCall, passages⟩
  · simp [callItems, isCall, callParts, Part.call?]
  · simp [callItems, notCall, passages.callParts_eq_nil]

/-- **The calls of an output** are those of its items. -/
theorem callParts_of_outputParts {items : List OutputItem} {parts : List Part}
    (converted : outputParts items = .ok parts) :
    (callParts parts).map (fun call => (call.id, call.name)) =
      (callItems items).map fun item => (some item.callId, item.name) := by
  induction items generalizing parts with
  | nil =>
      cases converted
      rfl
  | cons item items ih =>
      obtain ⟨first, here, later, rest, rfl⟩ := outputParts_cons_eq_ok_iff.mp converted
      rw [callItems_cons, List.map_append, ← callParts_of_itemParts here, ← ih rest, callParts,
        List.filterMap_append, List.map_append]
      rfl

/-- The ids of the calls of an output are those of its items. -/
theorem ids_of_outputParts {items : List OutputItem} {parts : List Part}
    (converted : outputParts items = .ok parts) :
    (callParts parts).map (fun call => call.id) =
      (callItems items).map fun item => some item.callId := by
  have ids := congrArg (List.map Prod.fst) (callParts_of_outputParts converted)
  rwa [List.map_map, List.map_map] at ids

/-- The parts of an output are passages and calls. -/
theorem passage_or_call_of_outputParts {items : List OutputItem} {parts : List Part}
    (converted : outputParts items = .ok parts) :
    ∀ part ∈ parts, (∃ passage, part = .passage passage) ∨ ∃ call, part = .call call := by
  induction items generalizing parts with
  | nil =>
      cases converted
      exact fun _ member => absurd member List.not_mem_nil
  | cons item items ih =>
      obtain ⟨first, here, later, rest, rfl⟩ := outputParts_cons_eq_ok_iff.mp converted
      intro part member
      rcases List.mem_append.mp member with inFirst | inLater
      · rcases itemParts_cases here with ⟨-, arguments, -, rfl⟩ | ⟨-, passages⟩
        · exact .inr ⟨_, List.mem_singleton.mp inFirst⟩
        · exact .inl (passages part inFirst)
      · exact ih rest part inLater

end ResponsesBridge.Inbound
