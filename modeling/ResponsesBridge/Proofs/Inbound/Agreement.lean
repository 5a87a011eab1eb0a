import ResponsesBridge.Proofs.Inbound.OpenCalls
import ResponsesBridge.Proofs.Inbound.Output
import ResponsesBridge.Proofs.Outbound.Arguments
import ResponsesBridge.Proofs.Stream.Conservation

/-!
# A streamed response and the whole one

The output of a response can be sent as a whole or in fragments (`Streamed`): each text in pieces,
and the arguments of each call in pieces that belong to its item, followed by the event that
completes them; events that only inform may stand anywhere. Both readings give the same parts up to
the places where texts are cut, and up to the ids of calls: in a stream a call has the id of its
item (`streamed_parts_agree`).

Texts are compared after neighbouring passages of one kind have been merged (`merged`). Merging
goes along with appending (`SameMerged.append`), so items are compared one by one. Between
items no arguments are open (`Vacant`), which is what a call needs and leaves behind.
-/

set_option autoImplicit false

namespace ResponsesBridge.Inbound

open Conversation (Generation Part Passage)
open ResponsesBridge.Stream (generatedParts)
open ResponsesBridge.Stream.Accumulated (firstParts)
open Wire (Event Delta DoneArguments OutputContent OutputItem Response)

/-! ## Merged passages -/

/-- A part in front of others; a passage is merged with a passage of its kind behind it. -/
def mergePart : Part → List Part → List Part
  | .passage first, .passage second :: parts =>
    if first.thought = second.thought then
      .passage ⟨first.text ++ second.text, second.thought⟩ :: parts
    else .passage first :: .passage second :: parts
  | part, parts => part :: parts

/-- Parts with neighbouring passages of one kind merged. -/
def merged (parts : List Part) : List Part :=
  parts.foldr mergePart []

/-- The parts of a text: none if it is empty. -/
def textParts (thought : Bool) (text : String) : List Part :=
  if text.isEmpty then [] else [.passage ⟨text, thought⟩]

theorem mergePart_mergePart (first second : String) (thought : Bool) (parts : List Part) :
    mergePart (.passage ⟨first, thought⟩) (mergePart (.passage ⟨second, thought⟩) parts) =
      mergePart (.passage ⟨first ++ second, thought⟩) parts := by
  rcases parts with _ | ⟨part, parts⟩
  · simp [mergePart]
  · cases part with
    | passage third =>
        by_cases same : thought = third.thought
        · simp [mergePart, same, String.append_assoc]
        · simp [mergePart, same]
    | _ => simp [mergePart]

theorem mergePart_of_same (first second : String) (thought : Bool) (parts : List Part) :
    mergePart (.passage ⟨first, thought⟩) (.passage ⟨second, thought⟩ :: parts) =
      .passage ⟨first ++ second, thought⟩ :: parts :=
  if_pos rfl

theorem mergePart_of_ne {first second : Passage} (different : first.thought ≠ second.thought)
    (parts : List Part) :
    mergePart (.passage first) (.passage second :: parts) =
      .passage first :: .passage second :: parts :=
  if_neg different

/-- Parts that have been merged are merged with later parts as before. -/
theorem foldr_mergePart (part : Part) (parts later : List Part) :
    (mergePart part parts).foldr mergePart later =
      mergePart part (parts.foldr mergePart later) := by
  cases part with
  | passage first =>
      rcases parts with _ | ⟨part, parts⟩
      · rfl
      · cases part with
        | passage second =>
            by_cases same : first.thought = second.thought
            · obtain ⟨first, thought⟩ := first
              obtain ⟨second, thought'⟩ := second
              obtain rfl : thought = thought' := same
              rw [mergePart_of_same, List.foldr_cons, List.foldr_cons, mergePart_mergePart]
            · rw [mergePart_of_ne same, List.foldr_cons]
        | _ => rfl
  | _ => rfl

theorem foldr_merged (parts later : List Part) :
    (merged parts).foldr mergePart later = parts.foldr mergePart later := by
  induction parts with
  | nil => rfl
  | cons part parts ih =>
      have step : merged (part :: parts) = mergePart part (merged parts) := rfl
      rw [step, foldr_mergePart, ih, List.foldr_cons]

/-- Two lists of parts are one list up to the places where texts are cut. -/
def SameMerged (left right : List Part) : Prop :=
  merged left = merged right

theorem SameMerged.append {left left' right right' : List Part} (first : SameMerged left left')
    (second : SameMerged right right') : SameMerged (left ++ right) (left' ++ right') := by
  unfold SameMerged at *
  have split : ∀ front back,
      merged (front ++ back) = (merged front).foldr mergePart (merged back) := by
    intro front back
    rw [foldr_merged, merged, List.foldr_append, ← merged]
  rw [split, split, first, second]

/-- A text can be cut anywhere. -/
theorem sameMerged_textParts_append (thought : Bool) (first second : String) :
    SameMerged (textParts thought first ++ textParts thought second)
      (textParts thought (first ++ second)) := by
  by_cases empty : first = ""
  · simp [textParts, empty, SameMerged]
  · by_cases empty' : second = "" <;>
      simp [textParts, empty, empty', SameMerged, merged, mergePart]

theorem sameMerged_join (thought : Bool) (fragments : List String) :
    SameMerged (fragments.flatMap (textParts thought))
      (textParts thought (String.join fragments)) := by
  induction fragments with
  | nil => rfl
  | cons fragment fragments ih =>
      rw [List.flatMap_cons, String.join_cons]
      have first : SameMerged (textParts thought fragment) (textParts thought fragment) := rfl
      exact (first.append ih).trans (sameMerged_textParts_append thought fragment _)

/-! ## Streamed output -/

/-- Whether an event only informs: it neither brings anything nor reports a failure. -/
def informs : Event → Bool
  | .textDone _ | .reasoningDone _ | .summaryDone _ | .created _ | .inProgress _ | .completed _
  | .itemAdded _ | .itemDone _ | .unknown => true
  | .textDelta _ | .reasoningDelta _ | .summaryDelta _ | .argumentsDelta _ | .argumentsDone _
  | .failed _ | .error _ => false

/-- The text of fragments. -/
def joined (fragments : List Delta) : String :=
  String.join (fragments.map fun fragment => fragment.delta)

/-- Fragments of one kind bring the texts of entries, one after the other. -/
inductive EntriesStreamed (kind : Delta → Event) : List OutputContent → List Event → Prop
  | done : EntriesStreamed kind [] []
  | entry {entry : OutputContent} {entries : List OutputContent} {events : List Event}
      (fragments : List Delta) (whole : joined fragments = entry.text)
      (later : EntriesStreamed kind entries events) :
      EntriesStreamed kind (entry :: entries) (fragments.map kind ++ events)

/-- Events bring an output item. -/
inductive ItemStreamed (item : OutputItem) : List Event → Prop
  /-- The texts of a message. -/
  | message {events : List Event} (isMessage : item.type = "message")
      (onlyText : ∀ entry ∈ item.content, entry.type = "output_text")
      (content : EntriesStreamed .textDelta item.content events) : ItemStreamed item events
  /-- The texts of reasoning and of its summary. -/
  | reasoning {events later : List Event} (isReasoning : item.type = "reasoning")
      (content : EntriesStreamed .reasoningDelta item.content events)
      (summary : EntriesStreamed .summaryDelta item.summary later) :
      ItemStreamed item (events ++ later)
  /-- The arguments of a call, which may be repeated when they are complete. -/
  | call {fragments : List Delta} {done : DoneArguments} (isCall : item.type = "function_call")
      (ofItem : ∀ fragment ∈ fragments, fragment.itemId = item.id)
      (whole : joined fragments = item.arguments) (doneItem : done.itemId = item.id)
      (name : done.name = item.name)
      (arguments : done.arguments = item.arguments ∨ done.arguments = "") :
      ItemStreamed item (fragments.map .argumentsDelta ++ [.argumentsDone done])

/-- Events bring output items, one after the other. -/
inductive ItemsStreamed : List OutputItem → List Event → Prop
  | done : ItemsStreamed [] []
  | item {item : OutputItem} {items : List OutputItem} {events later : List Event}
      (first : ItemStreamed item events) (rest : ItemsStreamed items later) :
      ItemsStreamed (item :: items) (events ++ later)

/-- Events bring output items, with events that only inform anywhere among them. -/
def Streamed (items : List OutputItem) (events : List Event) : Prop :=
  ItemsStreamed items (events.filter fun event => !informs event)

/-! ## Parts of a stream -/

/-- Events that do not fail bring parts, and take the open arguments from one state to another. -/
inductive Brings : OpenArguments → List Event → List Part → OpenArguments → Prop
  | done {collected : OpenArguments} : Brings collected [] [] collected
  | event {collected between last : OpenArguments} {event : Event} {made : Option Generation}
      {events : List Event} {parts : List Part}
      (succeeds : received collected event = (.ok made, between))
      (later : Brings between events parts last) :
      Brings collected (event :: events) (made.toList.flatMap firstParts ++ parts) last

theorem Brings.append {collected between last : OpenArguments} {first second : List Event}
    {parts later : List Part} (one : Brings collected first parts between)
    (other : Brings between second later last) :
    Brings collected (first ++ second) (parts ++ later) last := by
  induction one with
  | done => exact other
  | event succeeds _ ih =>
      rw [List.append_assoc]
      exact .event succeeds (ih other)

/-- What events bring is what their outcomes say. -/
theorem Brings.receiveAll {collected last : OpenArguments} {events : List Event}
    {parts : List Part} (brings : Brings collected events parts last) :
    (∀ failure, .error failure ∉ (receiveAll collected events).1) ∧
      generatedParts ((receiveAll collected events).1.filterMap made?) = parts := by
  induction brings with
  | done => exact ⟨fun _ => List.not_mem_nil, rfl⟩
  | @event _ _ _ _ made _ _ succeeds _ ih =>
      obtain ⟨noFailure, generated⟩ := ih
      simp only [Inbound.receiveAll, succeeds]
      refine ⟨fun failure => by simpa using noFailure failure, ?_⟩
      rw [← generated]
      cases made <;> simp [generatedParts, List.filterMap_cons, made?]

theorem received_of_informs {event : Event} (silent : informs event = true)
    (collected : OpenArguments) : received collected event = (.ok none, collected) := by
  cases event <;> first | rfl | cases silent

/-- Events that only inform bring nothing and change nothing. -/
theorem Brings.of_filter {collected last : OpenArguments} {events : List Event}
    {parts : List Part}
    (brings : Brings collected (events.filter fun event => !informs event) parts last) :
    Brings collected events parts last := by
  induction events generalizing collected parts with
  | nil => exact brings
  | cons event events ih =>
      cases silent : informs event with
      | true =>
          rw [List.filter_cons_of_neg (by simp [silent])] at brings
          exact .event (received_of_informs silent collected) (ih brings)
      | false =>
          rw [List.filter_cons_of_pos (by simp [silent])] at brings
          cases brings with
          | event succeeds later => exact .event succeeds (ih later)

/-! ## Texts -/

/-- Events of a kind pass the texts of their fragments on as passages, thoughts or not. -/
def PassesOn (kind : Delta → Event) (thought : Bool) : Prop :=
  ∀ collected fragment, received collected (kind fragment) =
    (.ok (fragment? (fun text => .passage ⟨text, thought⟩) fragment), collected)

theorem passesOn_textDelta : PassesOn .textDelta false := fun _ _ => rfl

theorem passesOn_reasoningDelta : PassesOn .reasoningDelta true := fun _ _ => rfl

theorem passesOn_summaryDelta : PassesOn .summaryDelta true := fun _ _ => rfl

section Texts

variable {kind : Delta → Event} {thought : Bool}

theorem brings_fragments (passesOn : PassesOn kind thought) (collected : OpenArguments)
    (fragments : List Delta) :
    Brings collected (fragments.map kind)
      ((fragments.map fun fragment => fragment.delta).flatMap (textParts thought)) collected := by
  induction fragments with
  | nil => exact .done
  | cons fragment fragments ih =>
      have step := Brings.event (passesOn collected fragment) ih
      have parts : (fragment? (fun text => .passage ⟨text, thought⟩) fragment).toList.flatMap
          firstParts = textParts thought fragment.delta := by
        unfold fragment? textParts
        split <;> rfl
      rw [parts] at step
      exact step

/-- What the fragments of entries bring is the texts of the entries, cut in some way. -/
theorem brings_entries (passesOn : PassesOn kind thought) (collected : OpenArguments)
    {entries : List OutputContent} {events : List Event}
    (streamed : EntriesStreamed kind entries events) :
    ∃ parts, Brings collected events parts collected ∧
      SameMerged parts (entries.flatMap fun entry => textParts thought entry.text) := by
  induction streamed with
  | done => exact ⟨[], .done, rfl⟩
  | @entry entry entries events fragments whole _ ih =>
      obtain ⟨parts, brings, same⟩ := ih
      refine ⟨_, (brings_fragments passesOn collected fragments).append brings, ?_⟩
      rw [List.flatMap_cons, ← whole, joined]
      exact (sameMerged_join thought _).append same

end Texts

/-! ## Calls -/

/-- No arguments are open. -/
def Vacant (collected : OpenArguments) : Prop :=
  ∀ item, collected.find? item = none

theorem vacant_empty : Vacant .empty := fun _ => rfl

/-- The fragments of an item bring nothing; they are collected under the item. -/
theorem brings_argumentFragments {item : String} {fragments : List Delta}
    (ofItem : ∀ fragment ∈ fragments, fragment.itemId = item) {collected : OpenArguments}
    {text : String}
    (holds : ∀ other, collected.find? other = kept? (if item = other then text else "")) :
    ∃ last, Brings collected (fragments.map .argumentsDelta) [] last ∧
      ∀ other,
        last.find? other = kept? (if item = other then text ++ joined fragments else "") := by
  induction fragments generalizing collected text with
  | nil => exact ⟨collected, .done, by simpa [joined] using holds⟩
  | cons fragment fragments ih =>
      have here : fragment.itemId = item := ofItem fragment (List.mem_cons_self ..)
      have appended : ∀ other, (collected.append fragment).find? other =
          kept? (if item = other then text ++ fragment.delta else "") := by
        intro other
        rw [find?_append (holds other), here]
        by_cases same : item = other <;> simp [same]
      obtain ⟨last, brings, collects⟩ :=
        ih (fun later member => ofItem later (List.mem_cons_of_mem _ member)) appended
      have step : received collected (.argumentsDelta fragment) =
          (.ok none, collected.append fragment) := rfl
      refine ⟨last, .event step brings, ?_⟩
      simpa [joined, String.append_assoc] using collects

/-- The arguments that are repeated or left out are those that were collected. -/
theorem callArguments_firstArguments {text repeated : String}
    (arguments : repeated = text ∨ repeated = "") :
    callArguments (firstArguments [repeated, text]) = callArguments text := by
  by_cases empty : text = ""
  · subst empty
    obtain rfl : repeated = "" := arguments.elim id id
    rfl
  · rcases arguments with rfl | rfl <;> simp [firstArguments, empty]

/-- A call brings its part, under the id of its item, and leaves nothing open. -/
theorem brings_call {item : OutputItem} {fragments : List Delta} {done : DoneArguments}
    (ofItem : ∀ fragment ∈ fragments, fragment.itemId = item.id)
    (whole : joined fragments = item.arguments) (doneItem : done.itemId = item.id)
    (name : done.name = item.name)
    (repeated : done.arguments = item.arguments ∨ done.arguments = "")
    {arguments : Json.Fields} (read : callArguments item.arguments = .ok arguments)
    {collected : OpenArguments} (vacant : Vacant collected) :
    ∃ last, Brings collected (fragments.map .argumentsDelta ++ [.argumentsDone done])
        [.call ⟨some item.id, item.name, arguments⟩] last ∧ Vacant last := by
  have nothing : ∀ other, collected.find? other = kept? (if item.id = other then "" else "") := by
    intro other
    rw [vacant other, ite_self]
    rfl
  obtain ⟨between, brings, collects⟩ := brings_argumentFragments ofItem nothing
  have text : between.textOf item.id = item.arguments := by
    rw [OpenArguments.textOf, collects, if_pos rfl, getD_kept?, String.empty_append, whole]
  have completed : received between (.argumentsDone done) =
      (.ok (some (.ofPart (.call ⟨some item.id, item.name, arguments⟩))),
        Dictionary.erase done.itemId between) := by
    simp only [received, completedCall, doneItem, text, callArguments_firstArguments repeated, read,
      name]
    rfl
  refine ⟨_, brings.append (.event completed .done), fun other => ?_⟩
  by_cases same : other = done.itemId
  · rw [same, Dictionary.find?_erase_self]
  · rw [Dictionary.find?_erase_of_ne same, collects, if_neg (doneItem ▸ Ne.symm same)]
    rfl

/-! ## Agreement -/

/-- Parts whose calls are given other ids, in order. -/
def withCallIds : List String → List Part → List Part
  | _, [] => []
  | id :: ids, .call call :: parts => .call { call with id := some id } :: withCallIds ids parts
  | ids, part :: parts => part :: withCallIds ids parts

/-- The ids of the items that are calls, in order. -/
def callItemIds (items : List OutputItem) : List String :=
  (callItems items).map fun item => item.id

theorem withCallIds_cons_of_not_call {part : Part} (notCall : part.call? = none) (ids : List String)
    (parts : List Part) : withCallIds ids (part :: parts) = part :: withCallIds ids parts := by
  cases part with
  | call call => cases notCall
  | _ => cases ids <;> rfl

/-- Each list of parts takes as many ids as it has calls. -/
theorem withCallIds_append {ids : List String} {parts : List Part}
    (balanced : (callParts parts).length = ids.length) (more : List String)
    (later : List Part) :
    withCallIds (ids ++ more) (parts ++ later) =
      withCallIds ids parts ++ withCallIds more later := by
  induction parts generalizing ids with
  | nil =>
      obtain rfl : ids = [] := List.length_eq_zero_iff.mp balanced.symm
      rfl
  | cons part parts ih =>
      cases isCall : part.call? with
      | none =>
          rw [callParts, List.filterMap_cons_none isCall] at balanced
          rw [List.cons_append, withCallIds_cons_of_not_call isCall,
            withCallIds_cons_of_not_call isCall, ih balanced, List.cons_append]
      | some call =>
          rw [callParts, List.filterMap_cons_some isCall] at balanced
          cases part <;> cases isCall
          cases ids with
          | nil => cases balanced
          | cons id ids =>
              have rest := ih (Nat.succ.inj balanced)
              simp only [List.cons_append, withCallIds, rest]

theorem withCallIds_of_no_call {parts : List Part} (noCall : callParts parts = []) :
    withCallIds [] parts = parts := by
  induction parts with
  | nil => rfl
  | cons part parts ih =>
      obtain ⟨here, later⟩ := List.forall_mem_cons.mp (List.filterMap_eq_nil_iff.mp noCall)
      rw [withCallIds_cons_of_not_call here, ih (List.filterMap_eq_nil_iff.mpr later)]

/-- The parts of an item that is no call keep their place. -/
theorem withCallIds_of_itemParts {item : OutputItem} {parts : List Part}
    (whole : itemParts item = .ok parts) (notCall : item.type ≠ "function_call") :
    withCallIds (callItemIds [item]) parts = parts := by
  have noId : callItemIds [item] = [] := by simp [callItemIds, callItems, notCall]
  rcases itemParts_cases whole with ⟨isCall, -⟩ | ⟨-, passages⟩
  · exact absurd isCall notCall
  · rw [noId, withCallIds_of_no_call passages.callParts_eq_nil]

/-- The parts of a message of texts. -/
theorem entryParts_eq {entries : List OutputContent}
    (onlyText : ∀ entry ∈ entries, entry.type = "output_text") :
    entryParts entries = .ok (entries.flatMap fun entry => textParts false entry.text) := by
  induction entries with
  | nil => rfl
  | cons entry entries ih =>
      have first : messageParts entry = .ok (textParts false entry.text) :=
        if_pos (onlyText entry (List.mem_cons_self ..))
      have later := ih fun other member => onlyText other (List.mem_cons_of_mem _ member)
      rw [entryParts, first, later, List.flatMap_cons]
      rfl

/-- The parts of reasoning. -/
theorem thoughts_eq (item : OutputItem) :
    thoughts item =
      (item.content ++ item.summary).flatMap fun entry => textParts true entry.text := by
  unfold thoughts
  induction item.content ++ item.summary with
  | nil => rfl
  | cons entry entries ih =>
      rw [List.flatMap_cons, ← ih]
      cases empty : entry.text.isEmpty <;> simp [textParts, empty, Part.ofThought]

/-- **One item**: what its events bring is its parts, up to where texts are cut and up to the id of
a call, and nothing is left open. -/
theorem brings_item {item : OutputItem} {events : List Event} (streamed : ItemStreamed item events)
    {parts : List Part} (whole : itemParts item = .ok parts) {collected : OpenArguments}
    (vacant : Vacant collected) :
    ∃ brought last, Brings collected events brought last ∧ Vacant last ∧
      SameMerged brought (withCallIds (callItemIds [item]) parts) := by
  cases streamed with
  | message isMessage onlyText content =>
      obtain ⟨brought, brings, same⟩ := brings_entries passesOn_textDelta collected content
      have keeps := withCallIds_of_itemParts whole (by simp [isMessage])
      rw [itemParts, if_pos isMessage, entryParts_eq onlyText] at whole
      cases whole
      rw [keeps]
      exact ⟨brought, collected, brings, vacant, same⟩
  | reasoning isReasoning content summary =>
      obtain ⟨first, bringsFirst, sameFirst⟩ :=
        brings_entries passesOn_reasoningDelta collected content
      obtain ⟨second, bringsSecond, sameSecond⟩ :=
        brings_entries passesOn_summaryDelta collected summary
      have keeps := withCallIds_of_itemParts whole (by simp [isReasoning])
      have isThoughts : itemParts item = .ok (thoughts item) := by simp [itemParts, isReasoning]
      rw [isThoughts] at whole
      cases whole
      rw [keeps, thoughts_eq, List.flatMap_append]
      exact ⟨_, collected, bringsFirst.append bringsSecond, vacant, sameFirst.append sameSecond⟩
  | call isCall ofItem joinedWhole doneItem name repeated =>
      have ids : callItemIds [item] = [item.id] := by simp [callItemIds, callItems, isCall]
      rcases itemParts_cases whole with ⟨-, arguments, read, rfl⟩ | ⟨notCall, -⟩
      · obtain ⟨last, brings, vacant⟩ :=
          brings_call ofItem joinedWhole doneItem name repeated read vacant
        rw [ids]
        exact ⟨_, last, brings, vacant, rfl⟩
      · exact absurd isCall notCall

/-- **All items**, one after the other. -/
theorem brings_items {items : List OutputItem} {events : List Event}
    (streamed : ItemsStreamed items events) {parts : List Part}
    (whole : outputParts items = .ok parts) {collected : OpenArguments}
    (vacant : Vacant collected) :
    ∃ brought last, Brings collected events brought last ∧ Vacant last ∧
      SameMerged brought (withCallIds (callItemIds items) parts) := by
  induction streamed generalizing collected parts with
  | done =>
      cases whole
      exact ⟨[], collected, .done, vacant, rfl⟩
  | @item item items _ _ first _ ih =>
      obtain ⟨front, itemWhole, back, restWhole, rfl⟩ := outputParts_cons_eq_ok_iff.mp whole
      obtain ⟨brought, between, brings, vacant, same⟩ := brings_item first itemWhole vacant
      obtain ⟨later, last, bringsLater, vacant, sameLater⟩ := ih restWhole vacant
      refine ⟨brought ++ later, last, brings.append bringsLater, vacant, ?_⟩
      have balanced : (callParts front).length = (callItemIds [item]).length := by
        simpa [callItemIds] using congrArg List.length (callParts_of_itemParts itemWhole)
      have ids : callItemIds (item :: items) = callItemIds [item] ++ callItemIds items := by
        rw [callItemIds, callItems_cons, List.map_append]
        rfl
      rw [ids, withCallIds_append balanced]
      exact same.append sameLater

/-- **A streamed response agrees with the whole one.** Where the whole response can be read, its
events are received without a failure, and their parts are its parts, after neighbouring passages
of one kind have been merged, but for the ids of calls, which are those of the items. -/
theorem streamed_parts_agree {response : Response} {made : Generation} {events : List Event}
    (whole : generation response = .ok made) (streamed : Streamed response.output events) :
    Faultless events ∧
      merged (generatedParts (generationsOf events)) =
        merged (withCallIds (callItemIds response.output) (firstParts made)) := by
  obtain ⟨parts, converted, turns⟩ := candidates_of_generation whole
  obtain ⟨candidate, chosen, turn⟩ := List.map_eq_singleton_iff.mp turns
  have first : firstParts made = parts := by simp only [firstParts, chosen, turn]
  obtain ⟨brought, last, brings, -, same⟩ := brings_items streamed converted vacant_empty
  obtain ⟨faultless, generated⟩ := brings.of_filter.receiveAll
  refine ⟨faultless, ?_⟩
  rw [generationsOf, outcomes, generated, first]
  exact same

/-- Reasoning with a summary. -/
def cutReasoning : OutputItem where
  type := "reasoning"
  content := [⟨"reasoning_text", "Look", ""⟩]
  summary := [⟨"summary_text", "up", ""⟩]

/-- A message with an empty entry. -/
def cutMessage : OutputItem where
  type := "message"
  content := [⟨"output_text", "One", ""⟩, ⟨"output_text", "", ""⟩]

/-- A call with arguments. -/
def cutCall : OutputItem where
  type := "function_call"
  id := "item"
  callId := "call"
  name := "find"
  arguments := "\x7b\"at\":1\x7d"

/-- The generation of the whole response. -/
def cutGeneration : Generation where
  candidates :=
    [{ turn := ⟨"model",
        [.ofThought "Look", .ofThought "up", .ofText "One",
          .call ⟨some "call", "find", [("at", .number (.integer 1))]⟩]⟩
       finishReason := .stop }]
  usage := some (usage {})

/-- The events of the response: texts and arguments are cut, and other events stand among them. -/
def cutEvents : List Event :=
  [.created {}, .reasoningDelta ⟨"", 0, "Lo"⟩, .unknown, .reasoningDelta ⟨"", 0, "ok"⟩,
    .summaryDelta ⟨"", 0, "up"⟩, .textDelta ⟨"", 0, "One"⟩, .textDelta ⟨"", 0, ""⟩,
    .argumentsDelta ⟨"item", 0, "\x7b\"at\""⟩, .textDone {},
    .argumentsDelta ⟨"item", 0, ":1\x7d"⟩, .argumentsDone ⟨"item", 0, "find", ""⟩, .completed {}]

theorem streamed_parts_agree_cut :
    generation { output := [cutReasoning, cutMessage, cutCall] } = .ok cutGeneration ∧
      Streamed [cutReasoning, cutMessage, cutCall] cutEvents ∧
      Faultless cutEvents ∧
      merged (generatedParts (generationsOf cutEvents)) =
        merged (withCallIds (callItemIds [cutReasoning, cutMessage, cutCall])
          (firstParts cutGeneration)) := by
  have whole :
      generation { output := [cutReasoning, cutMessage, cutCall] } = .ok cutGeneration := by
    have portable : Outbound.Portable [("at", .number (.integer 1))] := by
      refine ⟨?_, by decide, by decide⟩
      simp [Json.Value.Distinct, Json.DistinctMembers]
    have text : cutCall.arguments = Outbound.objectText [("at", .number (.integer 1))] := by decide
    have arguments := Outbound.callArguments_objectText portable
    have call : itemParts cutCall =
        .ok [.call ⟨some "call", "find", [("at", .number (.integer 1))]⟩] := by
      rw [itemParts, text, arguments]
      rfl
    have parts : outputParts [cutReasoning, cutMessage, cutCall] =
        .ok [.ofThought "Look", .ofThought "up", .ofText "One",
          .call ⟨some "call", "find", [("at", .number (.integer 1))]⟩] := by
      simp only [outputParts, call]
      rfl
    simp only [generation, usableParts, parts]
    rfl
  have reasoning : ItemStreamed cutReasoning
      ([.reasoningDelta ⟨"", 0, "Lo"⟩, .reasoningDelta ⟨"", 0, "ok"⟩] ++
        [.summaryDelta ⟨"", 0, "up"⟩]) :=
    .reasoning rfl (.entry [⟨"", 0, "Lo"⟩, ⟨"", 0, "ok"⟩] rfl .done)
      (.entry [⟨"", 0, "up"⟩] rfl .done)
  have message : ItemStreamed cutMessage [.textDelta ⟨"", 0, "One"⟩, .textDelta ⟨"", 0, ""⟩] :=
    .message rfl (by simp [cutMessage])
      (.entry [⟨"", 0, "One"⟩, ⟨"", 0, ""⟩] rfl (.entry [] rfl .done))
  have call : ItemStreamed cutCall
      ([⟨"item", 0, "\x7b\"at\""⟩, ⟨"item", 0, ":1\x7d"⟩].map .argumentsDelta ++
        [.argumentsDone ⟨"item", 0, "find", ""⟩]) :=
    .call rfl (by simp [cutCall]) rfl rfl rfl (.inr rfl)
  have streamed : Streamed [cutReasoning, cutMessage, cutCall] cutEvents :=
    .item reasoning (.item message (.item call .done))
  exact ⟨whole, streamed, streamed_parts_agree whole streamed⟩

end ResponsesBridge.Inbound
