import Mathlib.Data.List.Forall2
import ResponsesBridge.Inbound.Fragments
import ResponsesBridge.Inbound.Payload
import ResponsesBridge.Inbound.Response
import ResponsesBridge.Proofs.Json.NewMembers
import ResponsesBridge.Proofs.Json.Texts

/-!
# New members and new kinds of events

The service may come to say more than is read today: new members in the records of a response or an
event, and events of new kinds. Each record type has a growth that allows new members in it and in
the records inside of it, and each kind of events has a shape (`Event.shapes`). The codecs tolerate
these growths, record by record from the inside out (`Response.tolerates`, `Event.shapesFor`).

In terms of texts (`new_members_change_nothing`), a response is read as before whatever well-formed
members are added to it, and an event if the longer text still has a value. The difference is that
an event is kept as a value until its tag is met. A number that is passed over in a response spoils
an event (`oversized_member_spoils_event`).
-/

set_option autoImplicit false

namespace ResponsesBridge.Wire

open Inbound (eventOf received)
open Json (Alternative Codec Growth IsText Members Member Node Shape Table Value readText tagName
  treeOf)

/-! ## What the records know

How nodes grow from which the record types are read, each from the types inside of it.
-/

def OutputContent.growth : Growth := .record (OutputContent.table.shape [])

def OutputItem.growth : Growth :=
  .record (OutputItem.table.shape
    [("content", .list OutputContent.growth), ("summary", .list OutputContent.growth)])

def Usage.growth : Growth :=
  .record (Usage.table.shape
    [("input_tokens_details", .record (InputTokenDetails.table.shape [])),
      ("output_tokens_details", .record (OutputTokenDetails.table.shape []))])

def Response.growth : Growth :=
  .record (Response.table.shape
    [("output", .list OutputItem.growth), ("usage", Usage.growth),
      ("incomplete_details", .record (IncompleteDetails.table.shape [])),
      ("error", .record (ResponseError.table.shape []))])

def Snapshot.shape : Shape := Snapshot.table.shape [("response", Response.growth)]

def ItemSnapshot.shape : Shape := ItemSnapshot.table.shape [("item", OutputItem.growth)]

namespace Event

/-- The shapes of the listed kinds of events. -/
def shapes : List (String × Shape) :=
  [("response.output_text.delta", Delta.table.shape []),
    ("response.output_text.done", DoneText.table.shape []),
    ("response.reasoning_text.delta", Delta.table.shape []),
    ("response.reasoning_text.done", DoneText.table.shape []),
    ("response.reasoning_summary_text.delta", Delta.table.shape []),
    ("response.reasoning_summary_text.done", DoneText.table.shape []),
    ("response.function_call_arguments.delta", Delta.table.shape []),
    ("response.function_call_arguments.done", DoneArguments.table.shape []),
    ("response.created", Snapshot.shape),
    ("response.in_progress", Snapshot.shape),
    ("response.completed", Snapshot.shape),
    ("response.failed", Snapshot.shape),
    ("response.output_item.added", ItemSnapshot.shape),
    ("response.output_item.done", ItemSnapshot.shape),
    ("error", StreamError.table.shape [])]

/-- The shape of the events of a kind; nothing is known of those that are not listed. -/
def shape (tag : String) : Shape :=
  (Json.lookup tag shapes).getD ⟨[], []⟩

def growth : Growth := .tagged shape

end Event

/-! ## Tolerance -/

theorem OutputContent.tolerates : OutputContent.codec.Tolerates OutputContent.growth :=
  (Table.tolerates_nil _).codec

theorem OutputItem.tolerates : OutputItem.codec.Tolerates OutputItem.growth := by
  refine Table.Tolerates.codec ?_
  simp only [Table.Tolerates, OutputItem.table, List.forall_mem_cons]
  exact ⟨Member.tolerates_none _, Member.tolerates_none _, Member.tolerates_none _,
    OutputContent.tolerates.list.of _ _ _ _ _, OutputContent.tolerates.list.of _ _ _ _ _,
    Member.tolerates_none _, Member.tolerates_none _, Member.tolerates_none _, nofun⟩

theorem Usage.tolerates : Usage.codec.Tolerates Usage.growth := by
  refine Table.Tolerates.codec ?_
  simp only [Table.Tolerates, Usage.table, List.forall_mem_cons]
  exact ⟨Member.tolerates_none _, (Table.tolerates_nil _).codec.of _ _ _ _ _,
    Member.tolerates_none _, (Table.tolerates_nil _).codec.of _ _ _ _ _,
    Member.tolerates_none _, nofun⟩

/-- **A response is read as before when members are added to it** that its records do not know. -/
theorem Response.tolerates : Response.codec.Tolerates Response.growth := by
  refine Table.Tolerates.codec ?_
  simp only [Table.Tolerates, Response.table, List.forall_mem_cons]
  exact ⟨Member.tolerates_none _, Member.tolerates_none _, Member.tolerates_none _,
    OutputItem.tolerates.list.of _ _ _ _ _, Usage.tolerates.optional.of _ _ _ _ _,
    (Table.tolerates_nil _).codec.optional.of _ _ _ _ _,
    (Table.tolerates_nil _).codec.optional.of _ _ _ _ _, nofun⟩

theorem Snapshot.tolerates : Snapshot.table.Tolerates [("response", Response.growth)] := by
  simp only [Table.Tolerates, Snapshot.table, List.forall_mem_cons]
  exact ⟨Response.tolerates.of _ _ _ _ _, nofun⟩

theorem ItemSnapshot.tolerates : ItemSnapshot.table.Tolerates [("item", OutputItem.growth)] := by
  simp only [Table.Tolerates, ItemSnapshot.table, List.forall_mem_cons]
  exact ⟨Member.tolerates_none _, OutputItem.tolerates.of _ _ _ _ _, nofun⟩

namespace Event

/-- Each listed kind of events tolerates its shape. -/
theorem shapesFor : Json.ShapesFor alternatives shapes := by
  have plain : ∀ {β : Type} (table : Table β) (tag : String) (blank : β) (make : β → Event),
      (Alternative.ofTable tag table blank make).Tolerates (table.shape []) :=
    fun table tag blank make => (Table.tolerates_nil table).alternative tag blank make
  have snapshot : ∀ (tag : String) (make : Snapshot → Event),
      (Alternative.ofTable tag Snapshot.table {} make).Tolerates Snapshot.shape :=
    fun tag make => Snapshot.tolerates.alternative tag {} make
  have item : ∀ (tag : String) (make : ItemSnapshot → Event),
      (Alternative.ofTable tag ItemSnapshot.table {} make).Tolerates ItemSnapshot.shape :=
    fun tag make => ItemSnapshot.tolerates.alternative tag {} make
  simp only [Json.ShapesFor, alternatives, shapes, List.forall₂_cons, List.forall₂_nil_left_iff]
  exact ⟨⟨rfl, plain ..⟩, ⟨rfl, plain ..⟩, ⟨rfl, plain ..⟩, ⟨rfl, plain ..⟩, ⟨rfl, plain ..⟩,
    ⟨rfl, plain ..⟩, ⟨rfl, plain ..⟩, ⟨rfl, plain ..⟩, ⟨rfl, snapshot ..⟩, ⟨rfl, snapshot ..⟩,
    ⟨rfl, snapshot ..⟩, ⟨rfl, snapshot ..⟩, ⟨rfl, item ..⟩, ⟨rfl, item ..⟩, ⟨rfl, plain ..⟩,
    trivial⟩

/-- The alternative of any tag tolerates the shape of that tag. -/
theorem tolerates_shape {tag : String} {alternative : Alternative Event}
    (chosen : Json.alternativeFor alternatives (some unlisted) tag = .ok alternative) :
    alternative.Tolerates (shape tag) := by
  have shaped := shapesFor.lookup tag
  unfold Json.alternativeFor at chosen
  split at chosen
  case h_1 found =>
    obtain rfl := Except.ok.inj chosen
    rw [found] at shaped
    obtain ⟨known, isKnown, tolerates⟩ := shaped
    rw [shape, isKnown]
    exact tolerates
  case h_2 found same =>
    obtain rfl := Except.ok.inj chosen
    obtain rfl := Option.some.inj same
    rw [found] at shaped
    rw [shape, shaped]
    exact (Table.tolerates_nil _).alternative _ _ _
  case h_3 => cases chosen

/-- **An event is read as before when members are added to it** that its records do not know, as
long as it has a value. -/
theorem read_of_grown {node grown : Node} (grows : growth node grown) {whole : Value}
    (isValue : grown.value = .ok whole) {event : Event} (read : codec.read node = .ok event) :
    codec.read grown = .ok event :=
  Json.readTagged_of_grown tolerates_shape grows isValue read

/-- **An event of an unlisted kind is read as unknown**, as long as it has a value. -/
theorem read_of_unlisted {members : Members} {tag : String}
    (tells : members.under tagName = [.text (.ok tag)])
    (isUnlisted : tag ∉ alternatives.map Alternative.tag) {whole : Value}
    (isValue : (Node.object members).value = .ok whole) :
    codec.read (.object members) = .ok .unknown := by
  obtain ⟨fields, areFields, -⟩ := bind_eq_ok_iff.mp isValue
  obtain ⟨others, areOthers⟩ := Members.exists_fields_without tagName areFields
  have other : Json.alternativeFor alternatives (some unlisted) tag = .ok unlisted := by
    have absent : alternatives.find? (fun alternative => alternative.tag == tag) = none := by
      simpa [List.find?_eq_none] using isUnlisted
    simp only [Json.alternativeFor, absent]
  refine bind_eq_ok_iff.mpr
    ⟨unlisted, Json.findTag_of_under areFields (.inl ⟨rfl, _, tells, other⟩), ?_⟩
  simp only [unlisted, Alternative.ofTable, Table.readObject, Table.readMembers_nil areOthers]
  rfl

end Event

/-! ## Texts -/

theorem eventOf_eq_ok_iff {text : String} {event : Event} :
    eventOf text = .ok event ↔ readText Event.codec.read text = .ok event := by
  unfold eventOf
  cases readText Event.codec.read text <;> simp [Except.mapError]

/-- **New members and new kinds of events change nothing.** A response is read as before when any
well-formed members are added to its records under names that they do not know, wherever these
records and members stand. An event is read as before as long as the longer text has a value: it is
kept until its tag is met, so its numbers must be representable, its quotations texts and its depth
within the limit. And an object that has a value and one tag, which is not listed, is an unknown
event, which yields nothing and leaves the collected arguments as they are. -/
theorem new_members_change_nothing :
    (∀ {text longer : String} {response : Response} {grown : Node},
      readText Response.codec.read text = .ok response → Response.growth (treeOf text) grown →
        IsText longer.toList grown → readText Response.codec.read longer = .ok response) ∧
    (∀ {text longer : String} {event : Event} {grown : Node} {whole : Value},
      eventOf text = .ok event → Event.growth (treeOf text) grown → IsText longer.toList grown →
        grown.value = .ok whole → eventOf longer = .ok event) ∧
    (∀ {text : String} {members : Members} {tag : String} {whole : Value},
      IsText text.toList (.object members) → members.under tagName = [.text (.ok tag)] →
        tag ∉ Event.alternatives.map Alternative.tag →
        (Node.object members).value = .ok whole → eventOf text = .ok .unknown) ∧
    ∀ collected, received collected .unknown = (.ok none, collected) := by
  refine ⟨?_, ?_, ?_, fun _ => rfl⟩
  · intro text longer response grown accepted grows isText
    rw [Json.readText_of_isText isText]
    exact Response.tolerates grows isText.skip (Json.read_treeOf accepted)
  · intro text longer event grown whole accepted grows isText isValue
    rw [eventOf_eq_ok_iff] at accepted ⊢
    rw [Json.readText_of_isText isText]
    exact Event.read_of_grown grows isValue (Json.read_treeOf accepted)
  · intro text members tag whole isText tells isUnlisted isValue
    rw [eventOf_eq_ok_iff, Json.readText_of_isText isText]
    exact Event.read_of_unlisted tells isUnlisted isValue

/-- A response with one item. -/
def itemResponse : Value :=
  .object [("output", .array [.object [("type", .text "message")]])]

/-- The same response with new members in the item and behind it. -/
def longerResponse : Value :=
  .object
    [("output", .array [.object [("new", .array [.null]), ("type", .text "message")]]),
      ("type", .object [])]

/-- An event that brings a fragment of text. -/
def fragmentEvent : Value :=
  .object [("type", .text "response.output_text.delta"), ("delta", .text "a")]

/-- The same event with a new member before its tag. -/
def longerEvent : Value :=
  .object
    [("new", .object [("type", .null)]), ("type", .text "response.output_text.delta"),
      ("delta", .text "a")]

/-- An event of a new kind with the members of a listed one. -/
def newEvent : Value :=
  .object [("delta", .text "a"), ("type", .text "response.output_image.delta")]

theorem new_members_change_nothing_longer :
    readText Response.codec.read longerResponse.toText =
        .ok { output := [{ type := "message" }] } ∧
      eventOf longerEvent.toText = .ok (.textDelta { delta := "a" }) ∧
      eventOf newEvent.toText = .ok .unknown := by
  refine ⟨?_, ?_, ?_⟩
  · have accepted : readText Response.codec.read itemResponse.toText =
        .ok { output := [{ type := "message" }] } := Json.readText_toText (by decide) (by decide) _
    refine new_members_change_nothing.1 accepted ?_ (Json.isText_toText (by decide) (by decide))
    rw [Json.treeOf_of_isText (Json.isText_toText (by decide) (by decide))]
    refine .object (.kept (.array (.next (.object ?_) .finished)) (.added (by decide) .finished))
    exact .added (by decide) (.kept rfl .finished)
  · have accepted : eventOf fragmentEvent.toText = .ok (.textDelta { delta := "a" }) :=
      eventOf_eq_ok_iff.mpr (Json.readText_toText (by decide) (by decide) _)
    refine new_members_change_nothing.2.1 accepted ?_
      (Json.isText_toText (by decide) (by decide)) rfl
    rw [Json.treeOf_of_isText (Json.isText_toText (by decide) (by decide))]
    exact .object rfl (.added (by decide) (.kept rfl (.kept rfl .finished)))
  · exact new_members_change_nothing.2.2.1 (Json.isText_toText (by decide) (by decide)) rfl
      (by decide) rfl

/-! ## Members that have no value -/

/-- The event that brings a fragment, with a new member whose number is too big to be
represented. -/
def oversizedEvent : String :=
  "\x7b\"type\":\"response.output_text.delta\",\"delta\":\"a\",\"new\":1e999\x7d"

/-- The members of that event. -/
def oversizedMembers : Members :=
  .next (.ok "type") (.text (.ok "response.output_text.delta"))
    (.next (.ok "delta") (.text (.ok "a")) (.next (.ok "new") (.number none) .finished))

theorem isText_oversizedEvent : IsText oversizedEvent.toList (.object oversizedMembers) := by
  have tooBig : Json.Numeral.number? ⟨false, [1], none, some 999⟩ = none := by decide
  have one : Json.SpellsWhole ['1'] :=
    ⟨⟨List.cons_ne_nil _ _, List.all_eq_true.mp rfl⟩, by decide⟩
  have nines : Json.AreDigits ['9', '9', '9'] :=
    ⟨List.cons_ne_nil _ _, List.all_eq_true.mp rfl⟩
  have number : Json.Spells 1 ['1', 'e', '9', '9', '9'] (.number none) := by
    rw [← tooBig]
    exact .number 1 (.positive one .absent (.unsigned (.inl rfl) nines))
  have new := Json.SpellsMember.quoted "new" number (.finished 1)
  have delta := Json.SpellsMember.quoted "delta"
    ((Value.text "a").spells 1 (by decide) (by decide)) (.next new)
  have type := Json.SpellsMember.quoted tagName
    ((Value.text "response.output_text.delta").spells 1 (by decide) (by decide)) (.next delta)
  have spelled := Json.Spells.object (Json.SpellsMembers.next type)
  exact ⟨_, [], (by decide : oversizedEvent.toList = _ ++ []), spelled, List.forall_mem_nil _⟩

/-- Well formed members are not enough for an event: a number that exceeds the representable
numbers spoils it. -/
theorem oversized_member_spoils_event :
    ¬ ∀ {text longer : String} {event : Event} {grown : Node},
      eventOf text = .ok event → Event.growth (treeOf text) grown → IsText longer.toList grown →
        grown.height ≤ Json.depthLimit → eventOf longer = .ok event := by
  intro unspoiled
  have accepted : eventOf fragmentEvent.toText = .ok (.textDelta { delta := "a" }) :=
    eventOf_eq_ok_iff.mpr (Json.readText_toText (by decide) (by decide) _)
  have grows : Event.growth (treeOf fragmentEvent.toText) (.object oversizedMembers) := by
    rw [Json.treeOf_of_isText (Json.isText_toText (by decide) (by decide))]
    exact .object rfl (.kept rfl (.kept rfl (.added (by decide) .finished)))
  have read := unspoiled accepted grows isText_oversizedEvent (by decide)
  rw [eventOf_eq_ok_iff, Json.readText_of_isText isText_oversizedEvent] at read
  cases read

end ResponsesBridge.Wire
