import ResponsesBridge.Proofs.Inbound.Failed
import ResponsesBridge.Proofs.Inbound.Output
import ResponsesBridge.Proofs.Json.Recognition
import ResponsesBridge.Proofs.Json.Texts
import ResponsesBridge.Proofs.Rows
import Mathlib.Tactic.MkIffOfInductiveProp

/-!
# What becomes of a whole response

Each entry of a message and each item of an output makes its parts or offends, by rules that tell
the parts and the failure without the conversion (`EntryMakes`, `ItemMakes`, `ItemOffends`). Things
in a row make the parts of each, one after the other, and fail with the first that offends
(`Judged.gather`, used for entries and again for items). So a response becomes a generation exactly if
it has an output, all items of it are supported, and one of them makes a part
(`generation_by_output`).

The arguments of a call must be the text of an object (`ArgumentsText`), and one whose members can
be held: JSON sets no bound to the depth of nesting, but the reader does
(`deep_arguments_refused`).
-/

set_option autoImplicit false

namespace ResponsesBridge.Inbound

open Conversation (Generation Part)
open Wire (OutputContent OutputItem Response)

/-! ## Rules -/

/-- A text holds the arguments of a call: it is empty, or an object whose members can be held. -/
inductive ArgumentsText : String → Json.Fields → Prop
  | empty : ArgumentsText "" []
  | object {text : String} {members : Json.Members} {named : Json.Fields}
      (isText : Json.IsText text.toList (.object members)) (held : members.fields = .ok named) :
      ArgumentsText text (Json.settle named)

/-- The parts that an entry of a message makes: a text makes one unless it is empty, a refusal
always makes one. -/
@[mk_iff]
inductive EntryMakes (entry : OutputContent) : List Part → Prop
  | text (isText : entry.type = "output_text") (nonempty : entry.text ≠ "") :
      EntryMakes entry [.passage ⟨entry.text, false⟩]
  | nothing (isText : entry.type = "output_text") (empty : entry.text = "") : EntryMakes entry []
  | refusal (isRefusal : entry.type = "refusal") :
      EntryMakes entry [.passage ⟨entry.refusal, false⟩]

/-- The parts that an entry of reasoning makes: a thought unless it is empty, whatever its type
is. -/
inductive ThoughtMakes (entry : OutputContent) : List Part → Prop
  | thought (nonempty : entry.text ≠ "") : ThoughtMakes entry [.passage ⟨entry.text, true⟩]
  | nothing (empty : entry.text = "") : ThoughtMakes entry []

/-- The parts that an item makes. -/
@[mk_iff]
inductive ItemMakes (item : OutputItem) : List Part → Prop
  | message {parts : List Part} (isMessage : item.type = "message")
      (entries : RowMakes EntryMakes item.content parts) : ItemMakes item parts
  | call {arguments : Json.Fields} (isCall : item.type = "function_call")
      (text : ArgumentsText item.arguments arguments) :
      ItemMakes item [.call ⟨some item.callId, item.name, arguments⟩]
  | reasoning {content summary : List Part} (isReasoning : item.type = "reasoning")
      (thoughts : RowMakes ThoughtMakes item.content content)
      (summarized : RowMakes ThoughtMakes item.summary summary) :
      ItemMakes item (content ++ summary)

/-- An item that a whole response may have. -/
structure Supported (item : OutputItem) : Prop where
  type : item.type = "message" ∨ item.type = "function_call" ∨ item.type = "reasoning"
  entries : item.type = "message" →
    ∀ entry ∈ item.content, entry.type = "output_text" ∨ entry.type = "refusal"
  arguments : item.type = "function_call" → ∃ arguments, ArgumentsText item.arguments arguments

/-- How an entry of a message offends. -/
@[mk_iff]
inductive EntryOffends (entry : OutputContent) : Failure → Prop
  | type (notText : entry.type ≠ "output_text") (notRefusal : entry.type ≠ "refusal") :
      EntryOffends entry (.unsupportedContent entry.type)

/-- How an item offends: a message by its first entry that does, a call by arguments in which the
reader meets a fault. -/
@[mk_iff]
inductive ItemOffends (item : OutputItem) : Failure → Prop
  | message {failure : Failure} (isMessage : item.type = "message")
      (entries : FirstOffends EntryOffends item.content failure) :
      ItemOffends item failure
  | call {fault : Json.Fault} (isCall : item.type = "function_call")
      (notArguments : ¬ ∃ arguments, ArgumentsText item.arguments arguments)
      (meets : Json.readText Json.Codec.fields.read item.arguments = .error fault) :
      ItemOffends item (.invalidArguments fault)
  | type (notMessage : item.type ≠ "message") (notCall : item.type ≠ "function_call")
      (notReasoning : item.type ≠ "reasoning") : ItemOffends item (.unsupportedItem item.type)

/-! ## Entries -/

theorem judged_messageParts (entry : OutputContent) :
    Judged (messageParts entry) (EntryMakes entry) (EntryOffends entry) := by
  unfold messageParts
  split
  case isTrue isText =>
    refine .of_ok (fun parts => ?_) (fun failure => ?_)
    · by_cases empty : entry.text = ""
      · simp [entryMakes_iff, isText, empty]
      · simp [entryMakes_iff, isText, empty, Part.ofText]
    · simp [entryOffends_iff, isText]
  case isFalse notText =>
    split
    case isTrue isRefusal =>
      refine .of_ok (fun parts => ?_) (fun failure => ?_)
      · simp [entryMakes_iff, isRefusal, Part.ofText]
      · simp [entryOffends_iff, isRefusal]
    case isFalse notRefusal =>
      refine .of_error (fun parts => ?_) (fun failure => ?_)
      · simp [entryMakes_iff, notText, notRefusal]
      · simp [entryOffends_iff, notText, notRefusal]

theorem judged_entryParts (entries : List OutputContent) :
    Judged (entryParts entries) (RowMakes EntryMakes entries)
      (FirstOffends EntryOffends entries) := by
  have gathers : entryParts entries = gather messageParts entries := by
    induction entries with
    | nil => rfl
    | cons entry entries ih => rw [entryParts, gather, ih]
  rw [gathers]
  exact .gather judged_messageParts entries

/-- The thoughts of entries are one for each that has a text. -/
theorem rowMakes_thoughts_iff {entries : List OutputContent} {parts : List Part} :
    RowMakes ThoughtMakes entries parts ↔
      parts = (entries.filter fun entry => !entry.text.isEmpty).map fun entry =>
        .ofThought entry.text := by
  induction entries generalizing parts with
  | nil =>
      simp only [rowMakes_nil_iff, List.filter_nil, List.map_nil]
  | cons entry entries ih =>
      rw [rowMakes_cons_iff]
      simp only [ih]
      constructor
      · rintro ⟨first, later, here, rfl, rfl⟩
        cases here with
        | thought nonempty => simp [nonempty, Part.ofThought]
        | nothing empty => simp [empty]
      · rintro rfl
        by_cases empty : entry.text = ""
        · exact ⟨[], _, .nothing empty, rfl, by simp [empty]⟩
        · exact ⟨_, _, .thought empty, rfl, by simp [empty, Part.ofThought]⟩

/-! ## Items -/

/-- An object is no empty text. -/
theorem not_isText_nil (node : Json.Node) : ¬ Json.IsText [] node := by
  rintro ⟨body, blanks, same, spelled, -⟩
  have nonempty := spelled.length_pos
  rw [(List.append_eq_nil_iff.mp same.symm).1] at nonempty
  exact Nat.lt_irrefl 0 nonempty

/-- What a text holds is read from it. -/
theorem readText_of_argumentsText {text : String} {arguments : Json.Fields}
    (holds : ArgumentsText text arguments) (nonempty : text ≠ "") :
    Json.readText Json.Codec.fields.read text = .ok arguments := by
  cases holds with
  | empty => exact absurd rfl nonempty
  | object isText held => exact Json.readText_fields_eq_ok_iff.mpr ⟨_, _, isText, held, rfl⟩

/-- The arguments of a call are those that its text holds. -/
theorem callArguments_eq_ok_iff {text : String} {arguments : Json.Fields} :
    callArguments text = .ok arguments ↔ ArgumentsText text arguments := by
  unfold callArguments
  split
  case isTrue isEmpty =>
    obtain rfl : text = "" := by simpa using isEmpty
    constructor
    · rintro ⟨rfl⟩
      exact .empty
    · intro holds
      cases holds with
      | empty => rfl
      | object isText _ => exact absurd isText (not_isText_nil _)
  case isFalse nonempty =>
    constructor
    · intro found
      cases read : Json.readText Json.Codec.fields.read text with
      | error fault =>
          rw [read] at found
          cases found
      | ok result =>
          obtain ⟨members, named, isText, held, rfl⟩ := Json.readText_fields_eq_ok_iff.mp read
          rw [read] at found
          cases found
          exact .object isText held
    · intro holds
      rw [readText_of_argumentsText holds (by simpa using nonempty)]

theorem callArguments_eq_error_iff {text : String} {failure : Failure} :
    callArguments text = .error failure ↔
      (¬ ∃ arguments, ArgumentsText text arguments) ∧
        ∃ fault, Json.readText Json.Codec.fields.read text = .error fault ∧
          failure = .invalidArguments fault := by
  simp only [← callArguments_eq_ok_iff]
  unfold callArguments
  split
  · simp
  · cases Json.readText Json.Codec.fields.read text <;> simp [eq_comm]

/-- **The text of arguments** is judged by what it holds. -/
theorem judged_callArguments (text : String) :
    Judged (callArguments text) (ArgumentsText text) (fun failure =>
      (¬ ∃ arguments, ArgumentsText text arguments) ∧
        ∃ fault, Json.readText Json.Codec.fields.read text = .error fault ∧
          failure = .invalidArguments fault) :=
  ⟨fun _ => callArguments_eq_ok_iff, fun _ => callArguments_eq_error_iff⟩

theorem readable_iff_supported {item : OutputItem} : Readable item ↔ Supported item := by
  simp only [Readable, callArguments_eq_ok_iff]
  constructor
  · rintro (⟨isMessage, entries⟩ | ⟨isCall, arguments⟩ | isReasoning)
    · exact ⟨.inl isMessage, fun _ => entries, by simp [isMessage]⟩
    · exact ⟨.inr (.inl isCall), by simp [isCall], fun _ => arguments⟩
    · exact ⟨.inr (.inr isReasoning), by simp [isReasoning], by simp [isReasoning]⟩
  · rintro ⟨isMessage | isCall | isReasoning, entries, arguments⟩
    · exact .inl ⟨isMessage, entries isMessage⟩
    · exact .inr (.inl ⟨isCall, arguments isCall⟩)
    · exact .inr (.inr isReasoning)

theorem judged_itemParts (item : OutputItem) :
    Judged (itemParts item) (ItemMakes item) (ItemOffends item) := by
  unfold itemParts
  split
  case isTrue isMessage =>
    have entries := judged_entryParts item.content
    constructor
    · intro parts
      simp [entries.ok, itemMakes_iff, isMessage]
    · intro failure
      simp [entries.error, itemOffends_iff, isMessage]
  case isFalse notMessage =>
    split
    case isTrue isCall =>
      have judged := (judged_callArguments item.arguments).map fun arguments =>
        [Part.call ⟨some item.callId, item.name, arguments⟩]
      constructor
      · intro parts
        refine (judged.ok parts).trans ?_
        simp [itemMakes_iff, isCall]
      · intro failure
        refine (judged.error failure).trans ?_
        simp [itemOffends_iff, isCall]
    case isFalse notCall =>
      split
      case isTrue isReasoning =>
        refine .of_ok (fun parts => ?_) (fun failure => ?_)
        · simp [itemMakes_iff, isReasoning, rowMakes_thoughts_iff, thoughts]
        · simp [itemOffends_iff, isReasoning]
      case isFalse notReasoning =>
        refine .of_error (fun parts => ?_) (fun failure => ?_)
        · simp [itemMakes_iff, notMessage, notCall, notReasoning]
        · simp [itemOffends_iff, notMessage, notCall, notReasoning]

theorem judged_outputParts (items : List OutputItem) :
    Judged (outputParts items) (RowMakes ItemMakes items)
      (FirstOffends ItemOffends items) := by
  have gathers : outputParts items = gather itemParts items := by
    induction items with
    | nil => rfl
    | cons item items ih => rw [outputParts, gather, ih]
  rw [gathers]
  exact .gather judged_itemParts items

/-! ## Responses -/

/-- The items of an output make no part if none of them makes one. -/
theorem outputParts_eq_nil_iff {items : List OutputItem} :
    outputParts items = .ok [] ↔
      (∀ item ∈ items, Supported item) ∧ ¬ ∃ item ∈ items, Substantial item := by
  have yields := yields_outputParts items
  simp only [readable_iff_supported] at yields
  constructor
  · intro nothing
    refine ⟨yields.succeeds.mp ⟨[], nothing⟩, fun substantial => ?_⟩
    exact (yields.some [] nothing).mpr substantial rfl
  · rintro ⟨supported, noSubstance⟩
    obtain ⟨parts, converted⟩ := yields.succeeds.mpr supported
    have nothing : parts = [] := by
      by_contra nonempty
      exact noSubstance ((yields.some parts converted).mp nonempty)
    rw [converted, nothing]

/-- How an output fails. -/
theorem usableParts_eq_error_iff {items : List OutputItem} {failure : Failure} :
    usableParts items = .error failure ↔
      (items = [] ∧ failure = .noOutput) ∨ FirstOffends ItemOffends items failure ∨
        (items ≠ [] ∧ (∀ item ∈ items, Supported item) ∧ (¬ ∃ item ∈ items, Substantial item) ∧
          failure = .noUsableOutput) := by
  cases items with
  | nil =>
      simp [usableParts, not_firstOffends_nil, eq_comm]
  | cons item items =>
      have unusable := @outputParts_eq_nil_iff (item :: items)
      rw [← (judged_outputParts (item :: items)).error, ← and_assoc (c := _ = Failure.noUsableOutput),
        ← unusable]
      simp only [usableParts, List.isEmpty_cons, Bool.false_eq_true, if_false]
      cases outputParts (item :: items) with
      | error offence => simp [bind, Except.bind]
      | ok parts => cases parts <;> simp [bind, Except.bind, pure, Except.pure, eq_comm]

theorem generation_eq_error_iff {response : Response} {failure : Failure} :
    generation response = .error failure ↔ usableParts response.output = .error failure := by
  unfold generation
  cases usableParts response.output <;> simp [bind, Except.bind, pure, Except.pure]

/-- **What becomes of a whole response.** It becomes a generation exactly if it has an output, all
items of the output are supported and one of them makes a part. The turn of the only candidate has
the parts that the items make, one after the other. Otherwise the failure is that of the first item
that offends, and only if none does that there is no output or nothing usable in it. -/
theorem generation_by_output (response : Response) :
    ((∃ made, generation response = .ok made) ↔
      response.output ≠ [] ∧ (∀ item ∈ response.output, Supported item) ∧
        ∃ item ∈ response.output, Substantial item) ∧
    (∀ made, generation response = .ok made →
      ∃ parts, RowMakes ItemMakes response.output parts ∧
        made.candidates.map (fun candidate => candidate.turn) =
          [⟨Conversation.modelRole, parts⟩]) ∧
    ∀ failure, generation response = .error failure ↔
      (response.output = [] ∧ failure = .noOutput) ∨
      FirstOffends ItemOffends response.output failure ∨
      (response.output ≠ [] ∧ (∀ item ∈ response.output, Supported item) ∧
        (¬ ∃ item ∈ response.output, Substantial item) ∧ failure = .noUsableOutput) := by
  refine ⟨?_, ?_, ?_⟩
  · rw [exists_generation_iff]
    simp only [Usable, readable_iff_supported]
    constructor
    · rintro ⟨supported, item, member, substantial⟩
      exact ⟨List.ne_nil_of_mem member, supported, item, member, substantial⟩
    · exact And.right
  · intro made whole
    obtain ⟨parts, converted, turn⟩ := candidates_of_generation whole
    exact ⟨parts, ((judged_outputParts _).ok parts).mp converted, turn⟩
  · intro failure
    rw [generation_eq_error_iff, usableParts_eq_error_iff]

/-! ## Deep arguments -/

/-- A text of nested arrays. -/
def nestedArrays : Nat → List Char
  | 0 => []
  | depth + 1 => '[' :: (nestedArrays depth ++ [']'])

/-- Nested arrays are JSON however deep they are, but they have no value if they are too deep. -/
theorem exists_spells_nestedArrays (depth around : Nat) :
    ∃ node, Json.Spells around (nestedArrays (depth + 1)) node ∧
      (Json.depthLimit < around + depth + 1 → ∃ fault, node.value = .error fault) := by
  induction depth generalizing around with
  | zero =>
      refine ⟨_, .array (.finished (around + 1)), fun deep => ?_⟩
      rw [Json.arrayAt, if_neg (by omega)]
      exact ⟨_, rfl⟩
  | succ depth ih =>
      obtain ⟨inside, spelled, tooDeep⟩ := ih (around + 1)
      refine ⟨_, .array (.next spelled (.finished _)), fun deep => ?_⟩
      obtain ⟨fault, noValue⟩ := tooDeep (by omega)
      rw [Json.arrayAt]
      split
      · simp [Json.Node.value, Json.Items.values, noValue, bind, Except.bind]
      · exact ⟨_, rfl⟩

/-- Arguments with arrays nested as deep as the reader goes, and so one level deeper with the
object around them. -/
def deepArguments : String :=
  String.ofList ('{' :: (Json.quoted "a" ++ ':' :: (nestedArrays Json.depthLimit ++ ['}'])))

/-- Such arguments are the text of an object, but its members cannot be held. -/
theorem isText_deepArguments :
    ∃ members, Json.IsText deepArguments.toList (.object members) ∧
      ∀ named, members.fields ≠ .ok named := by
  obtain ⟨node, spelled, tooDeep⟩ := exists_spells_nestedArrays 126 1
  obtain ⟨fault, noValue⟩ := tooDeep (by decide)
  have member := Json.SpellsMember.quoted "a" spelled (.finished 1)
  refine ⟨_, ⟨_, [], ?_, .object (.next member), List.forall_mem_nil _⟩, fun named held => ?_⟩
  · rw [deepArguments, String.toList_ofList, List.append_nil]
    rfl
  · obtain ⟨_, value, _, -, hasValue, -⟩ := Json.Members.fields_next_iff.mp held
    rw [noValue] at hasValue
    cases hasValue

/-- A response with a call that has deep arguments. -/
def deepCall : Response where
  id := "resp_1"
  status := some "completed"
  output := [{ type := "function_call", callId := "call_1", name := "find",
               arguments := deepArguments }]

/-- It is not enough that the arguments are the text of an object: this response fails, although
its call has such arguments. -/
theorem deep_arguments_refused :
    ¬ ∀ response : Response, response.output ≠ [] →
      (∀ item ∈ response.output,
        item.type = "message" ∨ item.type = "function_call" ∨ item.type = "reasoning") →
      (∀ item ∈ response.output, item.type = "message" →
        ∀ entry ∈ item.content, entry.type = "output_text" ∨ entry.type = "refusal") →
      (∀ item ∈ response.output, item.type = "function_call" →
        item.arguments = "" ∨ ∃ members, Json.IsText item.arguments.toList (.object members)) →
      (∃ item ∈ response.output, Substantial item) → ∃ made, generation response = .ok made := by
  intro succeeds
  obtain ⟨members, isText, notHeld⟩ := isText_deepArguments
  have only : ∀ item ∈ deepCall.output, item.type = "function_call" ∧
      item.arguments = deepArguments := by
    intro item member
    obtain rfl := List.mem_singleton.mp member
    exact ⟨rfl, rfl⟩
  have made := succeeds deepCall (List.cons_ne_nil _ _)
    (fun item member => .inr (.inl (only item member).1))
    (fun item member isMessage => by simp [(only item member).1] at isMessage)
    (fun item member _ => .inr ⟨members, (only item member).2 ▸ isText⟩)
    ⟨_, List.mem_singleton_self _, .inr (.inl rfl)⟩
  have usable := (exists_generation_iff deepCall).mp made
  obtain ⟨arguments, holds⟩ := (readable_iff_supported.mp
    (usable.1 _ (List.mem_singleton_self _))).arguments rfl
  have nonempty : deepArguments ≠ "" := by
    intro empty
    rw [empty] at isText
    exact not_isText_nil _ isText
  obtain ⟨found, named, isObject, held, -⟩ :=
    Json.readText_fields_eq_ok_iff.mp (readText_of_argumentsText holds nonempty)
  have same : Json.Node.object found = .object members :=
    (Json.treeOf_of_isText isObject).symm.trans (Json.treeOf_of_isText isText)
  cases same
  exact notHeld named held

end ResponsesBridge.Inbound
