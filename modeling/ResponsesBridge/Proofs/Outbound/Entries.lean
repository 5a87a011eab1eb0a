import ResponsesBridge.Proofs.Outbound.Conversion
import Mathlib.Data.List.Chain
import Mathlib.Tactic.Tauto

/-!
# The input shows every entry in its order and its place

The input is read from left to right, each message as the texts in it. What a reader comes across
are the entries of the conversation: the passages that are not blank, the calls and the answers,
turn by turn and part by part (`entries_keep_place`). Two texts are in one message exactly if they
come from one turn and only texts stand between them.

Each entry is placed: it has the position of its turn and the position of its item. Positions never
fall from one entry to the next, and neighbours share an item exactly if they are texts of one turn
(`Follows`). This is kept because no two neighbouring items of a turn are messages
(`PartsBecome.separate`) and no item is without entries (`PartsBecome.speaks`); what it says about
neighbours carries over to entries further apart (`Grouped.of_follows`).
-/

set_option autoImplicit false

namespace ResponsesBridge.Outbound

open Conversation (Turn Part)
open Wire (InputItem InputRole)

/-! ## Entries -/

/-- What a reader of the input comes across. The role of a text is what the role of its turn is sent
as, which is a failure if that role is unknown. -/
inductive Entry
  | text (role : Except Failure InputRole) (shown : String)
  | call (name arguments : String)
  | answer (result : String)

/-- The entry is a text. -/
def Entry.IsText : Entry → Prop
  | .text _ _ => True
  | .call _ _ | .answer _ => False

/-- The entries of an item: one for each text of a message. -/
def itemEntries : InputItem → List Entry
  | .message message => message.content.map (.text (.ok message.role))
  | .functionCall call => [.call call.name call.arguments]
  | .functionCallOutput output => [.answer output.output]

/-- The entries of a part, at most one. The parts that cannot be sent have none. -/
def partEntries (role : Except Failure InputRole) : Part → List Entry
  | .passage passage => if Text.isBlank passage.text then [] else [.text role passage.text]
  | .call call => [.call call.name (objectText call.arguments)]
  | .answer answer => [.answer (objectText answer.result)]
  | _ => []

/-- The entries of a turn. -/
def turnEntries (turn : Turn) : List Entry :=
  turn.parts.flatMap (partEntries (inputRole turn.role))

/-- The entries of a list of things, each with the position of the thing that it belongs to. -/
def numbered {Thing : Type} (entries : Thing → List Entry) :
    Nat → List Thing → List (Nat × Entry)
  | _, [] => []
  | place, first :: rest =>
      (entries first).map (fun entry => (place, entry)) ++ numbered entries (place + 1) rest

theorem numbered_append {Thing : Type} (entries : Thing → List Entry) (start : Nat)
    (first later : List Thing) :
    numbered entries start (first ++ later) =
      numbered entries start first ++ numbered entries (start + first.length) later := by
  induction first generalizing start with
  | nil => rfl
  | cons thing first ih =>
      simp only [List.cons_append, numbered, ih, List.append_assoc, List.length_cons,
        Nat.add_assoc, Nat.add_comm 1]

/-- Without the positions these are the entries of all things. -/
theorem map_snd_numbered {Thing : Type} (entries : Thing → List Entry) (start : Nat)
    (things : List Thing) :
    (numbered entries start things).map Prod.snd = things.flatMap entries := by
  induction things generalizing start with
  | nil => rfl
  | cons first rest ih => simp [numbered, ih, Function.comp_def]

theorem mem_numbered {Thing : Type} {entries : Thing → List Entry} {start : Nat}
    {things : List Thing} {place : Nat × Entry} (mem : place ∈ numbered entries start things) :
    start ≤ place.1 ∧ place.1 < start + things.length := by
  induction things generalizing start with
  | nil => cases mem
  | cons first rest ih =>
      simp only [numbered, List.mem_append, List.mem_map, List.length_cons] at mem ⊢
      rcases mem with ⟨entry, -, rfl⟩ | later
      · simp only; omega
      · have := ih later; omega

/-! ## Entries in their places -/

/-- An entry with the position of the turn that it comes from and of the item that it goes to. -/
structure Placed where
  turn : Nat
  item : Nat
  entry : Entry

namespace Placed

/-- The entry and where it comes from. -/
def source (placed : Placed) : Nat × Entry := (placed.turn, placed.entry)

/-- The entry and where it goes to. -/
def target (placed : Placed) : Nat × Entry := (placed.item, placed.entry)

/-- What holds from one entry to the next. -/
structure Follows (first second : Placed) : Prop where
  turns : first.turn ≤ second.turn
  items : first.item ≤ second.item
  together : first.item = second.item ↔
    first.turn = second.turn ∧ first.entry.IsText ∧ second.entry.IsText

end Placed

open Placed (Follows)

/-- Two texts are in one item exactly if they are of one turn and only texts stand between
them. -/
def Grouped (placed : List Placed) : Prop :=
  ∀ (before : List Placed) (first : Placed) (between : List Placed) (second : Placed)
    (behind : List Placed),
    placed = before ++ first :: (between ++ second :: behind) →
      first.entry.IsText → second.entry.IsText →
        (first.item = second.item ↔
          first.turn = second.turn ∧ ∀ other ∈ between, other.entry.IsText)

/-- Positions do not fall, so two entries share an item if and only if all neighbours from the one
to the other do. -/
theorem Follows.far {first second : Placed} {between : List Placed}
    (chain : (first :: (between ++ [second])).IsChain Follows) :
    first.turn ≤ second.turn ∧ first.item ≤ second.item ∧
      (first.item = second.item ↔ first.turn = second.turn ∧ first.entry.IsText ∧
        second.entry.IsText ∧ ∀ other ∈ between, other.entry.IsText) := by
  induction between generalizing first with
  | nil =>
      have follows : Follows first second := (List.isChain_cons_cons.mp chain).1
      exact ⟨follows.turns, follows.items, by simpa using follows.together⟩
  | cons next between ih =>
      obtain ⟨follows, rest⟩ := List.isChain_cons_cons.mp chain
      obtain ⟨turns, items, together⟩ := ih rest
      have sameItem : first.item = second.item ↔
          first.item = next.item ∧ next.item = second.item := by
        have := follows.items; omega
      have sameTurn : first.turn = second.turn ↔
          first.turn = next.turn ∧ next.turn = second.turn := by
        have := follows.turns; omega
      refine ⟨follows.turns.trans turns, follows.items.trans items, ?_⟩
      rw [sameItem, sameTurn, follows.together, together, List.forall_mem_cons]
      tauto

theorem Grouped.of_follows {placed : List Placed} (chain : placed.IsChain Follows) :
    Grouped placed := by
  rintro before first between second behind rfl textFirst textSecond
  have infixed : first :: (between ++ [second]) <:+:
      before ++ first :: (between ++ second :: behind) := ⟨before, behind, by simp⟩
  have near : (first :: (between ++ [second])).IsChain Follows := chain.infix infixed
  rw [(Follows.far near).2.2]
  simp only [textFirst, textSecond, true_and]

/-! ## The items of a turn -/

/-- Two items of which one is no message. -/
def Separate (first second : InputItem) : Prop :=
  isExchangeItem first ∨ isExchangeItem second

/-- Texts are entries of messages only. -/
theorem not_isExchangeItem_of_text {item : InputItem} {entry : Entry}
    (mem : entry ∈ itemEntries item) (text : entry.IsText) : ¬isExchangeItem item := by
  cases item with
  | message _ => exact Bool.false_ne_true
  | functionCall _ | functionCallOutput _ =>
      cases List.mem_singleton.mp mem
      cases text

/-- A run of passages and the item that ends it, in front of separate items. -/
theorem separate_run {role : String} {run : List String} {message items : List InputItem}
    {item : InputItem} (shown : messageItems role run = .ok message) (exchange : isExchangeItem item)
    (later : items.IsChain Separate) : (message ++ item :: items).IsChain Separate := by
  have behind : (item :: items).IsChain Separate :=
    later.cons fun _ _ => .inl exchange
  rcases messageItems_eq_ok_iff.mp shown with ⟨-, rfl⟩ | ⟨-, known, -, rfl⟩
  · exact behind
  · exact .cons_cons (.inr exchange) behind

/-- **No two neighbouring items of a turn are messages.** -/
theorem PartsBecome.separate {role : String} {ledger next : CallLedger} {run : List String}
    {parts : List Part} {items : List InputItem}
    (become : PartsBecome role ledger run parts items next) : items.IsChain Separate := by
  induction become with
  | done shown =>
      rcases messageItems_eq_ok_iff.mp shown with ⟨-, rfl⟩ | ⟨-, known, -, rfl⟩
      · exact .nil
      · exact .singleton _
  | passage later ih => exact ih
  | call shown named later ih => exact separate_run shown rfl ih
  | answer shown settled later ih => exact separate_run shown rfl ih

/-- An item has an entry, and so a message is not empty. -/
def Speaks (item : InputItem) : Prop :=
  itemEntries item ≠ []

theorem speaks_messageItems {role : String} {run : List String} {message : List InputItem}
    (shown : messageItems role run = .ok message) : ∀ item ∈ message, Speaks item := by
  rcases messageItems_eq_ok_iff.mp shown with ⟨-, rfl⟩ | ⟨some, known, -, rfl⟩
  · exact List.forall_mem_nil _
  · simpa [Speaks, itemEntries] using some

/-- **No item is empty.** -/
theorem PartsBecome.speaks {role : String} {ledger next : CallLedger} {run : List String}
    {parts : List Part} {items : List InputItem}
    (become : PartsBecome role ledger run parts items next) : ∀ item ∈ items, Speaks item := by
  induction become with
  | done shown => exact speaks_messageItems shown
  | passage later ih => exact ih
  | call shown named later ih | answer shown settled later ih =>
      rw [List.forall_mem_append, List.forall_mem_cons]
      exact ⟨speaks_messageItems shown, List.cons_ne_nil _ _, ih⟩

/-- The entries of a run of passages. -/
def runEntries (role : Except Failure InputRole) (run : List String) : List Entry :=
  (shownTexts run).map (.text role)

theorem runEntries_append (role : Except Failure InputRole) (run : List String)
    (passage : Conversation.Passage) :
    runEntries role (run ++ [passage.text]) =
      runEntries role run ++ partEntries role (.passage passage) := by
  by_cases blank : Text.isBlank passage.text <;>
    simp [runEntries, shownTexts, List.filter_append, partEntries, blank]

theorem flatMap_messageItems {role : String} {run : List String} {message : List InputItem}
    (shown : messageItems role run = .ok message) :
    message.flatMap itemEntries = runEntries (inputRole role) run := by
  rcases messageItems_eq_ok_iff.mp shown with ⟨nothing, rfl⟩ | ⟨-, known, role, rfl⟩
  · simp [runEntries, nothing]
  · simp [runEntries, itemEntries, role]

/-- **The items show the run and the parts behind it**, entry by entry. -/
theorem PartsBecome.shows {role : String} {ledger next : CallLedger} {run : List String}
    {parts : List Part} {items : List InputItem}
    (become : PartsBecome role ledger run parts items next) :
    items.flatMap itemEntries =
      runEntries (inputRole role) run ++ parts.flatMap (partEntries (inputRole role)) := by
  induction become with
  | done shown => simpa using flatMap_messageItems shown
  | passage later ih =>
      rw [ih, runEntries_append, List.flatMap_cons, List.append_assoc]
  | call shown named later ih | answer shown settled later ih =>
      rw [List.flatMap_append, flatMap_messageItems shown, List.flatMap_cons, ih,
        List.flatMap_cons]
      rfl

/-! ## Places in a turn, and in a conversation -/

/-- The entries of the items of a turn in their places. -/
def placedItems (turn start : Nat) (items : List InputItem) : List Placed :=
  (numbered itemEntries start items).map fun place => ⟨turn, place.1, place.2⟩

theorem placedItems_cons (turn start : Nat) (item : InputItem) (items : List InputItem) :
    placedItems turn start (item :: items) =
      (itemEntries item).map (Placed.mk turn start) ++ placedItems turn (start + 1) items := by
  simp [placedItems, numbered, Function.comp_def]

theorem mem_placedItems {turn start : Nat} {items : List InputItem} {placed : Placed}
    (mem : placed ∈ placedItems turn start items) :
    placed.turn = turn ∧ start ≤ placed.item ∧ placed.item < start + items.length := by
  obtain ⟨place, numbered, rfl⟩ := List.mem_map.mp mem
  exact ⟨rfl, mem_numbered numbered⟩

theorem map_target_placedItems (turn start : Nat) (items : List InputItem) :
    (placedItems turn start items).map Placed.target = numbered itemEntries start items := by
  simp [placedItems, Placed.target, Function.comp_def]

theorem map_source_placedItems (turn start : Nat) (items : List InputItem) :
    (placedItems turn start items).map Placed.source =
      (items.flatMap itemEntries).map fun entry => (turn, entry) := by
  rw [← map_snd_numbered itemEntries start items]
  simp [placedItems, Placed.source, Function.comp_def]

/-- The first place of items that all speak is one of their first item. -/
theorem head?_placedItems {turn start : Nat} {item : InputItem} {items : List InputItem}
    (speaks : Speaks item) {placed : Placed}
    (head : placed ∈ (placedItems turn start (item :: items)).head?) :
    placed.entry ∈ itemEntries item := by
  obtain ⟨entry, entries, shape⟩ := List.exists_cons_of_ne_nil speaks
  rw [placedItems_cons, shape] at head
  cases Option.some.inj head
  simp [shape]

/-- The entries of one item follow each other. -/
theorem isChain_item (turn start : Nat) (item : InputItem) :
    ((itemEntries item).map (Placed.mk turn start)).IsChain Follows := by
  cases item with
  | message message =>
      simp only [itemEntries, List.map_map]
      refine (List.isChain_map _).mpr (List.Pairwise.isChain (List.pairwise_of_forall ?_))
      exact fun _ _ => ⟨le_rfl, le_rfl, iff_of_true rfl ⟨rfl, trivial, trivial⟩⟩
  | functionCall _ | functionCallOutput _ => exact .singleton _

theorem isChain_placedItems {turn start : Nat} {items : List InputItem}
    (separate : items.IsChain Separate) (speaks : ∀ item ∈ items, Speaks item) :
    (placedItems turn start items).IsChain Follows := by
  induction items generalizing start with
  | nil => exact .nil
  | cons item items ih =>
      rw [placedItems_cons, List.isChain_append]
      refine ⟨isChain_item turn start item,
        ih separate.tail fun item mem => speaks item (.tail _ mem), ?_⟩
      intro last isLast head isHead
      obtain ⟨entry, mem, rfl⟩ := List.mem_map.mp (List.mem_of_getLast? isLast)
      obtain ⟨sameTurn, later, -⟩ := mem_placedItems (List.mem_of_head? isHead)
      refine ⟨sameTurn.ge, by simp only; omega, iff_of_false (by simp only; omega) ?_⟩
      rintro ⟨-, textLast, textHead⟩
      -- both items would be messages
      cases items with
      | nil => cases isHead
      | cons next items =>
          have spoken := head?_placedItems (speaks next (.tail _ (.head _))) isHead
          rcases (List.isChain_cons_cons.mp separate).1 with exchange | exchange
          · exact not_isExchangeItem_of_text mem textLast exchange
          · exact not_isExchangeItem_of_text spoken textHead exchange

/-- The entries of turns from a position on, in their places from a position of the items on. -/
structure Arranged (turn item : Nat) (turns : List Turn) (items : List InputItem)
    (placed : List Placed) : Prop where
  sources : placed.map Placed.source = numbered turnEntries turn turns
  targets : placed.map Placed.target = numbered itemEntries item items
  follows : placed.IsChain Follows

theorem Arranged.bounds {turn item : Nat} {turns : List Turn} {items : List InputItem}
    {placed : List Placed} (arranged : Arranged turn item turns items placed) {place : Placed}
    (mem : place ∈ placed) : turn ≤ place.turn ∧ item ≤ place.item := by
  have source : place.source ∈ numbered turnEntries turn turns :=
    arranged.sources ▸ List.mem_map_of_mem mem
  have target : place.target ∈ numbered itemEntries item items :=
    arranged.targets ▸ List.mem_map_of_mem mem
  exact ⟨(mem_numbered source).1, (mem_numbered target).1⟩

theorem TurnsBecome.arranged {ledger next : CallLedger} {turns : List Turn}
    {items : List InputItem} (become : TurnsBecome ledger turns items next) (turn item : Nat) :
    ∃ placed, Arranged turn item turns items placed := by
  induction become generalizing turn item with
  | done => exact ⟨[], rfl, rfl, .nil⟩
  | @turn _ _ _ first turns items later become rest ih =>
      obtain ⟨placed, arranged⟩ := ih (turn + 1) (item + items.length)
      refine ⟨placedItems turn item items ++ placed, ?_, ?_, ?_⟩
      · rw [List.map_append, map_source_placedItems, become.shows, arranged.sources]
        rfl
      · rw [List.map_append, map_target_placedItems, arranged.targets, numbered_append]
      · refine List.isChain_append.mpr
          ⟨isChain_placedItems become.separate become.speaks, arranged.follows, ?_⟩
        intro last isLast head isHead
        obtain ⟨lastTurn, -, lastItem⟩ := mem_placedItems (List.mem_of_getLast? isLast)
        obtain ⟨headTurn, headItem⟩ := arranged.bounds (List.mem_of_head? isHead)
        exact ⟨by omega, by omega, iff_of_false (by omega) fun both => by omega⟩

theorem TurnsBecome.speaks {ledger next : CallLedger} {turns : List Turn}
    {items : List InputItem} (become : TurnsBecome ledger turns items next) :
    ∀ item ∈ items, Speaks item := by
  induction become with
  | done => exact List.forall_mem_nil _
  | turn first rest ih => exact List.forall_mem_append.mpr ⟨first.speaks, ih⟩

/-- **The input shows every entry in its order and its place.** Of a conversation that is
converted, no message is empty; the entries of the items, from left to right, are the entries of
the turns, part by part; and with the positions of its turn and its item beside each entry, two
texts are in one message exactly if they come from one turn and only texts stand between them. -/
theorem entries_keep_place {turns : List Turn} {items : List InputItem}
    (converted : inputItems turns = .ok items) :
    (∀ message, .message message ∈ items → message.content ≠ []) ∧
      items.flatMap itemEntries = turns.flatMap turnEntries ∧
      ∃ placed : List Placed,
        placed.map Placed.target = numbered itemEntries 0 items ∧
          placed.map Placed.source = numbered turnEntries 0 turns ∧ Grouped placed := by
  obtain ⟨last, become⟩ := inputItems_eq_ok_iff.mp converted
  obtain ⟨placed, arranged⟩ := become.arranged 0 0
  refine ⟨?_, ?_, placed, arranged.targets, arranged.sources, .of_follows arranged.follows⟩
  · intro message mem
    simpa [Speaks, itemEntries] using become.speaks _ mem
  · calc items.flatMap itemEntries
        = (placed.map Placed.target).map Prod.snd := by
          rw [arranged.targets, map_snd_numbered]
      _ = (placed.map Placed.source).map Prod.snd := by
          simp only [List.map_map, Function.comp_def, Placed.target, Placed.source]
      _ = turns.flatMap turnEntries := by rw [arranged.sources, map_snd_numbered]

/-- A conversation with blank passages, and with passages on both sides of a call and an answer. -/
def mixedTurns : List Turn :=
  [⟨"", [.ofText "\u3000", .ofText "Is", .ofText "", .ofText "it?"]⟩,
    ⟨"model", [.ofText "See", .call ⟨none, "find", []⟩, .ofText " ", .ofText "Yes"]⟩,
    ⟨"user", [.answer { name := "find" }, .ofText " "]⟩, ⟨"user", [.ofText "So"]⟩,
    ⟨"user", [.ofText "be it"]⟩]

/-- The items of the conversation. -/
def mixedItems : List InputItem :=
  [.message ⟨.user, ["Is", "it?"]⟩, .message ⟨.assistant, ["See"]⟩,
    .functionCall ⟨"relay-call-1", "find", "\x7b\x7d"⟩, .message ⟨.assistant, ["Yes"]⟩,
    .functionCallOutput ⟨"relay-call-1", "\x7b\x7d"⟩, .message ⟨.user, ["So"]⟩,
    .message ⟨.user, ["be it"]⟩]

theorem entries_keep_place_mixed :
    inputItems mixedTurns = .ok mixedItems ∧
      ∃ placed : List Placed,
        placed.map Placed.target =
            [(0, .text (.ok .user) "Is"), (0, .text (.ok .user) "it?"),
              (1, .text (.ok .assistant) "See"), (2, .call "find" "\x7b\x7d"),
              (3, .text (.ok .assistant) "Yes"), (4, .answer "\x7b\x7d"),
              (5, .text (.ok .user) "So"), (6, .text (.ok .user) "be it")] ∧
          placed.map Placed.turn = [0, 0, 1, 1, 1, 2, 3, 4] ∧ Grouped placed := by
  have converted : inputItems mixedTurns = .ok mixedItems := rfl
  obtain ⟨-, -, placed, targets, sources, grouped⟩ := entries_keep_place converted
  have turns : placed.map Placed.turn = [0, 0, 1, 1, 1, 2, 3, 4] := by
    have firsts := congrArg (List.map Prod.fst) sources
    rwa [List.map_map] at firsts
  exact ⟨converted, placed, targets, turns, grouped⟩

end ResponsesBridge.Outbound
