import ResponsesBridge.Proofs.Inbound.Reception
import Mathlib.Data.Finset.Card
import Mathlib.Data.List.DropRight
import Mathlib.Data.List.Induction

/-!
# Open calls and the history of a stream

The arguments of a call that are open can be read off the events: they are the fragments of its item
since the event that completed the arguments of the item last (`openFragments`). A dictionary
holds them for all items at once. `find?_openBehind` says that under each item it holds their text,
and nothing where that is empty; every event keeps this (`find?_received`), whatever other items it
is about and whether or not it fails.

What completes a call therefore depends on the fragments of its own item alone, and leaves nothing
behind (`completion_by_history`).
-/

set_option autoImplicit false

namespace ResponsesBridge.Inbound

open Wire (Event Delta DoneArguments)

/-! ## Histories -/

/-- Whether an event completes the arguments of an item. -/
def completes (item : String) : Event → Bool
  | .argumentsDone done => done.itemId == item
  | _ => false

/-- The fragment of the arguments of an item that an event brings. -/
def fragmentOf? (item : String) : Event → Option String
  | .argumentsDelta fragment => if fragment.itemId = item then some fragment.delta else none
  | _ => none

/-- The fragments of the arguments of an item since they were completed last, in order. -/
def openFragments (item : String) (events : List Event) : List String :=
  (events.rtakeWhile fun event => !completes item event).filterMap (fragmentOf? item)

/-- The text of the fragments of an item since its arguments were completed last. -/
def openText (item : String) (events : List Event) : String :=
  String.join (openFragments item events)

section Histories

variable {item : String} {event : Event}

theorem openFragments_concat_of_completes (events : List Event)
    (completed : completes item event = true) : openFragments item (events ++ [event]) = [] := by
  simp [openFragments, completed]

theorem openFragments_concat (events : List Event) (isOpen : completes item event = false) :
    openFragments item (events ++ [event]) =
      openFragments item events ++ (fragmentOf? item event).toList := by
  simp only [openFragments, List.rtakeWhile_concat, isOpen, Bool.not_false, if_true,
    List.filterMap_append]
  cases brought : fragmentOf? item event <;> simp [brought]

/-- Behind an event that completes the arguments of an item its fragments start again. -/
theorem openFragments_append_cons (before : List Event) (completed : completes item event = true)
    (later : List Event) :
    openFragments item (before ++ event :: later) = openFragments item later := by
  induction later using List.reverseRecOn with
  | nil => exact openFragments_concat_of_completes before completed
  | append_singleton later last ih =>
      have regrouped : before ++ event :: (later ++ [last]) =
          (before ++ event :: later) ++ [last] := by
        simp
      rw [regrouped]
      cases again : completes item last with
      | true =>
          rw [openFragments_concat_of_completes _ again, openFragments_concat_of_completes _ again]
      | false => rw [openFragments_concat _ again, openFragments_concat _ again, ih]

theorem openText_concat_of_completes (events : List Event)
    (completed : completes item event = true) : openText item (events ++ [event]) = "" := by
  rw [openText, openFragments_concat_of_completes events completed, String.join_nil]

theorem openText_concat (events : List Event) (isOpen : completes item event = false) :
    openText item (events ++ [event]) =
      openText item events ++ (fragmentOf? item event).getD "" := by
  rw [openText, openFragments_concat events isOpen, String.join_append, ← openText]
  cases fragmentOf? item event <;> simp

/-- The text of fragments is empty exactly if all of them are. -/
theorem join_ne_empty_iff {fragments : List String} :
    String.join fragments ≠ "" ↔ ∃ fragment ∈ fragments, fragment ≠ "" := by
  induction fragments with
  | nil => simp
  | cons fragment fragments ih =>
      rw [String.join_cons, ne_eq, String.append_eq_empty_iff, not_and_or, List.exists_mem_cons_iff]
      exact or_congr_right ih

end Histories

/-! ## What is kept under an item -/

/-- A text as it is kept under an item: an empty one is not. -/
def kept? (text : String) : Option String :=
  if text.isEmpty then none else some text

theorem getD_kept? (text : String) : (kept? text).getD "" = text := by
  unfold kept?
  split
  · rename_i empty
    exact (String.isEmpty_iff.mp empty).symm
  · rfl

theorem kept?_ne_none_iff {text : String} : kept? text ≠ none ↔ text ≠ "" := by
  simp [kept?]

/-- A fragment is put behind what has been kept. -/
theorem kept?_append (text fragment : String) :
    kept? (text ++ fragment) =
      if fragment.isEmpty then kept? text else some (text ++ fragment) := by
  by_cases empty : fragment = "" <;> simp [kept?, empty]

section Kept

variable {item : String} {collected : OpenArguments} {event : Event}

/-- Appending a fragment puts it behind the text of its item. -/
theorem find?_append {text : String} {fragment : Delta}
    (holds : collected.find? item = kept? text) :
    (collected.append fragment).find? item =
      kept? (text ++ if fragment.itemId = item then fragment.delta else "") := by
  unfold OpenArguments.append
  by_cases same : fragment.itemId = item
  · subst same
    rw [if_pos rfl, kept?_append]
    split
    · exact holds
    · rw [Dictionary.find?_insert_self, OpenArguments.textOf, holds, getD_kept?]
  · rw [if_neg same, String.append_empty]
    split
    · exact holds
    · rw [Dictionary.find?_insert_of_ne (Ne.symm same), holds]

/-- What completes the arguments of an item takes them away, also if it fails. -/
theorem find?_received_of_completes (collected : OpenArguments)
    (completed : completes item event = true) :
    (received collected event).2.find? item = none := by
  cases event with
  | argumentsDone done =>
      obtain rfl : done.itemId = item := by simpa [completes] using completed
      exact Dictionary.find?_erase_self _ _
  | _ => cases completed

/-- Any other event keeps what is kept under an item, and puts its fragment behind it. -/
theorem find?_received {text : String} (holds : collected.find? item = kept? text)
    (isOpen : completes item event = false) :
    (received collected event).2.find? item =
      kept? (text ++ (fragmentOf? item event).getD "") := by
  cases event with
  | argumentsDelta fragment =>
      have brought : (fragmentOf? item (.argumentsDelta fragment)).getD "" =
          if fragment.itemId = item then fragment.delta else "" := by
        by_cases same : fragment.itemId = item <;> simp [fragmentOf?, same]
      rw [brought]
      exact find?_append holds
  | argumentsDone done =>
      have different : done.itemId ≠ item := beq_eq_false_iff_ne.mp isOpen
      have noFragment : fragmentOf? item (.argumentsDone done) = none := rfl
      rw [noFragment, Option.getD_none, String.append_empty, ← holds]
      exact Dictionary.find?_erase_of_ne different.symm collected
  | _ => simpa [received, fragmentOf?] using holds

end Kept

/-- **Under each item stands the text of its open fragments**, and nothing where that is empty. -/
theorem find?_openBehind (events : List Event) (item : String) :
    (openBehind events).find? item = kept? (openText item events) := by
  induction events using List.reverseRecOn with
  | nil => rfl
  | append_singleton events event ih =>
      rw [openBehind_concat]
      cases completed : completes item event with
      | true =>
          rw [find?_received_of_completes _ completed,
            openText_concat_of_completes events completed]
          rfl
      | false => rw [find?_received ih completed, openText_concat events completed]

theorem textOf_openBehind (events : List Event) (item : String) :
    (openBehind events).textOf item = openText item events := by
  rw [OpenArguments.textOf, find?_openBehind, getD_kept?]

/-! ## Completed calls -/

/-- The text of the arguments of a completed call: those of the event unless they are empty, else
the collected ones unless they are, else an empty object. -/
def argumentText (done : DoneArguments) (collected : String) : String :=
  if done.arguments ≠ "" then done.arguments
  else if collected ≠ "" then collected
  else "\x7b\x7d"

/-- What comes of a call whose arguments are completed. -/
def completion (done : DoneArguments) (collected : String) : Reception := do
  let arguments ← callArguments (argumentText done collected)
  return some (.ofPart (.call ⟨some done.itemId, done.name, arguments⟩))

theorem received_argumentsDone (collected : OpenArguments) (done : DoneArguments) :
    (received collected (.argumentsDone done)).1 =
      completion done (collected.textOf done.itemId) := by
  have texts : firstArguments [done.arguments, collected.textOf done.itemId] =
      argumentText done (collected.textOf done.itemId) := by
    simp [firstArguments, argumentText]
  simp only [received, completedCall, completion, texts]
  cases callArguments (argumentText done (collected.textOf done.itemId)) <;> rfl

/-- **A completed call is what the history of its own item says.** Whatever is received before it
and behind it, its arguments are those of the event, else the fragments of its item since the last
completion, else none; no other event matters. It leaves nothing of its item, whether or not its
arguments can be read: under the item stands only what comes later. As many items are open at any
time as have had a fragment that is not empty since they were completed last. -/
theorem completion_by_history :
    (∀ (before : List Event) (done : DoneArguments) (after : List Event),
        (outcomes (before ++ .argumentsDone done :: after))[before.length]? =
          some (completion done (openText done.itemId before))) ∧
      (∀ (before other : List Event) (done : DoneArguments) (after later : List Event),
        openFragments done.itemId before = openFragments done.itemId other →
          (outcomes (before ++ .argumentsDone done :: after))[before.length]? =
            (outcomes (other ++ .argumentsDone done :: later))[other.length]?) ∧
      (∀ (before : List Event) (done : DoneArguments),
        (openBehind (before ++ [.argumentsDone done])).find? done.itemId = none ∧
          ∀ later : List Event,
            (openBehind (before ++ .argumentsDone done :: later)).find? done.itemId =
              (openBehind later).find? done.itemId) ∧
      ∀ events : List Event, ∃ items : Finset String,
        (∀ item, item ∈ items ↔ ∃ fragment ∈ openFragments item events, fragment ≠ "") ∧
          (openBehind events).size = items.card := by
  have outcome : ∀ (before : List Event) (done : DoneArguments) (after : List Event),
      (outcomes (before ++ .argumentsDone done :: after))[before.length]? =
        some (completion done (openText done.itemId before)) := by
    intro before done after
    rw [getElem?_outcomes, received_argumentsDone, textOf_openBehind]
  refine ⟨outcome, ?_, ?_, ?_⟩
  · intro before other done after later same
    rw [outcome, outcome, openText, openText, same]
  · intro before done
    have completed : completes done.itemId (.argumentsDone done) = true := beq_self_eq_true _
    refine ⟨?_, fun later => ?_⟩
    · rw [openBehind_concat, find?_received_of_completes _ completed]
    · rw [find?_openBehind, find?_openBehind, openText, openText,
        openFragments_append_cons before completed later]
  · intro events
    refine ⟨(openBehind events).names.toFinset, fun item => ?_, ?_⟩
    · rw [List.mem_toFinset, Dictionary.mem_names_iff, find?_openBehind, kept?_ne_none_iff,
        openText, join_ne_empty_iff]
    · rw [List.toFinset_card_of_nodup (Dictionary.nodup_names _), Dictionary.length_names]

end ResponsesBridge.Inbound
