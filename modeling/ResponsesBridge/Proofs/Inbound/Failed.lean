import ResponsesBridge.Inbound.Fragments
import ResponsesBridge.Service.Exchange
import Mathlib.Logic.Basic

/-!
# Responses that report an error

A stream that reports a failed response fails, whatever else the response says. A whole response
that reports an error is judged by its output alone: it fails where the output cannot be used, and
otherwise becomes a generation like any other (`failed_response_by_path`).

What can be used is told without the conversion (`Readable`, `Substantial`): every item is of a kind
that has parts, and at least one of them has a part. Entries and items are gone through in the same
way, so one lemma about a list of things that yield parts serves both (`Yields.list`).
-/

set_option autoImplicit false

namespace ResponsesBridge.Inbound

open Conversation (Part Generation)
open Wire (OutputContent OutputItem Response ResponseError)

/-! ## What can be used -/

/-- An entry of a message that can be read. -/
def ReadableEntry (entry : OutputContent) : Prop :=
  entry.type = "output_text" ∨ entry.type = "refusal"

/-- An entry of a message that makes a part if it can be read. -/
def SubstantialEntry (entry : OutputContent) : Prop :=
  entry.type = "refusal" ∨ entry.text ≠ ""

/-- An item that can be read: a message all of whose entries can, a call whose arguments are an
object, or reasoning. -/
def Readable (item : OutputItem) : Prop :=
  (item.type = "message" ∧ ∀ entry ∈ item.content, ReadableEntry entry) ∨
    (item.type = "function_call" ∧ ∃ arguments, callArguments item.arguments = .ok arguments) ∨
    item.type = "reasoning"

/-- An item that makes a part if it can be read: a message with an entry that does, a call, or
reasoning with a text. -/
def Substantial (item : OutputItem) : Prop :=
  (item.type = "message" ∧ ∃ entry ∈ item.content, SubstantialEntry entry) ∨
    item.type = "function_call" ∨
    item.type = "reasoning" ∧ ∃ entry ∈ item.content ++ item.summary, entry.text ≠ ""

/-- An output that can be used: all items can be read, and one of them makes a part. -/
def Usable (items : List OutputItem) : Prop :=
  (∀ item ∈ items, Readable item) ∧ ∃ item ∈ items, Substantial item

/-! ## Parts of what can be used -/

/-- A result is parts exactly if something can be read, and is some parts then exactly if it is
substantial. -/
structure Yields (result : Except Failure (List Part)) (readable substantial : Prop) : Prop where
  succeeds : (∃ parts, result = .ok parts) ↔ readable
  some : ∀ parts, result = .ok parts → (parts ≠ [] ↔ substantial)

theorem Yields.of_ok {parts : List Part} {readable substantial : Prop} (isReadable : readable)
    (isSome : parts ≠ [] ↔ substantial) : Yields (.ok parts) readable substantial := by
  constructor
  · exact ⟨fun _ => isReadable, fun _ => ⟨parts, rfl⟩⟩
  · rintro _ ⟨rfl⟩
    exact isSome

theorem Yields.of_error {failure : Failure} {readable substantial : Prop}
    (notReadable : ¬ readable) : Yields (.error failure) readable substantial := by
  constructor
  · constructor
    · rintro ⟨_, ⟨⟩⟩
    · intro isReadable
      exact absurd isReadable notReadable
  · rintro _ ⟨⟩

/-- The parts of things in a row are yielded if those of each thing are. -/
theorem Yields.list {α : Type} {one : α → Except Failure (List Part)}
    {all : List α → Except Failure (List Part)} {readable substantial : α → Prop}
    (nil : all [] = .ok [])
    (cons : ∀ thing things, all (thing :: things) = (do
      let first ← one thing
      let later ← all things
      return first ++ later))
    (each : ∀ thing, Yields (one thing) (readable thing) (substantial thing)) (things : List α) :
    Yields (all things) (∀ thing ∈ things, readable thing)
      (∃ thing ∈ things, substantial thing) := by
  have split : ∀ {thing things parts}, all (thing :: things) = .ok parts ↔
      ∃ first, one thing = .ok first ∧
        ∃ later, all things = .ok later ∧ first ++ later = parts := by
    intro thing things parts
    simp only [cons, bind_eq_ok_iff, pure, Except.pure, Except.ok.injEq]
  induction things with
  | nil => exact nil ▸ .of_ok (fun _ member => nomatch member) (by simp)
  | cons thing things ih =>
      constructor
      · rw [List.forall_mem_cons, ← (each thing).succeeds, ← ih.succeeds]
        constructor
        · rintro ⟨parts, converted⟩
          obtain ⟨first, here, later, rest, -⟩ := split.mp converted
          exact ⟨⟨first, here⟩, later, rest⟩
        · rintro ⟨⟨first, here⟩, later, rest⟩
          exact ⟨_, split.mpr ⟨first, here, later, rest, rfl⟩⟩
      · intro parts converted
        obtain ⟨first, here, later, rest, rfl⟩ := split.mp converted
        have behind := ih.some later rest
        simp only [ne_eq, List.append_eq_nil_iff, not_and_or, List.mem_cons, exists_eq_or_imp,
          ← behind, ← (each thing).some first here]

theorem yields_messageParts (entry : OutputContent) :
    Yields (messageParts entry) (ReadableEntry entry) (SubstantialEntry entry) := by
  unfold messageParts
  split
  · rename_i isText
    exact .of_ok (.inl isText) (by simp [SubstantialEntry, isText])
  · rename_i notText
    split
    · rename_i isRefusal
      exact .of_ok (.inr isRefusal) (by simp [SubstantialEntry, isRefusal])
    · rename_i notRefusal
      exact .of_error (not_or.mpr ⟨notText, notRefusal⟩)

theorem yields_entryParts (entries : List OutputContent) :
    Yields (entryParts entries) (∀ entry ∈ entries, ReadableEntry entry)
      (∃ entry ∈ entries, SubstantialEntry entry) :=
  @Yields.list _ messageParts entryParts _ _ rfl (fun _ _ => rfl) yields_messageParts entries

theorem thoughts_ne_nil_iff (item : OutputItem) :
    thoughts item ≠ [] ↔ ∃ entry ∈ item.content ++ item.summary, entry.text ≠ "" := by
  simp only [thoughts, ne_eq, List.map_eq_nil_iff, List.filter_eq_nil_iff, Bool.not_eq_true',
    Bool.not_eq_false, String.isEmpty_iff, not_forall, exists_prop]

theorem yields_itemParts (item : OutputItem) :
    Yields (itemParts item) (Readable item) (Substantial item) := by
  unfold itemParts
  split
  · rename_i isMessage
    have entries := yields_entryParts item.content
    simpa [Readable, Substantial, isMessage] using entries
  · rename_i notMessage
    split
    · rename_i isCall
      cases read : callArguments item.arguments with
      | error failure => exact .of_error (by simp [Readable, isCall, read])
      | ok arguments =>
          exact .of_ok (.inr (.inl ⟨isCall, arguments, read⟩)) (by simp [Substantial, isCall])
    · rename_i notCall
      split
      · rename_i isReasoning
        refine .of_ok (.inr (.inr isReasoning)) ?_
        simpa [Substantial, isReasoning] using thoughts_ne_nil_iff item
      · rename_i notReasoning
        exact .of_error (by simp [Readable, notMessage, notCall, notReasoning])

theorem yields_outputParts (items : List OutputItem) :
    Yields (outputParts items) (∀ item ∈ items, Readable item) (∃ item ∈ items, Substantial item) :=
  @Yields.list _ itemParts outputParts _ _ rfl (fun _ _ => rfl) yields_itemParts items

/-! ## Whole responses -/

/-- The parts of an output are found exactly if it can be used. -/
theorem exists_usableParts_iff (items : List OutputItem) :
    (∃ parts, usableParts items = .ok parts) ↔ Usable items := by
  have yields := yields_outputParts items
  simp only [Usable, ← yields.succeeds]
  cases items with
  | nil => simp [usableParts]
  | cons item items =>
      simp only [usableParts, List.isEmpty_cons, Bool.false_eq_true, if_false, bind_eq_ok_iff]
      constructor
      · rintro ⟨parts, found, converted, kept⟩
        split at kept
        · cases kept
        · rename_i nonempty
          exact ⟨⟨found, converted⟩,
            (yields.some found converted).mp (by simpa using nonempty)⟩
      · rintro ⟨⟨found, converted⟩, substantial⟩
        have nonempty := (yields.some found converted).mpr substantial
        exact ⟨found, found, converted, if_neg (by simpa using nonempty)⟩

/-- A response becomes a generation exactly if its output can be used. -/
theorem exists_generation_iff (response : Response) :
    (∃ made, generation response = .ok made) ↔ Usable response.output := by
  rw [← exists_usableParts_iff]
  simp only [generation, bind_eq_ok_iff, pure, Except.pure, Except.ok.injEq]
  constructor
  · rintro ⟨_, parts, usable, -⟩
    exact ⟨parts, usable⟩
  · rintro ⟨parts, usable⟩
    exact ⟨_, parts, usable, rfl⟩

/-- A response becomes a reply exactly if its output can be used. -/
theorem exists_replyOf_iff (response : Response) :
    (∃ reply, Service.replyOf response = .ok reply) ↔ Usable response.output := by
  rw [← exists_generation_iff]
  simp only [Service.replyOf, bind_eq_ok_iff, pure, Except.pure, Except.ok.injEq]
  constructor
  · rintro ⟨_, made, whole, -⟩
    exact ⟨made, whole⟩
  · rintro ⟨made, whole⟩
    exact ⟨_, made, whole, rfl⟩

theorem exists_error_iff {α : Type} (result : Except Failure α) :
    (∃ failure, result = .error failure) ↔ ¬ ∃ value, result = .ok value := by
  cases result <;> simp

/-- **What becomes of a response that reports an error.** As the failure of a stream it always
fails, with the message of the error, and changes nothing. As a whole response it fails, and so does
the call for it, only where its output cannot be used: the error itself is never looked at. -/
theorem failed_response_by_path {response : Response} {error : ResponseError}
    (reported : response.error = some error) :
    (∀ collected, received collected (.failed ⟨response⟩) =
      (.error (.responseFailed error.message), collected)) ∧
    ((∃ failure, generation response = .error failure) ↔ ¬ Usable response.output) ∧
    ((∃ failure, Service.replyOf response = .error failure) ↔ ¬ Usable response.output) := by
  refine ⟨fun collected => ?_, ?_, ?_⟩
  · simp only [received, failureOf, reported, Option.map_some, Option.getD_some]
  · rw [exists_error_iff, exists_generation_iff]
  · rw [exists_error_iff, exists_replyOf_iff]

/-- A response that failed behind a part of its output. -/
def interrupted : Response where
  id := "resp_1"
  status := some "failed"
  output := [{ type := "message", content := [{ type := "output_text", text := "So far" }] }]
  error := some { code := "server_error", message := "overloaded" }

theorem failed_response_by_path_interrupted :
    interrupted.error = some ⟨"server_error", "overloaded"⟩ ∧ Usable interrupted.output ∧
      (∀ collected, received collected (.failed ⟨interrupted⟩) =
        (.error (.responseFailed "overloaded"), collected)) ∧
      ¬ ∃ failure, generation interrupted = .error failure := by
  have reported : interrupted.error = some ⟨"server_error", "overloaded"⟩ := rfl
  have usable : Usable interrupted.output := by
    simp [Usable, interrupted, Readable, Substantial, ReadableEntry, SubstantialEntry]
  obtain ⟨streamed, whole, -⟩ := failed_response_by_path reported
  exact ⟨reported, usable, streamed, fun fails => whole.mp fails usable⟩

/-- **A response that reports an error may pass for a success**: that of the response above is a
reply which says that the model stopped of its own accord. -/
theorem reported_error_not_refused :
    ¬ ∀ response : Response, response.error.isSome →
      ∃ failure, generation response = .error failure := by
  intro refused
  obtain ⟨failure, fails⟩ := refused interrupted rfl
  have passes : (generation interrupted).toOption.isSome := rfl
  rw [fails] at passes
  cases passes

end ResponsesBridge.Inbound
