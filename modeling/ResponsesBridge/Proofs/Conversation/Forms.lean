import ResponsesBridge.Conversation.Reply
import ResponsesBridge.Proofs.Json.Codecs

/-!
# Turns, generations and replies come back

Every turn, every generation and every reply is the value that is read from its JSON form
(`conversations_return`), whatever parts it has and whichever of its members are given. What is kept
of a conversation is kept by such forms.

Free-form objects are asked to have different names, as every object that has been read has; their
members come back in their order. Nothing is asked of numbers: those inside a JSON value are
not converted. A reply keeps its metadata in a dictionary, so these come back as the same map.

Each type has its own lemma. In its table every member that may be left out is left out only where
the blank record has its value already, and the kind of a part leads to the reader of that kind.
-/

set_option autoImplicit false

namespace ResponsesBridge.Conversation

open Json (Codec Table Value)

/-! ## Parts and turns -/

/-- The names in the arguments of a call and in the result of an answer are different. -/
def Part.Representable : Part → Prop
  | .call content => (Value.object content.arguments).Distinct
  | .answer content => (Value.object content.result).Distinct
  | _ => True

/-- All parts of a turn have free-form objects with different names. -/
def Turn.Representable (turn : Turn) : Prop :=
  ∀ part ∈ turn.parts, part.Representable

theorem Passage.returns (passage : Passage) : Passage.codec.Returns passage := by
  refine Table.Fills.returns (.required (Codec.returns_text _) ?_) (by decide)
  exact .skipped (Codec.returns_boolean _) (fun left => by simpa using left) rfl .done

theorem Call.returns {call : Call} (distinct : (Value.object call.arguments).Distinct) :
    Call.codec.Returns call := by
  refine Table.Fills.returns ?_ (by decide)
  refine .optional nofun Codec.refusesNull_text (fun _ _ => Codec.returns_text _) rfl ?_
  refine .required (Codec.returns_text _) ?_
  exact .defaulted (Codec.returns_fields distinct) .done

theorem Answer.returns {answer : Answer} (distinct : (Value.object answer.result).Distinct) :
    Answer.codec.Returns answer := by
  refine Table.Fills.returns ?_ (by decide)
  refine .optional nofun Codec.refusesNull_text (fun _ _ => Codec.returns_text _) rfl ?_
  refine .required (Codec.returns_text _) ?_
  exact .defaulted (Codec.returns_fields distinct) .done

theorem InlineData.returns (data : InlineData) : InlineData.codec.Returns data :=
  Table.Fills.returns (.required (Codec.returns_text _) (.required (Codec.returns_text _) .done))
    (by decide)

theorem FileReference.returns (file : FileReference) : FileReference.codec.Returns file :=
  Table.Fills.returns (.required (Codec.returns_text _) (.required (Codec.returns_text _) .done))
    (by decide)

theorem Program.returns (program : Program) : Program.codec.Returns program :=
  Table.Fills.returns (.required (Codec.returns_text _) (.required (Codec.returns_text _) .done))
    (by decide)

theorem ProgramResult.returns (result : ProgramResult) : ProgramResult.codec.Returns result :=
  Table.Fills.returns (.required (Codec.returns_text _) (.defaulted (Codec.returns_text _) .done))
    (by decide)

/-- The content of a part, read as a part of its kind. -/
theorem read_content {α : Type} {codec : Codec α} {content : α} (make : α → Part)
    (returns : codec.Returns content) :
    (make <$> codec.read (codec.write content).node) = .ok (make content) := by
  have read : codec.read (codec.write content).node = .ok content := returns
  rw [read]
  rfl

theorem Part.returns {part : Part} (representable : part.Representable) :
    Part.codec.Returns part := by
  cases part with
  | passage passage => exact Json.returns_keyed rfl (read_content _ passage.returns)
  | call call => exact Json.returns_keyed rfl (read_content _ (Call.returns representable))
  | answer answer => exact Json.returns_keyed rfl (read_content _ (Answer.returns representable))
  | inlineData data => exact Json.returns_keyed rfl (read_content _ data.returns)
  | file reference => exact Json.returns_keyed rfl (read_content _ reference.returns)
  | program program => exact Json.returns_keyed rfl (read_content _ program.returns)
  | programResult result => exact Json.returns_keyed rfl (read_content _ result.returns)

theorem Turn.returns {turn : Turn} (representable : turn.Representable) :
    Turn.codec.Returns turn := by
  refine Table.Fills.returns (.defaulted (Codec.returns_text _) ?_) (by decide)
  exact .defaulted (Codec.returns_list fun part member => Part.returns (representable part member))
    .done

/-! ## Generations -/

/-- The turns of all candidates are representable. -/
def Generation.Representable (generation : Generation) : Prop :=
  ∀ candidate ∈ generation.candidates, candidate.turn.Representable

theorem FinishReason.returns (reason : FinishReason) : FinishReason.codec.Returns reason :=
  Json.returns_enumerationOver (by cases reason <;> decide)

theorem Modality.returns (modality : Modality) : Modality.codec.Returns modality :=
  Json.returns_enumerationOver (by cases modality <;> decide)

theorem ModalityCount.returns (count : ModalityCount) : ModalityCount.codec.Returns count :=
  Table.Fills.returns (.required (Modality.returns _) (.required (Codec.returns_word32 _) .done))
    (by decide)

theorem Usage.returns (usage : Usage) : Usage.codec.Returns usage := by
  have details (counts : List ModalityCount) : ModalityCount.codec.list.Returns counts :=
    Codec.returns_list fun count _ => count.returns
  refine Table.Fills.returns (.required (Codec.returns_word32 _) ?_) (by decide)
  refine .required (Codec.returns_word32 _) (.required (Codec.returns_word32 _) ?_)
  refine .defaulted (Codec.returns_word32 _) (.defaulted (Codec.returns_word32 _) ?_)
  refine .skipped (details _) List.isEmpty_iff.mp rfl ?_
  exact .skipped (details _) List.isEmpty_iff.mp rfl .done

theorem PromptFeedback.returns (feedback : PromptFeedback) :
    PromptFeedback.codec.Returns feedback :=
  Table.Fills.returns (.required (Codec.returns_text _) (.required (Codec.returns_text _) .done))
    (by decide)

theorem Candidate.returns {candidate : Candidate} (representable : candidate.turn.Representable) :
    Candidate.codec.Returns candidate :=
  Table.Fills.returns
    (.required (Turn.returns representable) (.defaulted (FinishReason.returns _) .done))
    (by decide)

theorem Generation.returns {generation : Generation} (representable : generation.Representable) :
    Generation.codec.Returns generation := by
  refine Table.Fills.returns ?_ (by decide)
  refine .required (Codec.returns_list fun candidate member =>
    Candidate.returns (representable candidate member)) ?_
  refine .skipped (Codec.returns_text _) String.isEmpty_iff.mp rfl ?_
  refine .skipped (Codec.returns_text _) String.isEmpty_iff.mp rfl ?_
  refine .optional nofun Table.refusesNull_codec (fun usage _ => usage.returns) rfl ?_
  exact .optional nofun Table.refusesNull_codec (fun feedback _ => feedback.returns) rfl .done

/-! ## Replies -/

/-- The turn of a reply is representable, and so are its metadata. -/
structure Reply.Representable (reply : Reply) : Prop where
  turn : ∀ turn ∈ reply.turn, turn.Representable
  metadata : ∀ entry ∈ reply.metadata.entries, entry.2.Distinct

theorem eq_empty_of_isEmpty {α : Type} {dictionary : Dictionary α}
    (nothing : dictionary.isEmpty = true) : dictionary = .empty := by
  obtain ⟨entries, ordered⟩ := dictionary
  obtain rfl : entries = [] := List.isEmpty_iff.mp nothing
  rfl

theorem Reply.returns {reply : Reply} (representable : reply.Representable) :
    Reply.codec.Returns reply := by
  refine Table.Fills.returns ?_ (by decide)
  refine .optional nofun Table.refusesNull_codec
    (fun turn given => Turn.returns (representable.turn turn given)) rfl ?_
  refine .defaulted (Codec.returns_boolean _) (.defaulted (Codec.returns_boolean _) ?_)
  refine .optional nofun (.of_error rfl) (fun reason _ => reason.returns) rfl ?_
  refine .optional nofun Table.refusesNull_codec (fun usage _ => usage.returns) rfl ?_
  refine .skipped (Codec.returns_text _) String.isEmpty_iff.mp rfl ?_
  refine .optional nofun Codec.refusesNull_text (fun _ _ => Codec.returns_text _) rfl ?_
  refine .optional nofun Codec.refusesNull_text (fun _ _ => Codec.returns_text _) rfl ?_
  refine .skipped (Codec.returns_dictionary fun entry member =>
    Codec.returns_any (representable.metadata entry member)) eq_empty_of_isEmpty rfl .done

/-! ## All three -/

/-- **Turns, generations and replies come back.** What is written of them is read as the same value:
the parts in order and each of its kind, free-form objects with the order of their names, absent
members as absent ones, metadata as the same map. -/
theorem conversations_return :
    (∀ turn : Turn, turn.Representable → Turn.codec.Returns turn) ∧
      (∀ generation : Generation, generation.Representable →
        Generation.codec.Returns generation) ∧
      ∀ reply : Reply, reply.Representable → Reply.codec.Returns reply :=
  ⟨fun _ => Turn.returns, fun _ => Generation.returns, fun _ => Reply.returns⟩

/-- A turn with a thought, a call with nested arguments, an answer, and parts that are carried
along. -/
def mixedTurn : Turn where
  role := "model"
  parts :=
    [.ofThought "", .call ⟨none, "find", [("z", .array [.null]), ("a", .object [("z", .null)])]⟩,
      .answer ⟨some "first", "find", [("found", .boolean false)]⟩, .inlineData {}, .file {},
      .program {}, .programResult ⟨"ok", ""⟩]

/-- A reply of this turn that has an error code without a message, and metadata. -/
def mixedReply : Reply where
  turn := some mixedTurn
  finishReason := some .maxTokens
  usage := some { prompt := 1, promptDetails := [{}] }
  errorCode := some ""
  metadata := Dictionary.empty.insert "kept" .null

theorem conversations_return_mixed :
    (mixedTurn.Representable ∧ Turn.codec.Returns mixedTurn) ∧
      (Generation.Representable ⟨[⟨mixedTurn, .stop⟩], "", "", none, some {}⟩ ∧
        Generation.codec.Returns ⟨[⟨mixedTurn, .stop⟩], "", "", none, some {}⟩) ∧
      mixedReply.Representable ∧ Reply.codec.Returns mixedReply := by
  have turn : mixedTurn.Representable := by
    simp [Turn.Representable, mixedTurn, Part.ofThought, Part.Representable, Value.Distinct,
      Json.DistinctMembers, Json.DistinctItems]
  have generation : Generation.Representable ⟨[⟨mixedTurn, .stop⟩], "", "", none, some {}⟩ := by
    rintro _ (_ | ⟨_, ⟨⟩⟩)
    exact turn
  have reply : mixedReply.Representable := by
    refine ⟨?_, ?_⟩
    · rintro _ ⟨rfl⟩
      exact turn
    · rintro _ (_ | ⟨_, ⟨⟩⟩)
      trivial
  exact ⟨⟨turn, conversations_return.1 _ turn⟩,
    ⟨generation, conversations_return.2.1 _ generation⟩,
    ⟨reply, conversations_return.2.2 _ reply⟩⟩

end ResponsesBridge.Conversation
