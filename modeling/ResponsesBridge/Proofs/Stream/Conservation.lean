import ResponsesBridge.Proofs.Stream.Run

/-!
# Aggregation conserves what is generated

The replies of the accumulating aggregator that are not partial say what the generations say, with
the same other parts in the same order, and no text moves across a reply that is not text
(`outputs_conserve`).

The parts that stand for what has been collected carry the proof: the parts of the complete replies
so far, followed by these parts, say the same as the parts of the generations so far
(`Aggregated`). A text is appended to what has been collected, and a flush moves the collected
parts into a reply as they are.
-/

set_option autoImplicit false

namespace ResponsesBridge.Stream

open Conversation (Generation Part Passage Reply)

/-! ## What parts say -/

/-- The thoughts among parts, or what is said besides them, as one text. -/
def saidIn (thought : Bool) (parts : List Part) : String :=
  String.join (((parts.filterMap Part.passage?).filter (·.thought == thought)).map (·.text))

/-- The parts that are not passages. -/
def otherParts (parts : List Part) : List Part :=
  parts.filter (·.passage?.isNone)

/-- Two lists of parts say the same, think the same and carry the same other parts. -/
structure SaySame (left right : List Part) : Prop where
  said : ∀ thought, saidIn thought left = saidIn thought right
  others : otherParts left = otherParts right

@[simp]
theorem saidIn_append (thought : Bool) (left right : List Part) :
    saidIn thought (left ++ right) = saidIn thought left ++ saidIn thought right := by
  simp only [saidIn, List.filterMap_append, List.filter_append, List.map_append,
    String.join_append]

@[simp]
theorem otherParts_append (left right : List Part) :
    otherParts (left ++ right) = otherParts left ++ otherParts right :=
  List.filter_append ..

theorem SaySame.refl (parts : List Part) : SaySame parts parts :=
  ⟨fun _ => rfl, rfl⟩

theorem SaySame.trans {first second third : List Part} (one : SaySame first second)
    (other : SaySame second third) : SaySame first third :=
  ⟨fun thought => (one.said thought).trans (other.said thought), one.others.trans other.others⟩

theorem SaySame.append {left right left' right' : List Part} (one : SaySame left left')
    (other : SaySame right right') : SaySame (left ++ right) (left' ++ right') := by
  constructor
  · intro thought
    rw [saidIn_append, saidIn_append, one.said thought, other.said thought]
  · rw [otherParts_append, otherParts_append, one.others, other.others]

/-! ## Parts of generations and of replies -/

/-- The parts of the first candidates of generations, in order. -/
def generatedParts (generations : List Generation) : List Part :=
  generations.flatMap Accumulated.firstParts

/-- The parts of a reply; a reply without a turn has none. -/
def replyParts (reply : Reply) : List Part :=
  reply.turn.elim [] fun turn => turn.parts

/-- The parts of the replies that are not partial, in order. -/
def completeParts (replies : List Reply) : List Part :=
  (replies.filter (!·.isPartial)).flatMap replyParts

/-- Whether the first candidate of a generation has parts and all of them are passages. -/
def isTextOnly (generation : Generation) : Bool :=
  !(Accumulated.firstParts generation).isEmpty &&
    (Accumulated.firstParts generation).all (·.passage?.isSome)

/-- A generation as a partial reply. -/
def fragmentReply (generation : Generation) : Reply :=
  { Reply.ofGeneration generation with isPartial := true }

theorem generatedParts_concat (generations : List Generation) (generation : Generation) :
    generatedParts (generations ++ [generation]) =
      generatedParts generations ++ Accumulated.firstParts generation := by
  simp only [generatedParts, List.flatMap_append, List.flatMap_cons, List.flatMap_nil,
    List.append_nil]

@[simp]
theorem completeParts_append (first second : List Reply) :
    completeParts (first ++ second) = completeParts first ++ completeParts second := by
  simp only [completeParts, List.filter_append, List.flatMap_append]

theorem ofGeneration_turn (generation : Generation) :
    (Reply.ofGeneration generation).turn =
      generation.candidates.head?.map fun candidate => candidate.turn := by
  rcases generation with ⟨candidates, _, _, _, feedback⟩
  cases candidates with
  | nil => cases feedback <;> rfl
  | cons candidate candidates => rfl

theorem ofGeneration_isPartial (generation : Generation) :
    (Reply.ofGeneration generation).isPartial = false := by
  rcases generation with ⟨candidates, _, _, _, feedback⟩
  cases candidates with
  | nil => cases feedback <;> rfl
  | cons candidate candidates => rfl

theorem completeParts_ofGeneration (generation : Generation) :
    completeParts [Reply.ofGeneration generation] = Accumulated.firstParts generation := by
  have parts : replyParts (Reply.ofGeneration generation) = Accumulated.firstParts generation := by
    rw [replyParts, ofGeneration_turn, Accumulated.firstParts]
    cases generation.candidates <;> rfl
  simp [completeParts, ofGeneration_isPartial, parts]

namespace Accumulated

/-! ## The parts of what has been collected -/

/-- What a passage says that is left out if it is empty. -/
theorem saidIn_nonempty (thought : Bool) (passage : Passage) :
    saidIn thought (if passage.text.isEmpty then [] else [.passage passage]) =
      if passage.thought == thought then passage.text else "" := by
  cases empty : passage.text.isEmpty with
  | true =>
      rw [String.isEmpty_iff.mp empty]
      simp [saidIn]
  | false => cases kind : passage.thought == thought <;> simp [saidIn, Part.passage?, kind]

theorem saidIn_parts (thought : Bool) (collected : Accumulated) :
    saidIn thought collected.parts = if thought then collected.thought else collected.text := by
  have thoughts := saidIn_nonempty thought ⟨collected.thought, true⟩
  have texts := saidIn_nonempty thought ⟨collected.text, false⟩
  rw [parts, saidIn_append, Part.ofThought, Part.ofText, thoughts, texts]
  cases thought <;> simp

theorem otherParts_parts (collected : Accumulated) : otherParts collected.parts = [] := by
  simp only [parts, otherParts_append]
  split <;> split <;> rfl

/-- One more passage is said behind what has been collected. -/
theorem append_parts (collected : Accumulated) (passage : Passage) :
    SaySame (collected.append passage).parts (collected.parts ++ [.passage passage]) := by
  constructor
  · intro thought
    rw [saidIn_append, saidIn_parts, saidIn_parts]
    rcases passage with ⟨text, isThought⟩
    cases isThought <;> cases thought <;> simp [append, saidIn, Part.passage?]
  · rw [otherParts_append, otherParts_parts, otherParts_parts]
    rfl

theorem foldl_append_parts (collected : Accumulated) (passages : List Passage) :
    SaySame (passages.foldl append collected).parts
      (collected.parts ++ passages.map Part.passage) := by
  induction passages generalizing collected with
  | nil => simpa using SaySame.refl collected.parts
  | cons passage passages ih =>
      have first := (append_parts collected passage).append (.refl (passages.map Part.passage))
      rw [List.append_assoc] at first
      exact (ih (collected.append passage)).trans first

/-! ## Steps -/

theorem eq_map_of_passages? {parts : List Part} {passages : List Passage}
    (allPassages : passages? parts = some passages) : parts = passages.map Part.passage := by
  induction parts generalizing passages with
  | nil =>
      cases allPassages
      rfl
  | cons part parts ih =>
      obtain ⟨passage, isPassage, allPassages⟩ := Option.bind_eq_some_iff.mp allPassages
      obtain ⟨later, areLater, same⟩ := Option.bind_eq_some_iff.mp allPassages
      cases same
      rw [List.map_cons, ← ih areLater]
      cases part <;> cases isPassage
      rfl

theorem isSome_passages? (parts : List Part) :
    (passages? parts).isSome = parts.all (·.passage?.isSome) := by
  induction parts with
  | nil => rfl
  | cons part parts ih =>
      rw [List.all_cons, ← ih]
      cases part with
      | passage passage => cases later : passages? parts <;> simp [passages?, Part.passage?, later]
      | _ => rfl

/-- A reply repeats what has been collected: nothing if there is none, and none that is partial. -/
structure Repeats (repeated : Option Reply) (collected : Accumulated) : Prop where
  parts : completeParts repeated.toList = collected.parts
  complete : repeated.toList.filter (·.isPartial) = []

theorem repeats_none {collected : Accumulated} (nothing : collected.parts = []) :
    Repeats none collected :=
  ⟨nothing.symm, rfl⟩

theorem repeats_some {reply : Reply} {collected : Accumulated}
    (parts : replyParts reply = collected.parts) (complete : reply.isPartial = false) :
    Repeats (some reply) collected := by
  constructor
  · simp [completeParts, parts, complete]
  · simp [complete]

theorem repeats_flush (collected : Accumulated) : Repeats collected.flush.1 collected := by
  cases repeated : collected.parts with
  | nil =>
      simp only [flush, repeated]
      exact repeats_none repeated
  | cons part parts =>
      simp only [flush, repeated]
      exact repeats_some repeated.symm rfl

theorem repeats_close (collected : Accumulated) : Repeats collected.close.1 collected := by
  cases repeated : collected.parts with
  | nil =>
      simp only [close, flush, repeated]
      exact repeats_none repeated
  | cons part parts =>
      simp only [close, flush, repeated]
      exact repeats_some repeated.symm rfl

/-- Nothing remains behind a flush. -/
theorem parts_flush (collected : Accumulated) : collected.flush.2.parts = [] := by
  cases repeated : collected.parts with
  | nil => simp only [flush, repeated]
  | cons part parts =>
      simp only [flush, repeated]
      rfl

/-- A generation of text is passed on as a fragment and collected. -/
theorem add_of_isTextOnly {generation : Generation} (isText : isTextOnly generation = true)
    (collected : Accumulated) :
    ∃ passages : List Passage, firstParts generation = passages.map Part.passage ∧
      collected.add generation =
        ([fragmentReply generation], passages.foldl append (collected.note generation)) := by
  obtain ⟨nonempty, allPassages⟩ := Bool.and_eq_true_iff.mp isText
  cases found : passages? (firstParts generation) with
  | none =>
      rw [← isSome_passages?, found] at allPassages
      cases allPassages
  | some passages =>
      have same := eq_map_of_passages? found
      cases passages with
      | nil => simp [same] at nonempty
      | cons passage passages => exact ⟨_, same, by simp only [add, found, fragmentReply]⟩

/-- Any other generation is passed on behind what has been collected. -/
theorem add_of_not_isTextOnly {generation : Generation} (notText : isTextOnly generation = false)
    (collected : Accumulated) :
    collected.add generation =
      ((collected.note generation).flush.1.toList ++ [Reply.ofGeneration generation],
        (collected.note generation).flush.2) := by
  cases found : passages? (firstParts generation) with
  | none => simp only [add, found]
  | some passages =>
      cases passages with
      | nil => simp only [add, found]
      | cons passage passages =>
          have same := eq_map_of_passages? found
          simp [isTextOnly, same, Part.passage?] at notText

end Accumulated

/-! ## Runs -/

/-- What has been collected behind generations. -/
def collectedBehind (generations : List Generation) : Accumulated :=
  (accumulating.run generations).2

theorem accumulating_run_concat (generations : List Generation) (generation : Generation) :
    (accumulating.run (generations ++ [generation])).1 =
      (accumulating.run generations).1 ++ ((collectedBehind generations).add generation).1 :=
  congrArg Prod.fst (accumulating.run_concat generations generation)

theorem accumulating_outputs (generations : List Generation) :
    accumulating.outputs generations =
      (accumulating.run generations).1 ++ (collectedBehind generations).close.1.toList :=
  rfl

/-- What holds behind generations: the complete replies and what has been collected say what was
generated, and the partial replies are the fragments. -/
structure Aggregated (generations : List Generation) (replies : List Reply)
    (collected : Accumulated) : Prop where
  conserved : SaySame (completeParts replies ++ collected.parts) (generatedParts generations)
  partials : replies.filter (·.isPartial) = (generations.filter isTextOnly).map fragmentReply

theorem Aggregated.add {generations : List Generation} {replies : List Reply}
    {collected : Accumulated} (before : Aggregated generations replies collected)
    (generation : Generation) :
    Aggregated (generations ++ [generation]) (replies ++ (collected.add generation).1)
      (collected.add generation).2 := by
  have conserved := before.conserved.append (.refl (Accumulated.firstParts generation))
  rw [← generatedParts_concat, List.append_assoc] at conserved
  cases isText : isTextOnly generation with
  | true =>
      obtain ⟨passages, same, added⟩ := Accumulated.add_of_isTextOnly isText collected
      rw [added]
      constructor
      · rw [completeParts_append]
        have collects := Accumulated.foldl_append_parts (collected.note generation) passages
        rw [← same] at collects
        have nothing : completeParts [fragmentReply generation] = [] := rfl
        rw [nothing, List.append_nil]
        exact ((SaySame.refl (completeParts replies)).append collects).trans conserved
      · simp [before.partials, isText, fragmentReply]
  | false =>
      rw [Accumulated.add_of_not_isTextOnly isText collected]
      constructor
      · simp only [completeParts_append, completeParts_ofGeneration,
          (Accumulated.repeats_flush _).parts, Accumulated.parts_flush, List.append_nil]
        exact conserved
      · simp [before.partials, isText, (Accumulated.repeats_flush _).complete,
          ofGeneration_isPartial]

/-- What holds of a new aggregator is kept by every generation. -/
theorem aggregated_run (generations : List Generation) :
    Aggregated generations (accumulating.run generations).1 (collectedBehind generations) :=
  Aggregator.run_invariant ⟨.refl [], rfl⟩
    (fun _ _ _ generation before => before.add generation) generations

/-- **Aggregation conserves what is generated.** Of the replies to any generations, closing
included, those that are not partial say what the generations say and carry their other parts in
order. Before the reply to a generation that is not text alone, they say what was generated before
it. The partial replies are the turns of the generations that are text alone, in order. -/
theorem outputs_conserve (generations : List Generation) :
    SaySame (completeParts (accumulating.outputs generations)) (generatedParts generations) ∧
      (∀ before generation after, generations = before ++ generation :: after →
        isTextOnly generation = false →
          ∃ earlier later,
            (accumulating.run (before ++ [generation])).1 =
                earlier ++ [Reply.ofGeneration generation] ∧
              accumulating.outputs generations =
                earlier ++ Reply.ofGeneration generation :: later ∧
              SaySame (completeParts earlier) (generatedParts before)) ∧
      ((accumulating.outputs generations).filter (·.isPartial)).map (·.turn) =
        (generations.filter isTextOnly).map fun generation =>
          generation.candidates.head?.map fun candidate => candidate.turn := by
  obtain ⟨conserved, partials⟩ := aggregated_run generations
  refine ⟨?_, ?_, ?_⟩
  · rw [accumulating_outputs, completeParts_append, (Accumulated.repeats_close _).parts]
    exact conserved
  · rintro before generation after rfl notText
    have replied := accumulating_run_concat before generation
    rw [Accumulated.add_of_not_isTextOnly notText, ← List.append_assoc] at replied
    obtain ⟨later, outputs⟩ := accumulating.run_prefix_outputs (before ++ [generation]) after
    rw [replied, ← List.append_cons, ← List.append_cons] at outputs
    refine ⟨_, later, replied, outputs.symm, ?_⟩
    rw [completeParts_append, (Accumulated.repeats_flush _).parts]
    exact (aggregated_run before).conserved
  · rw [accumulating_outputs, List.filter_append, partials,
      (Accumulated.repeats_close _).complete, List.append_nil, List.map_map]
    exact List.map_congr_left fun generation _ => ofGeneration_turn generation

end ResponsesBridge.Stream
