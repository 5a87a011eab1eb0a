import ResponsesBridge.Proofs.Stream.Conservation

/-!
# How often a usage is passed on

A generation that is not text alone is passed on with the usage that it reports. The aggregator
keeps the report all the same, and the next reply that repeats collected texts carries it once more,
even if that reply is made in front of the generation itself. So complete replies may carry more
usages than were reported (`usage_passed_on_twice`).

How many they carry is told by the spans of the generations (`spansOf`): a span ends with a
generation that is not text alone and has unrepeated text before it. Each span is repeated once and
takes at most one usage along, whatever is reported in it; to these come the usages of the
generations that are not text alone (`usages_by_span`). Behind any generations the aggregator holds
text exactly if the open span has some, and a usage exactly if one is reported in it
(`Tallied`).
-/

set_option autoImplicit false

namespace ResponsesBridge.Stream

open Conversation (Generation Part Passage Reply)

/-! ## Reports -/

/-- Whether a generation reports a usage. -/
def reports (generation : Generation) : Bool :=
  generation.usage.isSome

/-- Whether a generation that is not text alone reports a usage. -/
def reportsBesideText (generation : Generation) : Bool :=
  reports generation && !isTextOnly generation

/-- Whether a reply that is not partial carries a usage. -/
def carriesUsage (reply : Reply) : Bool :=
  !reply.isPartial && reply.usage.isSome

/-- Whether a generation is text alone, and not all of its text is empty. -/
def speaks (generation : Generation) : Bool :=
  isTextOnly generation &&
    (Accumulated.firstParts generation).any fun part =>
      part.passage?.any fun passage => !passage.text.isEmpty

/-! ## Spans -/

/-- Generations that are cut into spans: the spans that have ended, and the open one. -/
structure Spans where
  ended : List (List Generation) := []
  last : List Generation := []

namespace Spans

/-- One more generation. It ends the open span if it is not text alone and the span has text. -/
def add (spans : Spans) (generation : Generation) : Spans :=
  if !isTextOnly generation && spans.last.any speaks then
    { ended := spans.ended ++ [spans.last ++ [generation]] }
  else { spans with last := spans.last ++ [generation] }

/-- The spans whose texts are repeated: those that have ended, and the open one if it has text. -/
def repeated (spans : Spans) : List (List Generation) :=
  spans.ended ++ if spans.last.any speaks then [spans.last] else []

end Spans

/-- The spans of generations. -/
def spansOf (generations : List Generation) : Spans :=
  generations.foldl Spans.add {}

theorem spansOf_concat (generations : List Generation) (generation : Generation) :
    spansOf (generations ++ [generation]) = (spansOf generations).add generation := by
  rw [spansOf, List.foldl_append]
  rfl

/-- The open span goes on. -/
theorem spansOf_concat_of_open {generations : List Generation} {generation : Generation}
    (goesOn : (!isTextOnly generation && (spansOf generations).last.any speaks) = false) :
    spansOf (generations ++ [generation]) =
      { spansOf generations with last := (spansOf generations).last ++ [generation] } := by
  rw [spansOf_concat, Spans.add, goesOn]
  rfl

/-- The open span ends. -/
theorem spansOf_concat_of_ended {generations : List Generation} {generation : Generation}
    (ends : (!isTextOnly generation && (spansOf generations).last.any speaks) = true) :
    spansOf (generations ++ [generation]) =
      { ended := (spansOf generations).ended ++ [(spansOf generations).last ++ [generation]] } := by
  rw [spansOf_concat, Spans.add, if_pos ends]

/-- Nothing is lost between the spans. -/
theorem flatten_spansOf (generations : List Generation) :
    (spansOf generations).ended.flatten ++ (spansOf generations).last = generations := by
  induction generations using List.reverseRecOn with
  | nil => rfl
  | append_singleton generations generation ih =>
      rw [spansOf_concat, Spans.add]
      split
      · simp only [List.flatten_append, List.flatten_singleton, List.append_nil]
        rw [← List.append_assoc, ih]
      · rw [← List.append_assoc, ih]

/-- There are no more spans with a report than there are reports. -/
theorem countP_any_le {α : Type} (kind : α → Bool) (lists : List (List α)) :
    lists.countP (·.any kind) ≤ lists.flatten.countP kind := by
  induction lists with
  | nil => exact Nat.le_refl _
  | cons list lists ih =>
      rw [List.countP_cons, List.flatten_cons, List.countP_append]
      split
      · rename_i some
        have positive : 0 < list.countP kind := List.countP_pos_iff.mpr (List.any_eq_true.mp some)
        omega
      · omega

/-- The spans that are repeated are among all spans. -/
theorem countP_repeated_le (generations : List Generation) :
    (spansOf generations).repeated.countP (·.any reports) ≤ generations.countP reports := by
  have bound := countP_any_le reports ((spansOf generations).ended ++ [(spansOf generations).last])
  rw [List.flatten_append, List.flatten_singleton, flatten_spansOf] at bound
  refine Nat.le_trans ?_ bound
  rw [Spans.repeated, List.countP_append, List.countP_append]
  split
  · exact Nat.le_refl _
  · exact Nat.le_add_right _ _

/-! ## What the aggregator holds -/

namespace Accumulated

theorem parts_eq_nil_iff (collected : Accumulated) :
    collected.parts = [] ↔ collected.thought = "" ∧ collected.text = "" := by
  rw [parts, List.append_eq_nil_iff]
  apply and_congr <;> · split <;> simp_all [String.isEmpty_iff]

theorem parts_append_eq_nil_iff (collected : Accumulated) (passage : Passage) :
    (collected.append passage).parts = [] ↔ collected.parts = [] ∧ passage.text = "" := by
  rw [parts_eq_nil_iff, parts_eq_nil_iff, append]
  split <;> simp only [String.append_eq_empty_iff] <;> tauto

theorem parts_foldl_append_eq_nil_iff (collected : Accumulated) (passages : List Passage) :
    (passages.foldl append collected).parts = [] ↔
      collected.parts = [] ∧ ∀ passage ∈ passages, passage.text = "" := by
  induction passages generalizing collected with
  | nil => simp
  | cons passage passages ih =>
      rw [List.foldl_cons, ih, parts_append_eq_nil_iff, List.forall_mem_cons, and_assoc]

theorem usage_foldl_append (collected : Accumulated) (passages : List Passage) :
    (passages.foldl append collected).usage = collected.usage := by
  induction passages generalizing collected with
  | nil => rfl
  | cons passage passages ih =>
      rw [List.foldl_cons, ih, append]
      split <;> rfl

theorem isSome_usage_note (collected : Accumulated) (generation : Generation) :
    (collected.note generation).usage.isSome = (reports generation || collected.usage.isSome) :=
  Option.isSome_or

/-- Whether some text is kept that has not been repeated. -/
def waits (collected : Accumulated) : Bool :=
  !collected.parts.isEmpty

theorem waits_eq_false_iff (collected : Accumulated) :
    collected.waits = false ↔ collected.parts = [] := by
  simp [waits]

/-- Without text nothing is repeated, and a report stays where it is. -/
theorem flush_of_not_waits {collected : Accumulated} (nothing : collected.waits = false) :
    collected.flush = (none, collected) := by
  have noParts := collected.waits_eq_false_iff.mp nothing
  simp only [flush, noParts]

/-- The reply that repeats a text takes the report along. -/
theorem flush_of_waits {collected : Accumulated} (isText : collected.waits = true) :
    ∃ reply : Reply, collected.flush.1 = some reply ∧
      carriesUsage reply = collected.usage.isSome ∧ collected.flush.2.usage = none := by
  cases repeated : collected.parts with
  | nil =>
      rw [collected.waits_eq_false_iff.mpr repeated] at isText
      cases isText
  | cons part parts =>
      have flushed : collected.flush =
          (some { turn := some ⟨Conversation.modelRole, part :: parts⟩, usage := collected.usage,
                  modelVersion := collected.modelVersion },
            { modelVersion := collected.modelVersion }) := by
        simp only [flush, repeated]
      rw [flushed]
      exact ⟨_, rfl, rfl, rfl⟩

theorem waits_flush (collected : Accumulated) : collected.flush.2.waits = false :=
  collected.flush.2.waits_eq_false_iff.mpr collected.parts_flush

/-- Closing repeats a text, with the report, exactly if there is some. -/
theorem countP_close (collected : Accumulated) :
    collected.close.1.toList.countP carriesUsage =
      if collected.waits && collected.usage.isSome then 1 else 0 := by
  cases kept : collected.waits with
  | false =>
      have same : collected.close.1 = none := by
        rw [close, flush_of_not_waits kept]
        rfl
      rw [same]
      rfl
  | true =>
      obtain ⟨reply, repeated, carries, -⟩ := flush_of_waits kept
      have same : collected.close.1 = some { reply with turnComplete := true } := by
        simp only [close, repeated, Option.map_some]
      have still : carriesUsage { reply with turnComplete := true } = collected.usage.isSome :=
        carries
      rw [same, Option.toList_some, List.countP_singleton, still, Bool.true_and]

end Accumulated

/-! ## Runs -/

theorem any_concat (kind : Generation → Bool) (generations : List Generation)
    (generation : Generation) :
    (generations ++ [generation]).any kind = (generations.any kind || kind generation) := by
  simp only [List.any_append, List.any_cons, List.any_nil, Bool.or_false]

theorem carriesUsage_ofGeneration (generation : Generation) :
    carriesUsage (Reply.ofGeneration generation) = reports generation := by
  rw [carriesUsage, ofGeneration_isPartial]
  rcases generation with ⟨candidates, _, _, _, feedback⟩
  cases candidates with
  | nil => cases feedback <;> rfl
  | cons candidate candidates => rfl

/-- What holds behind generations: the aggregator keeps the text and the report of the open span,
and complete replies have carried one usage for each generation that is not text alone and reports
one, and one for each span that has ended and has a report. -/
structure Tallied (generations : List Generation) (replies : List Reply)
    (collected : Accumulated) : Prop where
  text : collected.waits = (spansOf generations).last.any speaks
  report : collected.usage.isSome = (spansOf generations).last.any reports
  carried : replies.countP carriesUsage =
    generations.countP reportsBesideText + (spansOf generations).ended.countP (·.any reports)

section Step

variable {generations : List Generation} {replies : List Reply} {collected : Accumulated}
  {generation : Generation}

theorem speaks_of_isTextOnly {passages : List Passage}
    (isText : isTextOnly generation = true)
    (same : Accumulated.firstParts generation = passages.map Part.passage) :
    speaks generation = passages.any fun passage => !passage.text.isEmpty := by
  rw [speaks, isText, same, Bool.true_and, List.any_map]
  rfl

theorem Tallied.add_text (before : Tallied generations replies collected)
    (isText : isTextOnly generation = true) :
    Tallied (generations ++ [generation]) (replies ++ (collected.add generation).1)
      (collected.add generation).2 := by
  obtain ⟨passages, same, added⟩ := Accumulated.add_of_isTextOnly isText collected
  have spans := @spansOf_concat_of_open generations generation (by rw [isText]; rfl)
  rw [added]
  constructor
  · rw [spans, any_concat, ← before.text,
      speaks_of_isTextOnly isText same, Bool.eq_iff_iff, ← not_iff_not]
    simp only [Bool.not_eq_true, Accumulated.waits_eq_false_iff,
      Accumulated.parts_foldl_append_eq_nil_iff, Bool.or_eq_false_iff, List.any_eq_false,
      Bool.not_eq_eq_eq_not, Bool.not_true, Bool.not_eq_false, String.isEmpty_iff]
    rfl
  · rw [spans, any_concat, ← before.report,
      Accumulated.usage_foldl_append, Accumulated.isSome_usage_note, Bool.or_comm]
  · have partialReply : carriesUsage (fragmentReply generation) = false := rfl
    have beside : reportsBesideText generation = false := by
      rw [reportsBesideText, isText, Bool.not_true, Bool.and_false]
    simp only [spans, List.countP_append, before.carried, List.countP_singleton, partialReply,
      beside, Bool.false_eq_true, if_false, Nat.add_zero]

theorem Tallied.add_other (before : Tallied generations replies collected)
    (notText : isTextOnly generation = false) :
    Tallied (generations ++ [generation]) (replies ++ (collected.add generation).1)
      (collected.add generation).2 := by
  have noted : (collected.note generation).waits = (spansOf generations).last.any speaks :=
    before.text
  have reported : (collected.note generation).usage.isSome =
      ((spansOf generations).last ++ [generation]).any reports := by
    rw [Accumulated.isSome_usage_note, before.report, any_concat, Bool.or_comm]
  have beside : reportsBesideText generation = reports generation := by
    rw [reportsBesideText, notText, Bool.not_false, Bool.and_true]
  have silent : speaks generation = false := by
    rw [speaks, notText, Bool.false_and]
  rw [Accumulated.add_of_not_isTextOnly notText]
  cases kept : (spansOf generations).last.any speaks with
  | false =>
      have spans := @spansOf_concat_of_open generations generation (by rw [kept, Bool.and_false])
      rw [kept] at noted
      rw [Accumulated.flush_of_not_waits noted]
      constructor
      · rw [spans, noted, any_concat, kept, silent]
        rfl
      · rw [spans, reported]
      · simp only [spans, List.countP_append, before.carried, List.countP_singleton, beside,
          Option.toList_none, List.countP_nil, carriesUsage_ofGeneration]
        omega
  | true =>
      have spans := @spansOf_concat_of_ended generations generation (by rw [notText, kept]; rfl)
      rw [kept] at noted
      obtain ⟨reply, repeated, carries, spent⟩ := Accumulated.flush_of_waits noted
      constructor
      · rw [spans, Accumulated.waits_flush]
        rfl
      · rw [spans, spent]
        rfl
      · simp only [spans, repeated, List.countP_append, before.carried, List.countP_singleton,
          beside, Option.toList_some, carriesUsage_ofGeneration, carries, reported]
        omega

end Step

theorem tallied_run (generations : List Generation) :
    Tallied generations (accumulating.run generations).1 (collectedBehind generations) := by
  refine Aggregator.run_invariant ⟨rfl, rfl, rfl⟩ ?_ generations
  intro generations replies collected generation before
  cases isText : isTextOnly generation with
  | true => exact before.add_text isText
  | false => exact before.add_other isText

/-- **How many usages are passed on.** The complete replies to any generations, closing included,
carry one usage for each span that is repeated and has a report, and one for each generation that is
not text alone and reports one. So a report is passed on at most twice, and at most once if it comes
with text alone. -/
theorem usages_by_span (generations : List Generation) :
    (accumulating.outputs generations).countP carriesUsage =
        generations.countP reportsBesideText +
          (spansOf generations).repeated.countP (·.any reports) ∧
      (accumulating.outputs generations).countP carriesUsage ≤
        generations.countP reports + generations.countP reportsBesideText := by
  have tallied := tallied_run generations
  have exact : (accumulating.outputs generations).countP carriesUsage =
      generations.countP reportsBesideText +
        (spansOf generations).repeated.countP (·.any reports) := by
    rw [accumulating_outputs, List.countP_append, Accumulated.countP_close, tallied.text,
      tallied.report, tallied.carried, Spans.repeated, List.countP_append, Nat.add_assoc]
    congr 2
    cases (spansOf generations).last.any speaks with
    | false => rfl
    | true => rw [Bool.true_and, if_pos rfl, List.countP_singleton]
  refine ⟨exact, ?_⟩
  rw [exact, Nat.add_comm]
  exact Nat.add_le_add_right (countP_repeated_le generations) _

/-- A call that comes with a report, and a text behind it. -/
def reportedCall : List Generation :=
  [{ Generation.ofPart (.call { name := "find" }) with
      usage := some { prompt := 1, candidates := 2, total := 3 } },
    .ofPart (.ofText "Found.")]

/-- **A usage that is reported once may be passed on twice**: by the reply to the call above, and
by the reply that repeats the text behind it. -/
theorem usage_passed_on_twice :
    ¬ ∀ generations : List Generation,
      (accumulating.outputs generations).countP carriesUsage ≤ generations.countP reports := by
  intro once
  have twice : (accumulating.outputs reportedCall).countP carriesUsage = 2 := by decide
  have reported : reportedCall.countP reports = 1 := by decide
  have bound := once reportedCall
  rw [twice, reported] at bound
  exact absurd bound (by decide)

end ResponsesBridge.Stream
