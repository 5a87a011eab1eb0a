import ResponsesBridge.Proofs.Rows
import ResponsesBridge.Proofs.Settings.Occurrences
import Mathlib.Logic.ExistsUnique

/-!
# What expansion makes of a text

Expansion is told by rules that do not mention the scanner: a text has lines (`IsLines`), a line has
a layout, and a placeholder in it is replaced (`Replaces`) or refused (`Refuses`). Each of these is
judged by its rules, a placeholder first, then the text between placeholders and the lines that are
made of it (`judged_cut`, `judged_line`), so the text is judged by the rules for its lines
(`judged_text`).

A text that is continued behind a line feed keeps its lines and their numbers. What follows is
expanded as if it stood alone, and its errors are found so many lines further down
(`expand_append`).
-/

set_option autoImplicit false

namespace ResponsesBridge.Settings

open Text (isBlankChar trimStart)

/-! ## The rules for a placeholder -/

/-- A key names a variable: it is `env.` and the name, which is not empty and has no dot. -/
def Names (key name : String) : Prop :=
  key = "env." ++ name ∧ name ≠ "" ∧ '.' ∉ name.toList

/-- Octets can be read as the value of a variable: the first ones that are assigned to it, if they
are a text. -/
def Assigns (assignments : List (String × List UInt8)) (name value : String) : Prop :=
  ∃ before octets behind, assignments = before ++ (name, octets) :: behind ∧
    (∀ entry ∈ before, entry.1 ≠ name) ∧ Text.Utf8.decode? octets = some value.toList

/-- A placeholder is replaced by the value of its variable, or by its default if there is none. -/
inductive Replaces (environment : Environment) (placeholder : Placeholder) : String → Prop
  | value {name value : String} (names : Names placeholder.key name)
      (isSet : environment name = some value) : Replaces environment placeholder value
  | fallback {name value : String} (names : Names placeholder.key name)
      (notSet : environment name = none) (hasFallback : placeholder.fallback = some value) :
      Replaces environment placeholder value

/-- A placeholder is refused: its key names no variable, or one without a value and there is no
default. -/
inductive Refuses (environment : Environment) (number : Nat) (placeholder : Placeholder) :
    ExpansionError → Prop
  | unsupportedKey (nameless : ∀ name, ¬ Names placeholder.key name) :
      Refuses environment number placeholder (.unsupportedKey placeholder.key number)
  | notSet {name : String} (names : Names placeholder.key name)
      (notSet : environment name = none) (noFallback : placeholder.fallback = none) :
      Refuses environment number placeholder (.notSet name number)

/-- Nothing can be put in place of a placeholder. -/
def Unresolved (environment : Environment) (placeholder : Placeholder) : Prop :=
  (∀ name, ¬ Names placeholder.key name) ∨
    ∃ name, Names placeholder.key name ∧ environment name = none ∧ placeholder.fallback = none

/-! ## The rules for a line -/

/-- A line is a comment: its first character that is not white space is `#`. -/
def IsComment (line : List Char) : Prop :=
  ∃ blanks rest, Blanks blanks ∧ line = blanks ++ '#' :: rest

/-- What the text before a placeholder and the placeholder contribute to a line. -/
inductive CutMakes (environment : Environment) : List Char × Placeholder → List Char → Prop
  | mk {text : List Char} {placeholder : Placeholder} {value : String}
      (replaces : Replaces environment placeholder value) :
      CutMakes environment (text, placeholder) (text ++ value.toList)

/-- What is made of a line. -/
inductive LineExpands (environment : Environment) (line : List Char) : List Char → Prop
  | comment (comment : IsComment line) : LineExpands environment line line
  | filled {cuts : List (List Char × Placeholder)} {tail filled : List Char}
      (noComment : ¬ IsComment line) (layout : Layout line cuts tail)
      (makes : RowMakes (CutMakes environment) cuts filled) :
      LineExpands environment line (filled ++ tail)

/-- A line is refused: it is no comment, and this is why the first placeholder in it that is refused
is so. -/
def LineRefuses (environment : Environment) (number : Nat) (line : List Char)
    (error : ExpansionError) : Prop :=
  ¬ IsComment line ∧ ∃ cuts tail, Layout line cuts tail ∧
    FirstOffends (fun cut => Refuses environment number cut.2) cuts error

/-! ## The rules for a text -/

/-- The lines of a text: each ends with the first line feed in it, the last one perhaps with the
text. -/
inductive IsLines : List Char → List (List Char) → Prop
  | nil : IsLines [] []
  | last {line : List Char} (someText : line ≠ []) (noFeed : '\n' ∉ line) : IsLines line [line]
  | next {line text : List Char} {later : List (List Char)} (noFeed : '\n' ∉ line)
      (behind : IsLines text later) : IsLines (line ++ '\n' :: text) ((line ++ ['\n']) :: later)

/-- A text can be continued without a change to its lines. -/
def Closed (text : List Char) : Prop :=
  text = [] ∨ text.getLast? = some '\n'

/-- The same error so many lines further down. -/
def ExpansionError.below (count : Nat) : ExpansionError → ExpansionError
  | .notSet name line => .notSet name (line + count)
  | .unsupportedKey key line => .unsupportedKey key (line + count)

/-! ## A placeholder is judged by its rules -/

theorem ofOctets_eq_some_iff {assignments : List (String × List UInt8)} {name value : String} :
    Environment.ofOctets assignments name = some value ↔ Assigns assignments name value := by
  simp only [Environment.ofOctets, Option.bind_eq_bind, Option.bind_eq_some_iff,
    List.find?_eq_some_iff_append, pure, Option.some.injEq, beq_iff_eq, Bool.not_eq_true',
    beq_eq_false_iff_ne]
  constructor
  · rintro ⟨⟨_, octets⟩, ⟨rfl, before, behind, same, others⟩, letters, read, rfl⟩
    refine ⟨before, octets, behind, same, others, ?_⟩
    rw [read, String.toList_ofList]
  · rintro ⟨before, octets, behind, same, others, read⟩
    exact ⟨(name, octets), ⟨rfl, before, behind, same, others⟩, value.toList, read,
      String.ofList_toList⟩

theorem environmentName?_eq_some_iff {key name : String} :
    environmentName? key = some name ↔ Names key name := by
  simp only [environmentName?, Option.bind_eq_bind, Option.bind_eq_some_iff, after?_eq_some_iff,
    Names]
  constructor
  · rintro ⟨letters, isKey, found⟩
    split at found
    · cases found
    · rename_i fine
      obtain rfl := Option.some.inj found
      simp only [Bool.or_eq_true, List.isEmpty_iff, List.contains_iff_mem, not_or] at fine
      refine ⟨String.toList_injective ?_, ?_, ?_⟩
      · rw [String.toList_append, @String.toList_ofList letters, isKey]
      · exact fun empty => fine.1 (String.ofList_injective empty)
      · rw [String.toList_ofList]
        exact fine.2
  · rintro ⟨rfl, someName, noDot⟩
    refine ⟨name.toList, String.toList_append, ?_⟩
    have fine : ¬ (name.toList.isEmpty || name.toList.contains '.') = true := by
      simp [someName, noDot]
    rw [if_neg fine, String.ofList_toList]

theorem Names.unique {key name other : String} (names : Names key name)
    (second : Names key other) : name = other :=
  Option.some.inj ((environmentName?_eq_some_iff.mpr names).symm.trans
    (environmentName?_eq_some_iff.mpr second))

section

variable {environment : Environment} {number : Nat} {placeholder : Placeholder} {name : String}

theorem replaces_iff (names : Names placeholder.key name) {value : String} :
    Replaces environment placeholder value ↔
      (environment name).or placeholder.fallback = some value := by
  constructor
  · rintro (⟨names', isSet⟩ | ⟨names', notSet, hasFallback⟩) <;> obtain rfl := names.unique names'
    · rw [isSet, Option.some_or]
    · rw [notSet, Option.none_or, hasFallback]
  · intro found
    cases isSet : environment name with
    | some other =>
        rw [isSet, Option.some_or] at found
        exact .value names (isSet.trans found)
    | none =>
        rw [isSet, Option.none_or] at found
        exact .fallback names isSet found

theorem refuses_iff (names : Names placeholder.key name) {error : ExpansionError} :
    Refuses environment number placeholder error ↔
      (environment name).or placeholder.fallback = none ∧ error = .notSet name number := by
  rw [Option.or_eq_none_iff]
  constructor
  · rintro (⟨nameless⟩ | ⟨names', notSet, noFallback⟩)
    · exact absurd names (nameless name)
    · obtain rfl := names.unique names'
      exact ⟨⟨notSet, noFallback⟩, rfl⟩
  · rintro ⟨⟨notSet, noFallback⟩, rfl⟩
    exact .notSet names notSet noFallback

theorem refuses_nameless_iff (nameless : ∀ name, ¬ Names placeholder.key name)
    {error : ExpansionError} :
    Refuses environment number placeholder error ↔
      error = .unsupportedKey placeholder.key number := by
  constructor
  · rintro (_ | ⟨names, -, -⟩)
    · rfl
    · exact absurd names (nameless _)
  · rintro rfl
    exact .unsupportedKey nameless

/-- The placeholders that are refused are those that nothing can be put in place of. -/
theorem exists_refuses_iff :
    (∃ error, Refuses environment number placeholder error) ↔
      Unresolved environment placeholder := by
  constructor
  · rintro ⟨_, nameless | ⟨names, notSet, noFallback⟩⟩
    · exact .inl nameless
    · exact .inr ⟨_, names, notSet, noFallback⟩
  · rintro (nameless | ⟨name, names, notSet, noFallback⟩)
    · exact ⟨_, .unsupportedKey nameless⟩
    · exact ⟨_, .notSet names notSet noFallback⟩

end

section

variable (environment : Environment) (number : Nat)

theorem resolve_of_names {placeholder : Placeholder} {name : String}
    (names : Names placeholder.key name) :
    resolve environment number placeholder =
      ((environment name).or placeholder.fallback).elim (.error (.notSet name number)) .ok := by
  simp only [resolve, environmentName?_eq_some_iff.mpr names]
  cases environment name with
  | some value => rfl
  | none => cases placeholder.fallback <;> rfl

theorem judged_placeholder (placeholder : Placeholder) :
    Judged (resolve environment number placeholder) (Replaces environment placeholder)
      (Refuses environment number placeholder) := by
  cases found : environmentName? placeholder.key with
  | none =>
      have nameless : ∀ name, ¬ Names placeholder.key name := by
        intro name names
        rw [environmentName?_eq_some_iff.mpr names] at found
        cases found
      have refused : resolve environment number placeholder =
          .error (.unsupportedKey placeholder.key number) := by
        rw [resolve, found]
      rw [refused]
      refine .of_error ?_ fun error => refuses_nameless_iff nameless
      rintro value (⟨names, -⟩ | ⟨names, -, -⟩) <;> exact nameless _ names
  | some name =>
      have names : Names placeholder.key name := environmentName?_eq_some_iff.mp found
      rw [resolve_of_names environment number names]
      cases put : (environment name).or placeholder.fallback with
      | some value =>
          refine .of_ok (fun other => ?_) fun error => ?_
          · rw [replaces_iff names, put, Option.some.injEq, eq_comm]
          · rw [refuses_iff names, put]
            exact fun refused => Option.some_ne_none _ refused.1
      | none =>
          refine .of_error (fun value => ?_) fun error => ?_
          · rw [replaces_iff names, put]
            exact (Option.some_ne_none value).symm
          · rw [refuses_iff names]
            exact and_iff_right put

/-! ## A line is judged by its rules -/

/-- The text before a placeholder, and what is put in its place. -/
def expandCut (cut : List Char × Placeholder) : Except ExpansionError (List Char) := do
  let value ← resolve environment number cut.2
  return cut.1 ++ value.toList

theorem judged_cut (cut : List Char × Placeholder) :
    Judged (expandCut environment number cut) (CutMakes environment cut)
      (Refuses environment number cut.2) := by
  obtain ⟨text, placeholder⟩ := cut
  have judged := (judged_placeholder environment number placeholder).map fun value =>
    text ++ value.toList
  refine ⟨fun output => ?_, judged.error⟩
  refine (judged.ok output).trans ⟨?_, ?_⟩
  · rintro ⟨value, replaces, rfl⟩
    exact .mk replaces
  · rintro ⟨replaces⟩
    exact ⟨_, replaces, rfl⟩

theorem expandPieces_characters (text : List Char) (pieces : List Piece) :
    expandPieces environment number (charactersOf text ++ pieces) =
      (expandPieces environment number pieces).map (text ++ ·) := by
  induction text with
  | nil =>
      rw [charactersOf, List.map_nil, List.nil_append]
      cases expandPieces environment number pieces <;> rfl
  | cons character text ih =>
      have same : charactersOf (character :: text) ++ pieces =
          .character character :: (charactersOf text ++ pieces) := rfl
      rw [same, expandPieces, ih]
      cases expandPieces environment number pieces <;> rfl

theorem expandPieces_piecesOf (cuts : List (List Char × Placeholder)) (tail : List Char) :
    expandPieces environment number (piecesOf cuts tail) =
      (gather (expandCut environment number) cuts).map (· ++ tail) := by
  induction cuts with
  | nil =>
      have only := expandPieces_characters environment number tail []
      rw [List.append_nil] at only
      rw [piecesOf, only]
      simp [expandPieces, gather, Except.map]
  | cons cut cuts ih =>
      obtain ⟨text, placeholder⟩ := cut
      rw [piecesOf, expandPieces_characters, expandPieces, ih, gather, expandCut]
      cases resolve environment number placeholder with
      | error => rfl
      | ok value =>
          cases gather (expandCut environment number) cuts with
          | error => rfl
          | ok filled => simp [Bind.bind, Except.bind, pure, Except.pure, Except.map]

end

section

variable {environment : Environment} {number : Nat} {line tail : List Char}
  {cuts : List (List Char × Placeholder)}

theorem isComment_iff {line : List Char} : isComment line = true ↔ IsComment line := by
  obtain ⟨blanks, areBlanks, isLine⟩ := exists_blanks line
  simp only [isComment, beq_iff_eq]
  constructor
  · intro first
    obtain ⟨rest, isRest⟩ := List.head?_eq_some_iff.mp first
    exact ⟨blanks, rest, areBlanks, isRest ▸ isLine⟩
  · rintro ⟨blanks, rest, areBlanks, rfl⟩
    rw [trimStart_append areBlanks (by simp; decide), List.head?_cons]

/-- A line that is no comment is made of what its layout tells of. -/
theorem lineExpands_iff (noComment : ¬ IsComment line) (layout : Layout line cuts tail)
    {output : List Char} :
    LineExpands environment line output ↔
      ∃ filled, RowMakes (CutMakes environment) cuts filled ∧ output = filled ++ tail := by
  constructor
  · rintro (comment | ⟨-, layout', makes⟩)
    · exact absurd comment noComment
    · obtain ⟨rfl, rfl⟩ := Prod.mk.inj (layout.unique layout')
      exact ⟨_, makes, rfl⟩
  · rintro ⟨filled, makes, rfl⟩
    exact .filled noComment layout makes

theorem lineRefuses_iff (noComment : ¬ IsComment line) (layout : Layout line cuts tail)
    {error : ExpansionError} :
    LineRefuses environment number line error ↔
      FirstOffends (fun cut => Refuses environment number cut.2) cuts error := by
  constructor
  · rintro ⟨-, more, other, layout', first⟩
    obtain ⟨rfl, rfl⟩ := Prod.mk.inj (layout.unique layout')
    exact first
  · intro first
    exact ⟨noComment, cuts, tail, layout, first⟩

/-- A line is refused exactly if nothing can be put in place of some placeholder in it. -/
theorem exists_lineRefuses_iff :
    (∃ error, LineRefuses environment number line error) ↔
      ¬ IsComment line ∧ ∃ cuts tail, Layout line cuts tail ∧
        ∃ cut ∈ cuts, Unresolved environment cut.2 := by
  have someCut : ∀ cuts, (∃ error, FirstOffends
      (fun cut : List Char × Placeholder => Refuses environment number cut.2) cuts error) ↔
      ∃ cut ∈ cuts, Unresolved environment cut.2 := by
    intro cuts
    simp only [exists_firstOffends_iff, exists_refuses_iff]
  simp only [← someCut]
  constructor
  · rintro ⟨error, noComment, cuts, tail, layout, first⟩
    exact ⟨noComment, cuts, tail, layout, error, first⟩
  · rintro ⟨noComment, cuts, tail, layout, error, first⟩
    exact ⟨error, noComment, cuts, tail, layout, first⟩

end

section

variable (environment : Environment) (number : Nat)

theorem judged_line (line : List Char) :
    Judged (expandLine environment number line) (LineExpands environment line)
      (LineRefuses environment number line) := by
  rw [expandLine]
  split
  case isTrue comment =>
    have comment := isComment_iff.mp comment
    refine .of_ok (fun other => ?_) fun error => ?_
    · constructor
      · rintro (_ | ⟨noComment, -, -⟩)
        · rfl
        · exact absurd comment noComment
      · rintro rfl
        exact .comment comment
    · rintro ⟨noComment, -⟩
      exact noComment comment
  case isFalse noComment =>
    have noComment : ¬ IsComment line := fun comment => noComment (isComment_iff.mpr comment)
    obtain ⟨cuts, tail, layout⟩ := exists_layout line
    have judged := (Judged.gather (judged_cut environment number) cuts).map (· ++ tail)
    rw [layout.pieces_eq, expandPieces_piecesOf]
    constructor
    · intro output
      rw [judged.ok, lineExpands_iff noComment layout]
    · intro error
      rw [judged.error, lineRefuses_iff noComment layout]

end

/-! ## The lines of a text -/

theorem lines_append_feed {line : List Char} (noFeed : '\n' ∉ line) (text : List Char) :
    lines (line ++ '\n' :: text) = (line ++ ['\n']) :: lines text := by
  induction line with
  | nil => simp [lines]
  | cons character line ih =>
      obtain ⟨here, later⟩ := List.ne_and_not_mem_of_not_mem_cons noFeed
      rw [List.cons_append, lines, if_neg (Ne.symm here), ih later, List.cons_append]

theorem lines_of_noFeed {line : List Char} (someText : line ≠ []) (noFeed : '\n' ∉ line) :
    lines line = [line] := by
  induction line with
  | nil => exact absurd rfl someText
  | cons character line ih =>
      obtain ⟨here, later⟩ := List.ne_and_not_mem_of_not_mem_cons noFeed
      rw [lines, if_neg (Ne.symm here)]
      cases line with
      | nil => rfl
      | cons next line => rw [ih (List.cons_ne_nil _ _) later]

theorem exists_isLines (text : List Char) : ∃ parts, IsLines text parts := by
  induction text with
  | nil => exact ⟨[], .nil⟩
  | cons character text ih =>
      obtain ⟨parts, isLines⟩ := ih
      by_cases feed : character = '\n'
      · subst feed
        exact ⟨_, .next List.not_mem_nil isLines⟩
      · cases isLines with
        | nil => exact ⟨_, .last (List.cons_ne_nil _ _) (by simp [Ne.symm feed])⟩
        | last someText noFeed =>
            exact ⟨_, .last (List.cons_ne_nil _ _) (by simp [Ne.symm feed, noFeed])⟩
        | @next line later parts noFeed behind =>
            have longer : '\n' ∉ character :: line := by simp [Ne.symm feed, noFeed]
            exact ⟨_, .next longer behind⟩

/-- **A text has the lines that it is cut into**, and no other ones. -/
theorem isLines_iff {text : List Char} {parts : List (List Char)} :
    IsLines text parts ↔ parts = lines text := by
  have cut : ∀ {parts}, IsLines text parts → parts = lines text := by
    intro parts isLines
    induction isLines with
    | nil => rfl
    | last someText noFeed => exact (lines_of_noFeed someText noFeed).symm
    | next noFeed behind ih => rw [lines_append_feed noFeed, ih]
  constructor
  · exact cut
  · rintro rfl
    obtain ⟨parts, isLines⟩ := exists_isLines text
    exact cut isLines ▸ isLines

theorem Closed.behind_feed {line text : List Char} (closed : Closed (line ++ '\n' :: text)) :
    Closed text := by
  cases text with
  | nil => exact .inl rfl
  | cons character text =>
      rcases closed with empty | ends
      · simp at empty
      · exact .inr (by simpa using ends)

theorem not_closed_of_noFeed {line : List Char} (someText : line ≠ []) (noFeed : '\n' ∉ line) :
    ¬ Closed line := by
  rintro (empty | ends)
  · exact someText empty
  · exact noFeed (List.mem_of_getLast? ends)

theorem IsLines.append {front back : List Char} {parts more : List (List Char)}
    (isLines : IsLines front parts) (closed : Closed front) (behind : IsLines back more) :
    IsLines (front ++ back) (parts ++ more) := by
  induction isLines with
  | nil => exact behind
  | last someText noFeed => exact absurd closed (not_closed_of_noFeed someText noFeed)
  | next noFeed later ih =>
      rw [List.append_assoc, List.cons_append]
      exact .next noFeed (ih closed.behind_feed)

theorem IsLines.length_eq {text : List Char} {parts : List (List Char)}
    (isLines : IsLines text parts) (closed : Closed text) : parts.length = text.count '\n' := by
  induction isLines with
  | nil => rfl
  | last someText noFeed => exact absurd closed (not_closed_of_noFeed someText noFeed)
  | next noFeed later ih =>
      rw [List.length_cons, ih closed.behind_feed, List.count_append, List.count_cons_self,
        List.count_eq_zero_of_not_mem noFeed, Nat.zero_add]

/-! ## A text is judged by the rules for its lines -/

section

variable (environment : Environment)

theorem expandLines_eq (number : Nat) (parts : List (List Char)) :
    expandLines environment number parts =
      gather (fun numbered => expandLine environment numbered.2 numbered.1)
        (parts.zipIdx number) := by
  induction parts generalizing number with
  | nil => rfl
  | cons line later ih => rw [expandLines, List.zipIdx_cons, gather, ih]

theorem judged_text (text : String) :
    Judged (expand environment text)
      (fun output => RowMakes (LineExpands environment) (lines text.toList) output.toList)
      (FirstOffends (fun numbered => LineRefuses environment numbered.2 numbered.1)
        ((lines text.toList).zipIdx 1)) := by
  have judged := Judged.gather
    (fun numbered : List Char × Nat => judged_line environment numbered.2 numbered.1)
    ((lines text.toList).zipIdx 1)
  rw [← expandLines_eq] at judged
  have written := judged.map String.ofList
  refine ⟨fun output => ?_, written.error⟩
  refine (written.ok output).trans ?_
  simp only [rowMakes_zipIdx_iff]
  constructor
  · rintro ⟨expanded, makes, rfl⟩
    rwa [String.toList_ofList]
  · intro makes
    exact ⟨output.toList, makes, String.ofList_toList.symm⟩

/-- A text is refused exactly if nothing can be put in place of some placeholder in a line that is no
comment. -/
theorem exists_error_iff (text : String) :
    (∃ error, expand environment text = .error error) ↔
      ∃ line ∈ lines text.toList, ¬ IsComment line ∧ ∃ cuts tail, Layout line cuts tail ∧
        ∃ cut ∈ cuts, Unresolved environment cut.2 := by
  simp only [(judged_text environment text).error, exists_firstOffends_iff,
    exists_lineRefuses_iff]
  constructor
  · rintro ⟨⟨line, number⟩, member, refused⟩
    exact ⟨line, List.fst_mem_of_mem_zipIdx member, refused⟩
  · rintro ⟨line, member, refused⟩
    rw [← List.zipIdx_map_fst 1 (lines text.toList)] at member
    obtain ⟨numbered, among, rfl⟩ := List.mem_map.mp member
    exact ⟨numbered, among, refused⟩

/-! ## Texts behind each other -/

theorem resolve_below (number count : Nat) (placeholder : Placeholder) :
    resolve environment (number + count) placeholder =
      (resolve environment number placeholder).mapError (.below count) := by
  rw [resolve, resolve]
  cases environmentName? placeholder.key with
  | none => rfl
  | some name =>
      simp only
      cases environment name with
      | some value => rfl
      | none => cases placeholder.fallback <;> rfl

theorem expandPieces_below (number count : Nat) (pieces : List Piece) :
    expandPieces environment (number + count) pieces =
      (expandPieces environment number pieces).mapError (.below count) := by
  induction pieces with
  | nil => rfl
  | cons piece pieces ih =>
      cases piece with
      | character value =>
          rw [expandPieces, expandPieces, ih]
          cases expandPieces environment number pieces <;> rfl
      | placeholder placeholder =>
          rw [expandPieces, expandPieces, ih, resolve_below]
          cases resolve environment number placeholder with
          | error => rfl
          | ok value => cases expandPieces environment number pieces <;> rfl

theorem expandLine_below (number count : Nat) (line : List Char) :
    expandLine environment (number + count) line =
      (expandLine environment number line).mapError (.below count) := by
  rw [expandLine, expandLine]
  split
  · rfl
  · exact expandPieces_below environment number count _

theorem expandLines_below (number count : Nat) (parts : List (List Char)) :
    expandLines environment (number + count) parts =
      (expandLines environment number parts).mapError (.below count) := by
  induction parts generalizing number with
  | nil => rfl
  | cons line later ih =>
      rw [expandLines, expandLines, expandLine_below, Nat.add_right_comm, ih]
      cases expandLine environment number line with
      | error => rfl
      | ok first => cases expandLines environment (number + 1) later <;> rfl

theorem expandLines_append (number : Nat) (front back : List (List Char)) :
    expandLines environment number (front ++ back) = (do
      let first ← expandLines environment number front
      let rest ← expandLines environment (number + front.length) back
      return first ++ rest) := by
  induction front generalizing number with
  | nil =>
      rw [List.nil_append, List.length_nil, Nat.add_zero]
      cases expandLines environment number back <;> rfl
  | cons line later ih =>
      rw [List.cons_append, expandLines, expandLines, ih, List.length_cons, Nat.add_assoc,
        Nat.add_comm 1]
      cases expandLine environment number line with
      | error => rfl
      | ok first =>
          cases expandLines environment (number + 1) later with
          | error => rfl
          | ok middle =>
              cases expandLines environment (number + (later.length + 1)) back with
              | error => rfl
              | ok rest => simp [Bind.bind, Except.bind, pure, Except.pure]

/-- **A text behind a line feed** is expanded as if it stood alone; its errors are found further
down by the lines before it. -/
theorem expand_append {first : String} (closed : Closed first.toList) (second : String) :
    expand environment (first ++ second) = (do
      let front ← expand environment first
      let back ← (expand environment second).mapError (.below (first.toList.count '\n'))
      return front ++ back) := by
  have isLines : IsLines first.toList (lines first.toList) := isLines_iff.mpr rfl
  have together : lines (first ++ second).toList = lines first.toList ++ lines second.toList := by
    rw [String.toList_append]
    exact (isLines_iff.mp (isLines.append closed (isLines_iff.mpr rfl))).symm
  rw [expand, together, expandLines_append, expandLines_below, isLines.length_eq closed, expand,
    expand]
  cases expandLines environment 1 (lines first.toList) with
  | error => rfl
  | ok front =>
      cases expandLines environment 1 (lines second.toList) with
      | error => rfl
      | ok back => simp [Bind.bind, Except.bind, pure, Except.pure, Except.mapError]

end

/-- **Expansion replaces the placeholders of a text, from the left, and nothing else.** A comment is
copied. It fails exactly if nothing can be put in place of some placeholder outside of comments, with
the error of the first one and the number of its line. A text behind a line feed is expanded as if it
stood alone, but for the numbers of lines. -/
theorem expand_by_occurrences (environment : Environment) :
    (∀ assignments name value, Environment.ofOctets assignments name = some value ↔
      Assigns assignments name value) ∧
    (∀ text, ∃! parts, IsLines text parts) ∧
    (∀ line, ∃! layout : List (List Char × Placeholder) × List Char,
      Layout line layout.1 layout.2) ∧
    (∀ text output, expand environment text = .ok output ↔
      ∃ parts, IsLines text.toList parts ∧
        RowMakes (LineExpands environment) parts output.toList) ∧
    (∀ text, (∃ error, expand environment text = .error error) ↔
      ∃ parts, IsLines text.toList parts ∧ ∃ line ∈ parts, ¬ IsComment line ∧
        ∃ cuts tail, Layout line cuts tail ∧ ∃ cut ∈ cuts, Unresolved environment cut.2) ∧
    (∀ text error, expand environment text = .error error ↔
      ∃ parts, IsLines text.toList parts ∧
        FirstOffends (fun numbered => LineRefuses environment numbered.2 numbered.1)
          (parts.zipIdx 1) error) ∧
    (∀ first second, Closed first.toList → expand environment (first ++ second) = do
      let front ← expand environment first
      let back ← (expand environment second).mapError (.below (first.toList.count '\n'))
      return front ++ back) := by
  refine ⟨fun _ _ _ => ofOctets_eq_some_iff, fun text => ?_, fun line => ?_,
    fun text output => ?_, fun text => ?_, fun text error => ?_,
    fun first second closed => expand_append environment closed second⟩
  · exact ⟨lines text, isLines_iff.mpr rfl, fun parts => isLines_iff.mp⟩
  · obtain ⟨cuts, tail, layout⟩ := exists_layout line
    exact ⟨(cuts, tail), layout, fun _ other => other.unique layout⟩
  · simp only [isLines_iff, exists_eq_left]
    exact (judged_text environment text).ok output
  · simp only [isLines_iff, exists_eq_left]
    exact exists_error_iff environment text
  · simp only [isLines_iff, exists_eq_left]
    exact (judged_text environment text).error error

/-- A placeholder in the second line, behind a comment that is left as it is. -/
theorem expand_by_occurrences_continued :
    Closed "# \x7b\x7b x \x7d\x7d\n".toList ∧
      expand (fun _ => none) ("# \x7b\x7b x \x7d\x7d\n" ++ "\x7b\x7b x \x7d\x7d") =
        .error (.unsupportedKey "x" 2) := by
  have closed : Closed "# \x7b\x7b x \x7d\x7d\n".toList := .inr (by decide)
  refine ⟨closed, ?_⟩
  rw [(expand_by_occurrences fun _ => none).2.2.2.2.2.2 _ _ closed]
  rfl

end ResponsesBridge.Settings
