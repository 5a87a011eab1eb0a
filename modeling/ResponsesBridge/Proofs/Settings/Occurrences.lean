import ResponsesBridge.Settings.Placeholder
import Mathlib.Data.List.TakeWhile

/-!
# Where the placeholders of a line stand

Which texts are placeholders is told by a grammar (`SpellsPlaceholder`): two braces, blanks, a key,
blanks, perhaps a bar and a default in quotes, and two braces. The scanner finds a placeholder at the
beginning of a text exactly if the text begins with one (`placeholder?_eq_some_iff`).

A layout of a line cuts it at the placeholders in it, each the first one behind the one before
(`Layout`). Every line has exactly one layout (`exists_layout`, `Layout.unique`), and it says what the
pieces of the line are (`Layout.pieces_eq`).
-/

set_option autoImplicit false

namespace ResponsesBridge.Settings

open Text (isBlankChar trimStart)

/-! ## The grammar -/

/-- White space. -/
def Blanks (text : List Char) : Prop :=
  ∀ character ∈ text, isBlankChar character = true

/-- A key between the braces: some letters, digits, low lines and dots. -/
def IsKey (text : List Char) : Prop :=
  text ≠ [] ∧ ∀ character ∈ text, isKeyChar character = true

/-- What may stand behind a key and the blanks behind it: a bar, and a default in quotes without
quotes inside. -/
inductive SpellsFallback : Option String → List Char → Prop
  | absent : SpellsFallback none []
  | present {before value behind : List Char} (areBlanks : Blanks before) (unquoted : '"' ∉ value)
      (areBlanks' : Blanks behind) :
      SpellsFallback (some (String.ofList value))
        ('|' :: (before ++ ("default(\"".toList ++ (value ++ ("\")".toList ++ behind)))))

/-- A text is a placeholder. -/
inductive SpellsPlaceholder : Placeholder → List Char → Prop
  | mk {before key behind fallbackText : List Char} {fallback : Option String}
      (areBlanks : Blanks before) (isKey : IsKey key) (areBlanks' : Blanks behind)
      (hasFallback : SpellsFallback fallback fallbackText) :
      SpellsPlaceholder ⟨String.ofList key, fallback⟩
        ('{' :: '{' :: (before ++ (key ++ (behind ++ (fallbackText ++ ['}', '}'])))))

/-- A placeholder stands at the beginning of a text. -/
def Begins (text : List Char) : Prop :=
  ∃ placeholder occurrence rest, text = occurrence ++ rest ∧
    SpellsPlaceholder placeholder occurrence

/-! ## The scanner follows the grammar -/

theorem after?_eq_some_iff {beginning text rest : List Char} :
    after? beginning text = some rest ↔ text = beginning ++ rest := by
  induction beginning generalizing text with
  | nil => simp [after?]
  | cons expected beginning ih =>
      cases text with
      | nil => simp [after?]
      | cons character text =>
          by_cases same : character = expected
          · simp [after?, same, ih]
          · simp [after?, same]

/-- A text of characters of one kind and another text that does not go on with them. -/
theorem span_append {kind : Char → Bool} {front back : List Char}
    (all : ∀ character ∈ front, kind character = true)
    (ends : ∀ character ∈ back.head?, kind character = false) :
    (front ++ back).takeWhile kind = front ∧ (front ++ back).dropWhile kind = back := by
  rw [List.takeWhile_append_of_pos all, List.dropWhile_append_of_pos all]
  cases back with
  | nil => simp
  | cons character back => simp [ends character rfl]

/-- The white space at the beginning of a text. -/
theorem exists_blanks (text : List Char) :
    ∃ blanks, Blanks blanks ∧ text = blanks ++ trimStart text :=
  ⟨text.takeWhile isBlankChar, fun _ member => List.mem_takeWhile_imp member,
    List.takeWhile_append_dropWhile.symm⟩

theorem trimStart_append {blanks text : List Char} (areBlanks : Blanks blanks)
    (ends : ∀ character ∈ text.head?, isBlankChar character = false) :
    trimStart (blanks ++ text) = text :=
  (span_append areBlanks ends).2

/-- Letters and digits are between the digit zero and the small letter z. -/
theorem bounds_of_isAlphanum {character : Char} (alphanumeric : character.isAlphanum = true) :
    48 ≤ character.toNat ∧ character.toNat ≤ 122 := by
  have spelled : ((decide (65 ≤ character.val ∧ character.val ≤ 90) ||
      (decide (97 ≤ character.val) && decide (character.val ≤ 122))) ||
      (decide (48 ≤ character.val) && decide (character.val ≤ 57))) = true := alphanumeric
  simp only [Bool.or_eq_true, Bool.and_eq_true, decide_eq_true_eq, UInt32.le_iff_toNat_le,
    UInt32.reduceToNat] at spelled
  have point : character.toNat = character.val.toNat := rfl
  omega

theorem isBlankChar_of_isKeyChar {character : Char} (key : isKeyChar character = true) :
    isBlankChar character = false := by
  simp only [isKeyChar, Bool.or_eq_true, beq_iff_eq] at key
  have bounds : 46 ≤ character.toNat ∧ character.toNat ≤ 122 := by
    rcases key with (alphanumeric | rfl) | rfl
    · have inside := bounds_of_isAlphanum alphanumeric
      omega
    · decide
    · decide
  simp only [isBlankChar, Bool.or_eq_false_iff, Bool.and_eq_false_iff, decide_eq_false_iff_not,
    beq_eq_false_iff_ne]
  omega

theorem isKeyChar_of_isBlankChar {character : Char} (blank : isBlankChar character = true) :
    isKeyChar character = false := by
  by_contra key
  rw [isBlankChar_of_isKeyChar (Bool.not_eq_false _ ▸ key)] at blank
  cases blank

/-- The default behind a key if there is a bar, none otherwise, and the rest. -/
def fallback? : List Char → Option (Option String × List Char)
  | '|' :: rest => do
    let (value, rest) ← default? rest
    return (some value, rest)
  | rest => some (none, rest)

theorem fallback?_of_ne {text : List Char} (noBar : ∀ rest, text ≠ '|' :: rest) :
    fallback? text = some (none, text) := by
  unfold fallback?
  split
  · exact absurd rfl (noBar _)
  · rfl

theorem placeholder?_eq {text : List Char} :
    placeholder? text = (do
      let text ← after? ['{', '{'] text
      let text := trimStart text
      let key := text.takeWhile isKeyChar
      if key.isEmpty then none
      else
        let (fallback, rest) ← fallback? (trimStart (text.dropWhile isKeyChar))
        let rest ← after? ['}', '}'] rest
        return (⟨String.ofList key, fallback⟩, rest)) := by
  unfold placeholder?
  cases after? ['{', '{'] text with
  | none => rfl
  | some inside =>
      simp only [Option.bind_eq_bind, Option.bind_some]
      split
      · rfl
      · generalize trimStart ((trimStart inside).dropWhile isKeyChar) = behind
        split
        · simp only [fallback?, Option.bind_eq_bind, Option.bind_assoc]
        · rename_i noBar
          rw [fallback?_of_ne noBar]
          rfl

theorem default?_of_spells {before value behind rest : List Char} (areBlanks : Blanks before)
    (unquoted : '"' ∉ value) (areBlanks' : Blanks behind)
    (ends : ∀ character ∈ rest.head?, isBlankChar character = false) :
    default? (before ++ ("default(\"".toList ++ (value ++ ("\")".toList ++ (behind ++ rest))))) =
      some (String.ofList value, rest) := by
  have word : trimStart (before ++ ("default(\"".toList ++ (value ++ ("\")".toList ++
      (behind ++ rest))))) = "default(\"".toList ++ (value ++ ("\")".toList ++ (behind ++ rest))) :=
    trimStart_append areBlanks (by simp; decide)
  have quoted : ∀ character ∈ value, (character != '"') = true := by
    intro character member
    exact bne_iff_ne.mpr fun isQuote => unquoted (isQuote ▸ member)
  have inside := @span_append (fun character => character != '"') value
    ("\")".toList ++ (behind ++ rest)) quoted (by simp)
  rw [default?, word, after?_eq_some_iff.mpr rfl]
  simp only [Option.bind_eq_bind, Option.bind_some, inside.1, inside.2,
    after?_eq_some_iff.mpr rfl, trimStart_append areBlanks' ends]
  rfl

theorem fallback?_eq_some_iff {text rest : List Char} {fallback : Option String} :
    fallback? text = some (fallback, '}' :: '}' :: rest) ↔
      ∃ body, text = body ++ '}' :: '}' :: rest ∧ SpellsFallback fallback body := by
  constructor
  · intro found
    unfold fallback? at found
    split at found
    · rename_i inside
      simp only [default?, Option.bind_eq_bind, Option.bind_eq_some_iff, after?_eq_some_iff, pure,
        Option.some.injEq, Prod.mk.injEq] at found
      obtain ⟨_, ⟨word, isWord, later, isLater, rfl⟩, rfl, isRest⟩ := found
      obtain ⟨before, areBlanks, isBefore⟩ := exists_blanks inside
      obtain ⟨behind, areBlanks', isBehind⟩ := exists_blanks later
      have quoted : word = word.takeWhile (fun character => character != '"') ++
          ("\")".toList ++ (behind ++ '}' :: '}' :: rest)) := by
        rw [← isRest, ← isBehind, ← isLater, List.takeWhile_append_dropWhile]
      have unquoted : '"' ∉ word.takeWhile fun character => character != '"' := by
        intro member
        have notQuote := List.mem_takeWhile_imp member
        simp at notQuote
      refine ⟨_, ?_, .present areBlanks unquoted areBlanks'⟩
      simp only [List.cons_append, List.append_assoc]
      rw [← quoted, ← isWord, ← isBefore]
    · cases found
      exact ⟨[], rfl, .absent⟩
  · rintro ⟨_, rfl, spelled⟩
    cases spelled with
    | absent => rfl
    | @present before value behind areBlanks unquoted areBlanks' =>
        have found := @default?_of_spells _ _ _ ('}' :: '}' :: rest) areBlanks unquoted areBlanks'
          (by simp; decide)
        simp only [List.cons_append, List.append_assoc] at found ⊢
        rw [fallback?, found]
        rfl

/-- What the scanner finds is a placeholder. -/
theorem spells_of_placeholder? {text rest : List Char} {placeholder : Placeholder}
    (found : placeholder? text = some (placeholder, rest)) :
    ∃ occurrence, text = occurrence ++ rest ∧ SpellsPlaceholder placeholder occurrence := by
  rw [placeholder?_eq] at found
  simp only [Option.bind_eq_bind, Option.bind_eq_some_iff, after?_eq_some_iff] at found
  obtain ⟨inside, rfl, found⟩ := found
  split at found
  · cases found
  · rename_i someKey
    simp only [Option.bind_eq_some_iff, after?_eq_some_iff, pure, Option.some.injEq,
      Prod.mk.injEq] at found
    obtain ⟨⟨fallback, closing⟩, found, rest, rfl, rfl, rfl⟩ := found
    obtain ⟨before, areBlanks, isBefore⟩ := exists_blanks inside
    obtain ⟨behind, areBlanks', isBehind⟩ :=
      exists_blanks ((trimStart inside).dropWhile isKeyChar)
    obtain ⟨body, isBody, hasFallback⟩ := (@fallback?_eq_some_iff _ rest _).mp found
    have isKey : IsKey ((trimStart inside).takeWhile isKeyChar) :=
      ⟨by simpa using someKey, fun _ member => List.mem_takeWhile_imp member⟩
    refine ⟨_, ?_, .mk areBlanks isKey areBlanks' hasFallback⟩
    have isKeyed : trimStart inside = (trimStart inside).takeWhile isKeyChar ++
        (behind ++ (body ++ '}' :: '}' :: rest)) := by
      rw [← isBody, ← isBehind, List.takeWhile_append_dropWhile]
    simp only [List.cons_append, List.append_assoc, List.nil_append]
    rw [← isKeyed, ← isBefore]

/-- A placeholder is found. -/
theorem placeholder?_of_spells {occurrence rest : List Char} {placeholder : Placeholder}
    (spelled : SpellsPlaceholder placeholder occurrence) :
    placeholder? (occurrence ++ rest) = some (placeholder, rest) := by
  cases spelled with
  | @mk before key behind fallbackText fallback areBlanks isKey areBlanks' hasFallback =>
      have closing : ∀ character ∈ (fallbackText ++ '}' :: '}' :: rest).head?,
          isBlankChar character = false ∧ isKeyChar character = false := by
        cases hasFallback <;> simp <;> decide
      have keyed : trimStart (before ++ (key ++ (behind ++ (fallbackText ++ '}' :: '}' :: rest)))) =
          key ++ (behind ++ (fallbackText ++ '}' :: '}' :: rest)) := by
        refine trimStart_append areBlanks fun character first => ?_
        obtain ⟨letter, later, rfl⟩ := List.exists_cons_of_ne_nil isKey.1
        obtain rfl : letter = character := Option.some.inj first
        exact isBlankChar_of_isKeyChar (isKey.2 letter (List.mem_cons_self ..))
      have unkeyed : ∀ character ∈ (behind ++ (fallbackText ++ '}' :: '}' :: rest)).head?,
          isKeyChar character = false := by
        intro character first
        cases behind with
        | nil => exact (closing character first).2
        | cons blank behind =>
            obtain rfl : blank = character := Option.some.inj first
            exact isKeyChar_of_isBlankChar (areBlanks' blank (List.mem_cons_self ..))
      have split := span_append isKey.2 unkeyed
      have left : trimStart (behind ++ (fallbackText ++ '}' :: '}' :: rest)) =
          fallbackText ++ '}' :: '}' :: rest :=
        trimStart_append areBlanks' fun character first => (closing character first).1
      have someKey : ¬ key.isEmpty = true := by simpa using isKey.1
      have found : fallback? (fallbackText ++ '}' :: '}' :: rest) =
          some (fallback, '}' :: '}' :: rest) :=
        fallback?_eq_some_iff.mpr ⟨_, rfl, hasFallback⟩
      rw [placeholder?_eq]
      simp only [List.cons_append, List.append_assoc, List.nil_append, after?, if_true,
        Option.bind_eq_bind, Option.bind_some, keyed, split.1, split.2, left, found, someKey]
      rfl

/-- **The scanner finds a placeholder exactly where one stands**, and leaves what is behind it. -/
theorem placeholder?_eq_some_iff {text rest : List Char} {placeholder : Placeholder} :
    placeholder? text = some (placeholder, rest) ↔
      ∃ occurrence, text = occurrence ++ rest ∧ SpellsPlaceholder placeholder occurrence := by
  constructor
  · exact spells_of_placeholder?
  · rintro ⟨occurrence, rfl, spelled⟩
    exact placeholder?_of_spells spelled

theorem placeholder?_eq_none_iff {text : List Char} :
    placeholder? text = none ↔ ¬ Begins text := by
  constructor
  · rintro nothing ⟨placeholder, occurrence, rest, isText, spelled⟩
    have found := placeholder?_eq_some_iff.mpr ⟨occurrence, isText, spelled⟩
    rw [nothing] at found
    cases found
  · intro nowhere
    by_contra something
    obtain ⟨⟨placeholder, rest⟩, found⟩ := Option.ne_none_iff_exists'.mp something
    obtain ⟨occurrence, isText, spelled⟩ := placeholder?_eq_some_iff.mp found
    exact nowhere ⟨placeholder, occurrence, rest, isText, spelled⟩

/-! ## Layouts -/

/-- In a text no placeholder begins, given what stands behind the text. -/
def Plain (text rest : List Char) : Prop :=
  ∀ front back, text = front ++ back → back ≠ [] → ¬ Begins (back ++ rest)

/-- The layout of a line: the placeholders in it, from the left, none of them overlapping another
one, each with the text between the one before and it; and the text behind the last one. -/
inductive Layout : List Char → List (List Char × Placeholder) → List Char → Prop
  | last {text : List Char} (plain : Plain text []) : Layout text [] text
  | next {text occurrence rest tail : List Char} {placeholder : Placeholder}
      {cuts : List (List Char × Placeholder)} (plain : Plain text (occurrence ++ rest))
      (spelled : SpellsPlaceholder placeholder occurrence) (behind : Layout rest cuts tail) :
      Layout (text ++ (occurrence ++ rest)) ((text, placeholder) :: cuts) tail

theorem plain_nil (rest : List Char) : Plain [] rest := by
  intro front back same someBack
  exact absurd (List.append_eq_nil_iff.mp same.symm).2 someBack

theorem plain_cons_iff {character : Char} {text rest : List Char} :
    Plain (character :: text) rest ↔
      ¬ Begins (character :: (text ++ rest)) ∧ Plain text rest := by
  constructor
  · intro plain
    refine ⟨plain [] _ rfl (List.cons_ne_nil _ _), fun front back same => ?_⟩
    exact plain (character :: front) back (by rw [same, List.cons_append])
  · rintro ⟨here, later⟩ front back same someBack
    cases front with
    | nil =>
        obtain rfl : character :: text = back := same
        exact here
    | cons first front =>
        obtain ⟨rfl, rfl⟩ := List.cons.inj same
        exact later front back rfl someBack

/-- The first placeholder in a text, if there is one. -/
theorem exists_first (text : List Char) :
    Plain text [] ∨ ∃ plain occurrence rest placeholder, text = plain ++ (occurrence ++ rest) ∧
      Plain plain (occurrence ++ rest) ∧ SpellsPlaceholder placeholder occurrence := by
  induction text with
  | nil => exact .inl (plain_nil [])
  | cons character text ih =>
      by_cases here : Begins (character :: text)
      · obtain ⟨placeholder, occurrence, rest, same, spelled⟩ := here
        exact .inr ⟨[], occurrence, rest, placeholder, same, plain_nil _, spelled⟩
      · rcases ih with later | ⟨plain, occurrence, rest, placeholder, rfl, later, spelled⟩
        · exact .inl (plain_cons_iff.mpr ⟨by rwa [List.append_nil], later⟩)
        · exact .inr ⟨character :: plain, occurrence, rest, placeholder, rfl,
            plain_cons_iff.mpr ⟨here, later⟩, spelled⟩

theorem SpellsPlaceholder.exists_cons {placeholder : Placeholder} {occurrence : List Char}
    (spelled : SpellsPlaceholder placeholder occurrence) :
    ∃ later, occurrence = '{' :: later := by
  cases spelled
  exact ⟨_, rfl⟩

/-- **Every line has a layout.** -/
theorem exists_layout (line : List Char) : ∃ cuts tail, Layout line cuts tail := by
  induction bound : line.length using Nat.strong_induction_on generalizing line with
  | _ length ih =>
      subst bound
      rcases exists_first line with
        plain | ⟨text, occurrence, rest, placeholder, rfl, plain, spelled⟩
      · exact ⟨[], line, .last plain⟩
      · obtain ⟨later, rfl⟩ := spelled.exists_cons
        have shorter : rest.length < (text ++ ('{' :: later ++ rest)).length := by
          simp only [List.length_append, List.length_cons]
          omega
        obtain ⟨cuts, tail, behind⟩ := ih _ shorter rest rfl
        exact ⟨(text, placeholder) :: cuts, tail, .next plain spelled behind⟩

/-! ## The pieces of a line -/

/-- Characters that stand for themselves. -/
def charactersOf (text : List Char) : List Piece :=
  text.map .character

/-- The pieces that a layout tells of. -/
def piecesOf (cuts : List (List Char × Placeholder)) (tail : List Char) : List Piece :=
  match cuts with
  | [] => charactersOf tail
  | (text, placeholder) :: cuts => charactersOf text ++ .placeholder placeholder :: piecesOf cuts tail

/-- The layout that pieces tell of. -/
def cutsOf : List Piece → List (List Char × Placeholder) × List Char
  | [] => ([], [])
  | .placeholder placeholder :: pieces => (([], placeholder) :: (cutsOf pieces).1, (cutsOf pieces).2)
  | .character character :: pieces =>
    match cutsOf pieces with
    | ([], tail) => ([], character :: tail)
    | ((text, placeholder) :: cuts, tail) => ((character :: text, placeholder) :: cuts, tail)

theorem cutsOf_piecesOf (cuts : List (List Char × Placeholder)) (tail : List Char) :
    cutsOf (piecesOf cuts tail) = (cuts, tail) := by
  induction cuts with
  | nil =>
      induction tail with
      | nil => rfl
      | cons character tail ih =>
          have later : cutsOf (charactersOf tail) = ([], tail) := ih
          simp only [piecesOf, charactersOf, List.map_cons, cutsOf]
          rw [← charactersOf, later]
  | cons cut cuts ih =>
      obtain ⟨text, placeholder⟩ := cut
      induction text with
      | nil => simp only [piecesOf, charactersOf, List.map_nil, List.nil_append, cutsOf, ih]
      | cons character text later =>
          simp only [piecesOf, charactersOf, List.map_cons, List.cons_append, cutsOf] at later ⊢
          rw [later]

theorem piecesBehind_length_append (front back : List Char) :
    piecesBehind front.length (front ++ back) = pieces back := by
  induction front with
  | nil => rfl
  | cons character front ih =>
      rw [List.length_cons, List.cons_append, piecesBehind, ih]

theorem pieces_of_spells {placeholder : Placeholder} {occurrence rest : List Char}
    (spelled : SpellsPlaceholder placeholder occurrence) :
    pieces (occurrence ++ rest) = .placeholder placeholder :: pieces rest := by
  have found := @placeholder?_of_spells _ rest _ spelled
  obtain ⟨later, rfl⟩ := spelled.exists_cons
  have skipped : (later ++ rest).length - rest.length = later.length := by
    rw [List.length_append, Nat.add_sub_cancel]
  rw [List.cons_append] at found ⊢
  simp only [pieces, piecesBehind, found, skipped]
  rw [piecesBehind_length_append, pieces]

theorem pieces_of_plain {text rest : List Char} (plain : Plain text rest) :
    pieces (text ++ rest) = charactersOf text ++ pieces rest := by
  induction text with
  | nil => rfl
  | cons character text ih =>
      obtain ⟨here, later⟩ := plain_cons_iff.mp plain
      rw [List.cons_append, pieces, piecesBehind, placeholder?_eq_none_iff.mpr here, ← pieces,
        ih later]
      rfl

/-- **The pieces of a line** are those that its layout tells of. -/
theorem Layout.pieces_eq {line tail : List Char} {cuts : List (List Char × Placeholder)}
    (layout : Layout line cuts tail) : pieces line = piecesOf cuts tail := by
  induction layout with
  | @last text plain =>
      have only := pieces_of_plain plain
      rw [List.append_nil] at only
      rw [only, piecesOf]
      exact List.append_nil _
  | next plain spelled behind ih =>
      rw [pieces_of_plain plain, pieces_of_spells spelled, ih, piecesOf]

/-- **A line has one layout only.** -/
theorem Layout.unique {line tail other : List Char} {cuts more : List (List Char × Placeholder)}
    (layout : Layout line cuts tail) (second : Layout line more other) :
    (cuts, tail) = (more, other) := by
  rw [← cutsOf_piecesOf cuts tail, ← layout.pieces_eq, second.pieces_eq, cutsOf_piecesOf]

end ResponsesBridge.Settings
