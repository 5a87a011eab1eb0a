import ResponsesBridge.Proofs.Json.NewMembers
import ResponsesBridge.Proofs.Json.Scanning

/-!
# What is read is well formed

The scanner follows the grammar in the other direction too: if it makes of a text a node that can be
passed over, the part of the text that it has read spells this node (`recognizesAt`). Where a text
stops being JSON the node is broken, and a broken node cannot be passed over. So a text from which a
whole value is read is a value by the grammar (`isText_of_readText`), and the texts from which an
object is read are exactly those that spell one with members that can be held
(`readText_fields_eq_ok_iff`).

The recursion of the scanner is bounded by a number, and the induction is on this bound; at bound
zero all nodes are broken.
-/

set_option autoImplicit false

namespace ResponsesBridge.Json

open ResponsesBridge.Text.Utf8 (Glyph)

/-! ## Outcomes of scanners -/

/-- If a tree that is scanned from a text can be passed over, the beginning of the text spells the
tree, and what is behind it is left. -/
def Recognizes {Tree : Type} (skip : Tree → Except Fault Unit) (spells : List Char → Tree → Prop)
    (text : List Char) (outcome : Tree × List Glyph) : Prop :=
  skip outcome.1 = .ok () →
    ∃ body rest, text = body ++ rest ∧ outcome.2 = rest.map some ∧ spells body outcome.1

namespace Recognizes

variable {Tree : Type} {skip : Tree → Except Fault Unit} {spells : List Char → Tree → Prop}

/-- Nothing has to be shown of a broken tree. -/
theorem of_broken {text : List Char} {outcome : Tree × List Glyph} {fault : Fault}
    (broken : skip outcome.1 = .error fault) : Recognizes skip spells text outcome := by
  intro complete
  rw [broken] at complete
  cases complete

/-- A scanner that passes over blanks recognizes what it recognizes without them. -/
theorem of_visible {scan : List Glyph → Tree × List Glyph}
    (passes : ∀ {character : Char}, isSpace (some character) = true →
      ∀ text, scan (some character :: text) = scan text)
    (blank : ∀ {character : Char} {body : List Char} {tree : Tree},
      isSpace (some character) = true → spells body tree → spells (character :: body) tree)
    (nil : Recognizes skip spells [] (scan []))
    (visible : ∀ {character : Char}, isSpace (some character) = false → ∀ text : List Char,
      Recognizes skip spells (character :: text) (scan (some character :: text.map some)))
    (text : List Char) : Recognizes skip spells text (scan (text.map some)) := by
  induction text with
  | nil => exact nil
  | cons character text ih =>
      cases isBlank : isSpace (some character) with
      | false => exact visible isBlank text
      | true =>
          rw [List.map_cons, passes isBlank]
          intro complete
          obtain ⟨body, rest, rfl, left, spelled⟩ := ih complete
          exact ⟨character :: body, rest, rfl, left, blank isBlank spelled⟩

end Recognizes

/-! ## Words and quotations -/

theorem split_of_afterWord {word text : List Char} {rest : List Glyph}
    (passed : afterWord word (text.map some) = .ok rest) :
    ∃ behind, text = word ++ behind ∧ rest = behind.map some := by
  induction word generalizing text with
  | nil => exact ⟨text, rfl, (Except.ok.inj passed).symm⟩
  | cons expected word ih =>
      cases text with
      | nil => cases passed
      | cons character text =>
          simp only [List.map_cons, afterWord, Option.some.injEq] at passed
          split at passed
          · rename_i same
            obtain ⟨behind, rfl, left⟩ := ih passed
            exact ⟨behind, by rw [same, List.cons_append], left⟩
          · cases passed

theorem recognizes_scanWord {depth : Nat} {first : Char} {word : List Char} {node : Node}
    (spelled : Spells depth (first :: word) node) (start : Start) (text : List Char) :
    Recognizes Node.skip (Spells depth) (first :: text)
      (scanWord start node word (text.map some)) := by
  cases passed : afterWord word (text.map some) with
  | error fault =>
      apply Recognizes.of_broken
      simp only [scanWord, passed]
      rfl
  | ok rest =>
      obtain ⟨behind, rfl, left⟩ := split_of_afterWord passed
      intro _
      simp only [scanWord, passed]
      exact ⟨first :: word, behind, rfl, left, spelled⟩

/-- What is passed over as a quotation is one. -/
theorem split_of_skipQuotation {text : List Char} {rest : List Glyph}
    (passed : skipQuotation (text.map some) = .ok rest) :
    ∃ body behind, text = body ++ behind ∧ rest = behind.map some ∧ SpellsQuotation body := by
  generalize same : text.map some = glyphs at passed
  fun_induction skipQuotation glyphs generalizing text with
  | case2 rest =>
      obtain ⟨quote, behind, rfl, isQuote, rfl⟩ := List.map_eq_cons_iff.mp same
      cases isQuote
      exact ⟨['"'], behind, rfl, (Except.ok.inj passed).symm, .closed⟩
  | case4 first second third fourth rest unit known ih =>
      obtain ⟨backslash, afterBackslash, rfl, isBackslash, sameUnit⟩ :=
        List.map_eq_cons_iff.mp same
      obtain ⟨letter, afterUnit, rfl, isUnit, sameFirst⟩ := List.map_eq_cons_iff.mp sameUnit
      obtain ⟨first, afterFirst, rfl, rfl, sameSecond⟩ := List.map_eq_cons_iff.mp sameFirst
      obtain ⟨second, afterSecond, rfl, rfl, sameThird⟩ := List.map_eq_cons_iff.mp sameSecond
      obtain ⟨third, afterThird, rfl, rfl, sameFourth⟩ := List.map_eq_cons_iff.mp sameThird
      obtain ⟨fourth, later, rfl, rfl, sameLater⟩ := List.map_eq_cons_iff.mp sameFourth
      cases isBackslash
      cases isUnit
      obtain ⟨body, behind, rfl, left, spelled⟩ := ih sameLater passed
      exact ⟨'\\' :: 'u' :: first :: second :: third :: fourth :: body, behind, rfl, left,
        .unit (known ▸ Option.some_ne_none _) spelled⟩
  | case6 letter rest _ _ character known ih =>
      obtain ⟨backslash, inside, rfl, isBackslash, sameInside⟩ := List.map_eq_cons_iff.mp same
      obtain ⟨letter, later, rfl, rfl, sameLater⟩ := List.map_eq_cons_iff.mp sameInside
      cases isBackslash
      obtain ⟨body, behind, rfl, left, spelled⟩ := ih sameLater passed
      exact ⟨'\\' :: letter :: body, behind, rfl, left,
        .letter (known ▸ Option.some_ne_none _) spelled⟩
  | case10 character rest notQuote _ _ notEscape notLast visible ih =>
      obtain ⟨character, later, rfl, isCharacter, sameLater⟩ := List.map_eq_cons_iff.mp same
      cases isCharacter
      have notBackslash : character ≠ '\\' := by
        intro isBackslash
        cases rest with
        | nil => exact notLast rfl isBackslash
        | cons letter rest => exact notEscape letter rest rfl isBackslash
      have isVisible : ¬ character.toNat < 0x20 := by simpa [isControl] using visible
      obtain ⟨body, behind, rfl, left, spelled⟩ := ih sameLater passed
      exact ⟨character :: body, behind, rfl, left,
        .plain (fun isQuote => notQuote isQuote) notBackslash isVisible spelled⟩
  | case11 rest ih =>
      -- All glyphs of the text are characters.
      obtain ⟨character, later, -, isCharacter, -⟩ := List.map_eq_cons_iff.mp same
      cases isCharacter
  | case1 | case3 | case5 | case7 | case8 | case9 => cases passed

theorem recognizes_scanQuotation (depth : Nat) (text : List Char) :
    Recognizes Node.skip (Spells depth) ('"' :: text) (scanQuotation (text.map some)) := by
  cases passed : skipQuotation (text.map some) with
  | error fault =>
      cases content : quotationContent (text.map some) <;>
        · apply Recognizes.of_broken
          simp only [scanQuotation, content, passed]
          rfl
  | ok rest =>
      obtain ⟨body, behind, rfl, left, spelled⟩ := split_of_skipQuotation passed
      intro _
      simp only [scanQuotation, passed]
      rw [List.map_append, quotationContent_of_spells spelled]
      exact ⟨'"' :: body, behind, rfl, left, .quotation depth spelled⟩

/-! ## Numbers -/

theorem isDigit_of_digit? {character : Char} {value : Nat}
    (digit : digit? (some character) = some value) :
    character.isDigit = true ∧ value = character.toNat - '0'.toNat := by
  simp only [digit?] at digit
  split at digit
  · rename_i between
    refine ⟨?_, (Option.some.inj digit).symm⟩
    simp only [Char.isDigit, Bool.and_eq_true, decide_eq_true_eq]
    exact between
  · cases digit

/-- The digits at the beginning of a text. -/
theorem exists_leadingDigits (text : List Char) :
    ∃ digits behind, text = digits ++ behind ∧ (∀ digit ∈ digits, digit.isDigit = true) ∧
      leadingDigits (text.map some) = (valuesOf digits, behind.map some) := by
  induction text with
  | nil => exact ⟨[], [], rfl, List.forall_mem_nil _, rfl⟩
  | cons character text ih =>
      cases isDigit : digit? (some character) with
      | none =>
          refine ⟨[], character :: text, rfl, List.forall_mem_nil _, ?_⟩
          simp only [List.map_cons, leadingDigits, isDigit]
          rfl
      | some value =>
          obtain ⟨digits, behind, rfl, areDigits, scanned⟩ := ih
          obtain ⟨digit, rfl⟩ := isDigit_of_digit? isDigit
          refine ⟨character :: digits, behind, rfl, List.forall_mem_cons.mpr ⟨digit, areDigits⟩, ?_⟩
          simp only [List.map_cons, leadingDigits, isDigit, scanned]
          rfl

/-- The digits that a scanner wants, and finds unless the number is broken. -/
theorem exists_digits (text : List Char) :
    (∃ rest, leadingDigits (text.map some) = ([], rest)) ∨
      ∃ digits behind value values, text = digits ++ behind ∧ AreDigits digits ∧
        valuesOf digits = value :: values ∧
        leadingDigits (text.map some) = (value :: values, behind.map some) := by
  obtain ⟨digits, behind, same, areDigits, scanned⟩ := exists_leadingDigits text
  cases digits with
  | nil => exact .inl ⟨_, scanned⟩
  | cons digit digits =>
      exact .inr ⟨_, behind, _, _, same, ⟨List.cons_ne_nil _ _, areDigits⟩, rfl, scanned⟩

/-- A power of ten is its digits behind a sign, or behind none. -/
theorem exists_sign (text : List Char) :
    ∃ sign later negative, text = sign ++ later ∧
      (∀ {letter : Char} {digits : List Char}, letter = 'e' ∨ letter = 'E' → AreDigits digits →
        SpellsPower (letter :: (sign ++ digits)) (some (if negative = true
          then -(ofDigits (valuesOf digits) : Int) else ofDigits (valuesOf digits)))) ∧
      ∀ numeral, scanPower numeral (text.map some) = match leadingDigits (later.map some) with
        | ([], rest) => brokenNumber rest
        | (values, rest) =>
          (.number { numeral with power := some (if negative = true
            then -(ofDigits values : Int) else ofDigits values) }.number?, rest) := by
  cases text with
  | nil => exact ⟨[], [], false, rfl, fun isLetter => .unsigned isLetter, fun _ => rfl⟩
  | cons first later =>
      by_cases isPlus : first = '+'
      · subst isPlus
        exact ⟨['+'], later, false, rfl, fun isLetter => .plus isLetter, fun _ => rfl⟩
      by_cases isMinus : first = '-'
      · subst isMinus
        exact ⟨['-'], later, true, rfl, fun isLetter => .minus isLetter, fun _ => rfl⟩
      refine ⟨[], first :: later, false, rfl, fun isLetter => .unsigned isLetter, fun numeral => ?_⟩
      rw [List.map_cons]
      cases found : leadingDigits (some first :: later.map some) with
      | mk values rest => cases values <;> simp [scanPower, isPlus, isMinus, found]

section Numbers

variable {numeral : Numeral} {text : List Char}

/-- What is scanned as the power of ten has digits behind its sign. -/
theorem split_of_scanPower {letter : Char} (isLetter : letter = 'e' ∨ letter = 'E')
    (complete : (scanPower numeral (text.map some)).1.skip = .ok ()) :
    ∃ body behind power, text = body ++ behind ∧ SpellsPower (letter :: body) (some power) ∧
      scanPower numeral (text.map some) =
        (.number { numeral with power := some power }.number?, behind.map some) := by
  obtain ⟨sign, later, negative, rfl, spelled, scanned⟩ := exists_sign text
  rw [scanned] at complete ⊢
  obtain ⟨rest, noDigits⟩ | ⟨digits, behind, value, values, rfl, areDigits, same, found⟩ :=
    exists_digits later
  · rw [noDigits] at complete
    cases complete
  · refine ⟨sign ++ digits, behind, _, (List.append_assoc ..).symm, spelled isLetter areDigits, ?_⟩
    rw [found, same]

theorem split_of_scanAfterDigits (noPower : numeral.power = none)
    (complete : (scanAfterDigits numeral (text.map some)).1.skip = .ok ()) :
    ∃ body behind power, text = body ++ behind ∧ SpellsPower body power ∧
      scanAfterDigits numeral (text.map some) =
        (.number { numeral with power }.number?, behind.map some) := by
  generalize same : text.map some = glyphs at complete ⊢
  unfold scanAfterDigits at complete ⊢
  split at complete
  case h_1 rest =>
    obtain ⟨letter, later, rfl, isLetter, rfl⟩ := List.map_eq_cons_iff.mp same
    cases isLetter
    obtain ⟨body, behind, power, rfl, spelled, scanned⟩ := split_of_scanPower (.inl rfl) complete
    exact ⟨_, behind, _, rfl, spelled, scanned⟩
  case h_2 rest =>
    obtain ⟨letter, later, rfl, isLetter, rfl⟩ := List.map_eq_cons_iff.mp same
    cases isLetter
    obtain ⟨body, behind, power, rfl, spelled, scanned⟩ := split_of_scanPower (.inr rfl) complete
    exact ⟨_, behind, _, rfl, spelled, scanned⟩
  case h_3 =>
    subst same
    refine ⟨[], text, none, rfl, .absent, ?_⟩
    rw [← noPower]

theorem split_of_scanAfterWhole (noFraction : numeral.fraction = none)
    (noPower : numeral.power = none)
    (complete : (scanAfterWhole numeral (text.map some)).1.skip = .ok ()) :
    ∃ fractionText powerText behind fraction power, text = fractionText ++ (powerText ++ behind) ∧
      SpellsFraction fractionText fraction ∧ SpellsPower powerText power ∧
      scanAfterWhole numeral (text.map some) =
        (.number { numeral with fraction, power }.number?, behind.map some) := by
  generalize same : text.map some = glyphs at complete ⊢
  unfold scanAfterWhole at complete ⊢
  split at complete
  case h_1 rest =>
    obtain ⟨point, later, rfl, isPoint, rfl⟩ := List.map_eq_cons_iff.mp same
    cases isPoint
    obtain ⟨rest, noDigits⟩ | ⟨digits, behind, value, values, rfl, areDigits, isValue, found⟩ :=
      exists_digits later
    · rw [noDigits] at complete
      cases complete
    · rw [found] at complete ⊢
      obtain ⟨powerText, behind, power, rfl, spelled, scanned⟩ :=
        @split_of_scanAfterDigits { numeral with fraction := some (value :: values) } behind
          noPower complete
      exact ⟨'.' :: digits, powerText, behind, some (value :: values), power, rfl,
        isValue ▸ .present areDigits, spelled, scanned⟩
  case h_2 =>
    subst same
    obtain ⟨powerText, behind, power, rfl, spelled, scanned⟩ :=
      split_of_scanAfterDigits noPower complete
    refine ⟨[], powerText, behind, none, power, rfl, .absent, spelled, ?_⟩
    rw [scanned, ← noFraction]

theorem split_of_scanNumber {negative : Bool}
    (complete : (scanNumber negative (text.map some)).1.skip = .ok ()) :
    ∃ digits fractionText powerText behind fraction power,
      text = (digits ++ (fractionText ++ powerText)) ++ behind ∧ SpellsWhole digits ∧
      SpellsFraction fractionText fraction ∧ SpellsPower powerText power ∧
      scanNumber negative (text.map some) =
        (.number (Numeral.number? ⟨negative, valuesOf digits, fraction, power⟩),
          behind.map some) := by
  obtain ⟨rest, noDigits⟩ | ⟨digits, behind, value, values, rfl, areDigits, isValue, found⟩ :=
    exists_digits text
  · rw [scanNumber, noDigits] at complete
    cases complete
  · have single : digits.head? = some '0' → digits = ['0'] := by
      intro isZero
      obtain ⟨later, rfl⟩ := List.head?_eq_some_iff.mp isZero
      obtain ⟨rfl, rfl⟩ := List.cons.inj isValue
      cases later with
      | nil => rfl
      | cons second later =>
          rw [scanNumber, found] at complete
          cases complete
    have wholeOnly : scanNumber negative ((digits ++ behind).map some) =
        scanAfterWhole ⟨negative, value :: values, none, none⟩ (behind.map some) := by
      rw [scanNumber, found]
      split
      case h_1 nothing => cases nothing
      case h_2 several =>
        cases several
        rw [scanNumber, found] at complete
        cases complete
      case h_3 one => cases one; rfl
    rw [wholeOnly] at complete ⊢
    obtain ⟨fractionText, powerText, behind, fraction, power, rfl, hasFraction, hasPower, scanned⟩ :=
      split_of_scanAfterWhole rfl rfl complete
    refine ⟨digits, fractionText, powerText, behind, fraction, power, by simp, ⟨areDigits, single⟩,
      hasFraction, hasPower, ?_⟩
    rw [scanned, isValue]

end Numbers

theorem recognizes_scanNumber (depth : Nat) (text : List Char) :
    Recognizes Node.skip (Spells depth) text (scanNumber false (text.map some)) := by
  intro complete
  obtain ⟨digits, fractionText, powerText, behind, fraction, power, rfl, whole, hasFraction,
    hasPower, scanned⟩ := split_of_scanNumber complete
  rw [scanned]
  exact ⟨_, behind, rfl, rfl, .number depth (.positive whole hasFraction hasPower)⟩

theorem recognizes_scanNumber_minus (depth : Nat) (text : List Char) :
    Recognizes Node.skip (Spells depth) ('-' :: text) (scanNumber true (text.map some)) := by
  intro complete
  obtain ⟨digits, fractionText, powerText, behind, fraction, power, rfl, whole, hasFraction,
    hasPower, scanned⟩ := split_of_scanNumber complete
  rw [scanned]
  exact ⟨_, behind, rfl, rfl, .number depth (.negative whole hasFraction hasPower)⟩

/-! ## Values -/

/-- The blanks at the beginning of a text. -/
theorem exists_blanks (text : List Char) :
    ∃ blanks behind, text = blanks ++ behind ∧ AreBlanks blanks ∧
      skipSpace (text.map some) = behind.map some := by
  refine ⟨text.takeWhile (isSpace ∘ some), text.dropWhile (isSpace ∘ some),
    List.takeWhile_append_dropWhile.symm, ?_, ?_⟩
  · intro character member
    exact (List.mem_takeWhile_imp member : (isSpace ∘ some) character = true)
  · simp only [skipSpace, List.dropWhile_map, Function.comp_def]

theorem SpellsMember.blanks {depth : Nat} {blanks text : List Char} {members : Members}
    (areBlanks : AreBlanks blanks) (spelled : SpellsMember depth text members) :
    SpellsMember depth (blanks ++ text) members := by
  induction blanks with
  | nil => exact spelled
  | cons character blanks ih =>
      obtain ⟨first, later⟩ := List.forall_mem_cons.mp areBlanks
      exact .blank first (ih later)

/-- What the scanners recognize if they look no deeper than a bound. -/
structure RecognizesAt (bound : Nat) : Prop where
  value (depth : Nat) (text : List Char) :
    Recognizes Node.skip (Spells depth) text (scanValue bound depth (text.map some))
  items (depth : Nat) (text : List Char) :
    Recognizes Items.skip (SpellsItems depth) text (scanItems bound depth (text.map some))
  moreItems (depth : Nat) (text : List Char) :
    Recognizes Items.skip (SpellsMoreItems depth) text (scanMoreItems bound depth (text.map some))
  members (depth : Nat) (text : List Char) :
    Recognizes Members.skip (SpellsMembers depth) text (scanMembers bound depth (text.map some))
  moreMembers (depth : Nat) (text : List Char) :
    Recognizes Members.skip (SpellsMoreMembers depth) text
      (scanMoreMembers bound depth (text.map some))
  member (depth : Nat) (text : List Char) :
    Recognizes Members.skip (fun body => SpellsMember depth ('"' :: body)) text
      (scanMember bound depth (text.map some))

namespace RecognizesAt

variable {bound : Nat}

/-- A value and the items or members behind it. -/
theorem behindValue (known : RecognizesAt bound) {Tree : Type} {skip : Tree → Except Fault Unit}
    {spells : List Char → Tree → Prop} {scanMore : List Glyph → Tree × List Glyph}
    (knownMore : ∀ text : List Char, Recognizes skip spells text (scanMore (text.map some)))
    (depth : Nat) (text : List Char)
    (complete : (scanValue bound depth (text.map some)).1.skip = .ok () ∧
      skip (scanMore (scanValue bound depth (text.map some)).2).1 = .ok ()) :
    ∃ here later rest, text = here ++ (later ++ rest) ∧
      Spells depth here (scanValue bound depth (text.map some)).1 ∧
      spells later (scanMore (scanValue bound depth (text.map some)).2).1 ∧
      (scanMore (scanValue bound depth (text.map some)).2).2 = rest.map some := by
  obtain ⟨valueComplete, moreComplete⟩ := complete
  obtain ⟨here, behind, rfl, left, spelled⟩ := known.value depth text valueComplete
  rw [left] at moreComplete ⊢
  obtain ⟨later, rest, rfl, noMore, spelledMore⟩ := knownMore behind moreComplete
  exact ⟨here, later, rest, rfl, spelled, spelledMore, noMore⟩

theorem value_succ (known : RecognizesAt bound) (depth : Nat) (text : List Char) :
    Recognizes Node.skip (Spells depth) text (scanValue (bound + 1) depth (text.map some)) := by
  refine Recognizes.of_visible (fun blank => scanValue_blank blank _ _) .blank
    (.of_broken rfl) (fun {character} visible text => ?_) text
  unfold scanValue
  rw [skipSpace_of_not_isSpace visible]
  split
  case h_1 nothing => cases nothing
  case h_2 same => cases same; exact recognizes_scanWord (.null depth) .nullWord text
  case h_3 same => cases same; exact recognizes_scanWord (.yes depth) .word text
  case h_4 same => cases same; exact recognizes_scanWord (.no depth) .word text
  case h_5 same => cases same; exact recognizes_scanQuotation depth text
  case h_6 same =>
    cases same
    intro complete
    rw [skip_arrayAt] at complete
    obtain ⟨body, rest, rfl, left, spelled⟩ := known.items (depth + 1) text complete
    exact ⟨'[' :: body, rest, rfl, left, .array spelled⟩
  case h_7 same =>
    cases same
    intro complete
    rw [skip_objectAt] at complete
    obtain ⟨body, rest, rfl, left, spelled⟩ := known.members (depth + 1) text complete
    exact ⟨'{' :: body, rest, rfl, left, .object spelled⟩
  case h_8 same => cases same; exact recognizes_scanNumber_minus depth text
  case h_9 same =>
    cases same
    split
    · exact recognizes_scanNumber depth (character :: text)
    · exact .of_broken rfl

theorem items_succ (known : RecognizesAt bound) (depth : Nat) (text : List Char) :
    Recognizes Items.skip (SpellsItems depth) text
      (scanItems (bound + 1) depth (text.map some)) := by
  refine Recognizes.of_visible (fun blank => scanItems_blank blank _ _) .blank
    (.of_broken rfl) (fun {character} visible text => ?_) text
  unfold scanItems
  rw [skipSpace_of_not_isSpace visible]
  split
  case h_1 nothing => cases nothing
  case h_2 same =>
    cases same
    intro _
    exact ⟨[']'], text, rfl, rfl, .finished depth⟩
  case h_3 =>
    intro complete
    obtain ⟨here, later, rest, same, spelled, spelledMore, left⟩ :=
      known.behindValue (known.moreItems depth) depth (character :: text)
        (Items.skip_next_iff.mp complete)
    exact ⟨here ++ later, rest, by rw [same, List.append_assoc], left, .next spelled spelledMore⟩

theorem moreItems_succ (known : RecognizesAt bound) (depth : Nat) (text : List Char) :
    Recognizes Items.skip (SpellsMoreItems depth) text
      (scanMoreItems (bound + 1) depth (text.map some)) := by
  refine Recognizes.of_visible (fun blank => scanMoreItems_blank blank _ _) .blank
    (.of_broken rfl) (fun {character} visible text => ?_) text
  unfold scanMoreItems
  rw [skipSpace_of_not_isSpace visible]
  split
  case h_1 nothing => cases nothing
  case h_2 same =>
    cases same
    intro _
    exact ⟨[']'], text, rfl, rfl, .finished depth⟩
  case h_3 same =>
    cases same
    intro complete
    obtain ⟨here, later, rest, rfl, spelled, spelledMore, left⟩ :=
      known.behindValue (known.moreItems depth) depth text (Items.skip_next_iff.mp complete)
    exact ⟨',' :: (here ++ later), rest, by simp, left, .next spelled spelledMore⟩
  case h_4 => exact .of_broken rfl

theorem members_succ (known : RecognizesAt bound) (depth : Nat) (text : List Char) :
    Recognizes Members.skip (SpellsMembers depth) text
      (scanMembers (bound + 1) depth (text.map some)) := by
  refine Recognizes.of_visible (fun blank => scanMembers_blank blank _ _) .blank
    (.of_broken rfl) (fun {character} visible text => ?_) text
  unfold scanMembers
  rw [skipSpace_of_not_isSpace visible]
  split
  case h_1 nothing => cases nothing
  case h_2 same =>
    cases same
    intro _
    exact ⟨['}'], text, rfl, rfl, .finished depth⟩
  case h_3 same =>
    cases same
    intro complete
    obtain ⟨body, rest, rfl, left, spelled⟩ := known.member depth text complete
    exact ⟨'"' :: body, rest, rfl, left, .next spelled⟩
  case h_4 => exact .of_broken rfl

theorem moreMembers_succ (known : RecognizesAt bound) (depth : Nat) (text : List Char) :
    Recognizes Members.skip (SpellsMoreMembers depth) text
      (scanMoreMembers (bound + 1) depth (text.map some)) := by
  refine Recognizes.of_visible (fun blank => scanMoreMembers_blank blank _ _) .blank
    (.of_broken rfl) (fun {character} visible text => ?_) text
  unfold scanMoreMembers
  rw [skipSpace_of_not_isSpace visible]
  split
  case h_1 nothing => cases nothing
  case h_2 same =>
    cases same
    intro _
    exact ⟨['}'], text, rfl, rfl, .finished depth⟩
  case h_3 same =>
    cases same
    obtain ⟨blanks, behind, rfl, areBlanks, skipped⟩ := exists_blanks text
    rw [skipped]
    split
    case h_1 => exact .of_broken rfl
    case h_2 isQuote =>
      obtain ⟨quote, behind, rfl, isMark, rfl⟩ := List.map_eq_cons_iff.mp isQuote
      cases isMark
      intro complete
      obtain ⟨body, rest, rfl, left, spelled⟩ := known.member depth behind complete
      exact ⟨',' :: (blanks ++ '"' :: body), rest, by simp, left, .next (spelled.blanks areBlanks)⟩
    case h_3 => exact .of_broken rfl
  case h_4 => exact .of_broken rfl

theorem member_succ (known : RecognizesAt bound) (depth : Nat) (text : List Char) :
    Recognizes Members.skip (fun body => SpellsMember depth ('"' :: body)) text
      (scanMember (bound + 1) depth (text.map some)) := by
  unfold scanMember
  dsimp only
  split
  case h_1 => exact .of_broken rfl
  case h_2 passed =>
    obtain ⟨name, behindName, rfl, rfl, named⟩ := split_of_skipQuotation passed
    obtain ⟨between, behind, rfl, areBlanks, skipped⟩ := exists_blanks behindName
    have content := quotationContent_of_spells named ((between ++ behind).map some)
    rw [← List.map_append] at content
    rw [skipped, content]
    split
    case h_1 => exact .of_broken rfl
    case h_2 isColon =>
      obtain ⟨colon, behind, rfl, isMark, rfl⟩ := List.map_eq_cons_iff.mp isColon
      cases isMark
      intro complete
      obtain ⟨here, later, rest, rfl, spelled, spelledMore, left⟩ :=
        known.behindValue (known.moreMembers depth) depth behind
          (Members.skip_next_iff.mp complete)
      refine ⟨name ++ (between ++ ':' :: (here ++ later)), rest, by simp, left, ?_⟩
      exact .next named areBlanks spelled spelledMore
    case h_3 => exact .of_broken rfl

end RecognizesAt

/-- **The scanners recognize what they scan.** -/
theorem recognizesAt (bound : Nat) : RecognizesAt bound := by
  induction bound with
  | zero =>
      constructor
      all_goals
        intro depth text
        exact .of_broken rfl
  | succ bound known =>
      exact ⟨known.value_succ, known.items_succ, known.moreItems_succ, known.members_succ,
        known.moreMembers_succ, known.member_succ⟩

/-! ## Texts -/

/-- A text from which a whole value is read is a value by the grammar, whatever the reader is, if
the value can be passed over. -/
theorem isText_of_readText {α : Type} {read : Node → Except Fault α} {text : String} {result : α}
    (reads : readText read text = .ok result) (complete : (treeOf text).skip = .ok ()) :
    IsText text.toList (treeOf text) := by
  obtain ⟨body, rest, same, left, spelled⟩ := (recognizesAt _).value 0 text.toList complete
  refine ⟨body, rest, same, spelled, fun character member => ?_⟩
  have blank : skipSpace (rest.map some) = [] := by
    simp only [readText, readGlyphs] at reads
    split at reads
    · cases reads
    · split at reads
      · rename_i nothingLeft
        rw [← left]
        exact nothingLeft
      · cases reads
  exact List.dropWhile_eq_nil_iff.mp blank _ (List.mem_map_of_mem member)

/-- **The texts from which an object is read** are those that spell one with members that can be
held. -/
theorem readText_fields_eq_ok_iff {text : String} {fields : Fields} :
    readText Codec.fields.read text = .ok fields ↔
      ∃ members named, IsText text.toList (.object members) ∧ members.fields = .ok named ∧
        fields = settle named := by
  constructor
  · intro reads
    have fromTree := read_treeOf reads
    cases isObject : treeOf text with
    | object members =>
        rw [isObject] at fromTree
        obtain ⟨named, isNamed, settled⟩ := bind_eq_ok_iff.mp fromTree
        have isText := isText_of_readText reads (isObject ▸ Members.skip_of_fields isNamed)
        exact ⟨members, named, isObject ▸ isText, isNamed, (Except.ok.inj settled).symm⟩
    | _ =>
        rw [isObject] at fromTree
        cases fromTree
  · rintro ⟨members, named, isText, isNamed, rfl⟩
    rw [readText_of_isText isText]
    exact bind_eq_ok_iff.mpr ⟨named, isNamed, rfl⟩

end ResponsesBridge.Json
