import Mathlib.Data.List.DropRight
import ResponsesBridge.Proofs.Json.Grammar

/-!
# The scanner follows the grammar

A text that spells a node is scanned as that node, whatever stands behind it, and nothing of that is
touched (`scanValue_of_spells`). So a reader makes of a well-formed text what it makes of the node
(`readText_of_isText`). What follows a number must not go on as one (`EndsNumber`); behind
everything else any text may stand.

The recursion of the scanner is bounded by a number, and the length of the text is enough: a step
that does not read a character is followed by one that does.
-/

set_option autoImplicit false

namespace ResponsesBridge.Json

open ResponsesBridge.Text.Utf8 (Glyph)

/-! ## Numbers -/

/-- A text does not go on as a number: it begins with no digit, no point and no exponent. -/
def EndsNumber (rest : List Glyph) : Prop :=
  ∀ glyph ∈ rest.head?, digit? glyph = none ∧ glyph ∉ [some '.', some 'e', some 'E']

theorem digit?_of_isDigit {character : Char} (digit : character.isDigit = true) :
    digit? (some character) = some (character.toNat - '0'.toNat) := by
  simp only [Char.isDigit, Bool.and_eq_true, decide_eq_true_eq] at digit
  exact if_pos digit

theorem leadingDigits_append {digits : List Char}
    (allDigits : ∀ digit ∈ digits, digit.isDigit = true) {rest : List Glyph}
    (ends : ∀ glyph ∈ rest.head?, digit? glyph = none) :
    leadingDigits (digits.map some ++ rest) = (valuesOf digits, rest) := by
  induction digits with
  | nil =>
      cases rest with
      | nil => rfl
      | cons glyph rest => simp [leadingDigits, ends glyph rfl, valuesOf]
  | cons digit digits ih =>
      have first := digit?_of_isDigit (allDigits digit (List.mem_cons_self ..))
      have later := ih fun other member => allDigits other (List.mem_cons_of_mem _ member)
      simp only [List.map_cons, List.cons_append, leadingDigits, first, later, valuesOf]

theorem scanAfterDigits_of_ends (numeral : Numeral) {rest : List Glyph} (ends : EndsNumber rest) :
    scanAfterDigits numeral rest = (.number numeral.number?, rest) := by
  cases rest with
  | nil => rfl
  | cons glyph rest =>
      have other := (ends glyph rfl).2
      simp only [List.mem_cons, List.not_mem_nil, or_false, not_or] at other
      obtain ⟨-, noLower, noUpper⟩ := other
      rw [scanAfterDigits]
      all_goals simp [noLower, noUpper]

/-- Without a point the digits before it are the last but for an exponent. -/
theorem scanAfterWhole_of_noPoint (numeral : Numeral) {rest : List Glyph}
    (noPoint : rest.head? ≠ some (some '.')) :
    scanAfterWhole numeral rest = scanAfterDigits numeral rest := by
  rw [scanAfterWhole]
  rintro behind rfl
  exact noPoint rfl

theorem EndsNumber.noPoint {rest : List Glyph} (ends : EndsNumber rest) :
    rest.head? ≠ some (some '.') := by
  intro first
  exact (ends _ first).2 (List.mem_cons_self ..)

theorem endsNumber_nil : EndsNumber [] := fun _ member => nomatch member

theorem endsNumber_cons {glyph : Glyph} {rest : List Glyph}
    (ends : digit? glyph = none ∧ glyph ∉ [some '.', some 'e', some 'E']) :
    EndsNumber (glyph :: rest) := by
  intro first member
  obtain rfl : glyph = first := Option.some.inj member
  exact ends

namespace AreDigits

variable {digits : List Char}

theorem exists_cons (areDigits : AreDigits digits) :
    ∃ first later, digits = first :: later ∧ first.isDigit = true := by
  obtain ⟨first, later, rfl⟩ := List.exists_cons_of_ne_nil areDigits.1
  exact ⟨first, later, rfl, areDigits.2 first (List.mem_cons_self ..)⟩

theorem leadingDigits (areDigits : AreDigits digits) {rest : List Glyph}
    (ends : ∀ glyph ∈ rest.head?, digit? glyph = none) :
    ∃ value values, valuesOf digits = value :: values ∧
      Json.leadingDigits (digits.map some ++ rest) = (value :: values, rest) := by
  obtain ⟨first, later, rfl, -⟩ := areDigits.exists_cons
  exact ⟨_, _, rfl, leadingDigits_append areDigits.2 ends⟩

end AreDigits

/-- Behind a zero in front there are no digits. -/
theorem SpellsWhole.single {digits : List Char} (whole : SpellsWhole digits) {values : List Nat}
    (same : valuesOf digits = 0 :: values) : values = [] := by
  obtain ⟨first, later, rfl, digit⟩ := whole.1.exists_cons
  obtain ⟨zero, rfl⟩ := List.cons.inj same
  simp only [Char.isDigit, Bool.and_eq_true, decide_eq_true_eq] at digit
  have zero : first.toNat - '0'.toNat = 0 := zero
  have low : '0'.toNat ≤ first.toNat := digit.1
  have isZero : first = '0' := Char.toNat_inj.mp (by omega)
  rw [(List.cons.inj (whole.2 (congrArg some isZero))).2, List.map_nil]

theorem EndsNumber.noDigit {rest : List Glyph} (ends : EndsNumber rest) :
    ∀ glyph ∈ rest.head?, digit? glyph = none :=
  fun glyph first => (ends glyph first).1

section Numbers

variable {rest : List Glyph} (numeral : Numeral)

theorem scanPower_plus {digits : List Char} (areDigits : AreDigits digits)
    (ends : EndsNumber rest) :
    scanPower numeral (some '+' :: (digits.map some ++ rest)) =
      (.number { numeral with power := some (ofDigits (valuesOf digits)) }.number?, rest) := by
  obtain ⟨value, values, same, scanned⟩ := areDigits.leadingDigits ends.noDigit
  simp only [scanPower, scanned, same, Bool.false_eq_true, if_false]

theorem scanPower_minus {digits : List Char} (areDigits : AreDigits digits)
    (ends : EndsNumber rest) :
    scanPower numeral (some '-' :: (digits.map some ++ rest)) =
      (.number { numeral with power := some (-(ofDigits (valuesOf digits) : Int)) }.number?,
        rest) := by
  obtain ⟨value, values, same, scanned⟩ := areDigits.leadingDigits ends.noDigit
  simp only [scanPower, scanned, same, if_true]

theorem scanPower_digits {digits : List Char} (areDigits : AreDigits digits)
    (ends : EndsNumber rest) :
    scanPower numeral (digits.map some ++ rest) =
      (.number { numeral with power := some (ofDigits (valuesOf digits)) }.number?, rest) := by
  rw [← scanPower_plus numeral areDigits ends]
  obtain ⟨first, later, rfl, digit⟩ := areDigits.exists_cons
  have notPlus : first ≠ '+' := by rintro rfl; revert digit; decide
  have notMinus : first ≠ '-' := by rintro rfl; revert digit; decide
  simp [scanPower, notPlus, notMinus]

theorem scanAfterDigits_of_spells {text : List Char} {power : Option Int}
    (spelled : SpellsPower text power) (ends : EndsNumber rest) (none : numeral.power = none) :
    scanAfterDigits numeral (text.map some ++ rest) =
      (.number { numeral with power }.number?, rest) := by
  cases spelled with
  | absent =>
      obtain ⟨negative, whole, fraction, power⟩ := numeral
      obtain rfl : power = .none := none
      exact scanAfterDigits_of_ends _ ends
  | unsigned isLetter areDigits =>
      obtain rfl | rfl := isLetter
      all_goals exact scanPower_digits numeral areDigits ends
  | plus isLetter areDigits =>
      obtain rfl | rfl := isLetter
      all_goals exact scanPower_plus numeral areDigits ends
  | minus isLetter areDigits =>
      obtain rfl | rfl := isLetter
      all_goals exact scanPower_minus numeral areDigits ends

/-- Neither a power nor what ends a number begins with a digit or a point. -/
theorem SpellsPower.head {text : List Char} {power : Option Int} (spelled : SpellsPower text power)
    (ends : EndsNumber rest) :
    (∀ glyph ∈ (text.map some ++ rest).head?, digit? glyph = none) ∧
      (text.map some ++ rest).head? ≠ some (some '.') := by
  have letters : ∀ {letter : Char}, letter = 'e' ∨ letter = 'E' →
      digit? (some letter) = none ∧ letter ≠ '.' := by
    rintro letter (rfl | rfl)
    all_goals decide
  cases spelled with
  | absent => exact ⟨ends.noDigit, ends.noPoint⟩
  | unsigned isLetter _ => simpa using letters isLetter
  | plus isLetter _ => simpa using letters isLetter
  | minus isLetter _ => simpa using letters isLetter

theorem scanAfterWhole_of_spells {fractionText powerText : List Char}
    {fraction : Option (List Nat)} {power : Option Int}
    (hasFraction : SpellsFraction fractionText fraction) (hasPower : SpellsPower powerText power)
    (ends : EndsNumber rest) (noFraction : numeral.fraction = none)
    (noPower : numeral.power = none) :
    scanAfterWhole numeral (fractionText.map some ++ (powerText.map some ++ rest)) =
      (.number { numeral with fraction, power }.number?, rest) := by
  obtain ⟨noDigit, noPoint⟩ := hasPower.head ends
  cases hasFraction with
  | absent =>
      obtain ⟨negative, whole, fraction, power⟩ := numeral
      obtain rfl : fraction = none := noFraction
      rw [List.map_nil, List.nil_append, scanAfterWhole_of_noPoint _ noPoint,
        scanAfterDigits_of_spells _ hasPower ends noPower]
  | present areDigits =>
      obtain ⟨value, values, same, scanned⟩ := areDigits.leadingDigits noDigit
      have behind := scanAfterDigits_of_spells { numeral with fraction := some (value :: values) }
        hasPower ends noPower
      simp only [List.map_cons, List.cons_append, scanAfterWhole, scanned, same, behind]

theorem scanNumber_of_spells {digits fractionText powerText : List Char}
    {fraction : Option (List Nat)} {power : Option Int} (whole : SpellsWhole digits)
    (hasFraction : SpellsFraction fractionText fraction) (hasPower : SpellsPower powerText power)
    (ends : EndsNumber rest) (negative : Bool) :
    scanNumber negative
        (digits.map some ++ (fractionText.map some ++ (powerText.map some ++ rest))) =
      (.number (Numeral.number? ⟨negative, valuesOf digits, fraction, power⟩), rest) := by
  have noDigit : ∀ glyph ∈ (fractionText.map some ++ (powerText.map some ++ rest)).head?,
      digit? glyph = none := by
    cases hasFraction with
    | absent => exact (hasPower.head ends).1
    | present _ => rintro _ ⟨rfl⟩; decide
  obtain ⟨value, values, same, scanned⟩ := whole.1.leadingDigits noDigit
  have behind := scanAfterWhole_of_spells ⟨negative, value :: values, none, none⟩ hasFraction
    hasPower ends rfl rfl
  rw [same]
  cases values with
  | nil => simp only [scanNumber, scanned, behind]
  | cons second values =>
      cases value with
      | zero => cases whole.single same
      | succ value => simp only [scanNumber, scanned, behind]

end Numbers

/-! ## Quotations -/

/-- A character that needs no escape stands for itself. -/
theorem readQuotation_plain {character : Char} (notQuote : character ≠ '"')
    (notBackslash : character ≠ '\\') (visible : ¬ character.toNat < 0x20) (clean : Bool)
    (text : List Glyph) :
    readQuotation clean (some character :: text) =
      prepend character (readQuotation clean text) := by
  rw [readQuotation]
  · simp [isControl, visible]
  -- The other equations are about a quote or a backslash.
  all_goals simp [notQuote, notBackslash]

theorem skipQuotation_plain {character : Char} (notQuote : character ≠ '"')
    (notBackslash : character ≠ '\\') (visible : ¬ character.toNat < 0x20) (text : List Glyph) :
    skipQuotation (some character :: text) = skipQuotation text := by
  rw [skipQuotation]
  · simp [isControl, visible]
  all_goals simp [notQuote, notBackslash]

/-- The letter of an escape is not that of a code unit. -/
theorem ne_unit_of_escaped {letter : Char} (known : escaped? (some letter) ≠ none) :
    letter ≠ 'u' := by
  rintro rfl
  exact known rfl

theorem readQuotation_letter {letter character : Char}
    (known : escaped? (some letter) = some character) (clean : Bool) (text : List Glyph) :
    readQuotation clean (some '\\' :: some letter :: text) =
      prepend character (readQuotation clean text) := by
  have notUnit : letter ≠ 'u' := ne_unit_of_escaped (known ▸ Option.some_ne_none _)
  rw [readQuotation]
  · simp only [known]
  all_goals simp [notUnit]

theorem skipQuotation_letter {letter character : Char}
    (known : escaped? (some letter) = some character) (text : List Glyph) :
    skipQuotation (some '\\' :: some letter :: text) = skipQuotation text := by
  have notUnit : letter ≠ 'u' := ne_unit_of_escaped (known ▸ Option.some_ne_none _)
  rw [skipQuotation]
  · simp only [known]
  all_goals simp [notUnit]

theorem skipQuotation_of_spells {text : List Char} (spelled : SpellsQuotation text)
    (rest : List Glyph) : skipQuotation (text.map some ++ rest) = .ok rest := by
  induction spelled with
  | closed => rfl
  | plain notQuote notBackslash visible _ ih =>
      rw [List.map_cons, List.cons_append, skipQuotation_plain notQuote notBackslash visible, ih]
  | letter known _ ih =>
      obtain ⟨character, known⟩ := Option.ne_none_iff_exists'.mp known
      simp only [List.map_cons, List.cons_append, skipQuotation_letter known, ih]
  | unit known _ ih =>
      obtain ⟨unit, known⟩ := Option.ne_none_iff_exists'.mp known
      simp only [List.map_cons, List.cons_append, skipQuotation, known, ih]

theorem map_prepend (character : Char) (outcome : Except Fault (List Char × List Glyph)) :
    (prepend character outcome).map Prod.fst =
      (outcome.map Prod.fst).map (List.cons character) := by
  cases outcome <;> rfl

/-- What is behind the closing quote has no part in the content of a quotation. -/
theorem readQuotation_of_spells : ∀ {text : List Char}, SpellsQuotation text → ∀ rest : List Glyph,
    (readQuotation true (text.map some ++ rest)).map Prod.fst =
      (readQuotation true (text.map some)).map Prod.fst
  | _, .closed, _ => rfl
  | _, .plain notQuote notBackslash visible later, rest => by
      simp only [List.map_cons, List.cons_append, readQuotation_plain notQuote notBackslash visible,
        map_prepend, readQuotation_of_spells later rest]
  | _, .letter known later, rest => by
      obtain ⟨character, known⟩ := Option.ne_none_iff_exists'.mp known
      simp only [List.map_cons, List.cons_append, readQuotation_letter known, map_prepend,
        readQuotation_of_spells later rest]
  | _, .unit known later, rest => by
      obtain ⟨unit, known⟩ := Option.ne_none_iff_exists'.mp known
      have ih := readQuotation_of_spells later rest
      simp only [List.map_cons, List.cons_append, readQuotation, known]
      split
      · rfl
      · split
        -- The first half of a surrogate pair: only another code unit can be the second half.
        · cases later with
          | closed => rfl
          | plain _ notBackslash _ _ => simp [notBackslash]
          | letter knownLetter _ => simp [ne_unit_of_escaped knownLetter]
          | unit knownSecond behind =>
              obtain ⟨second, knownSecond⟩ := Option.ne_none_iff_exists'.mp knownSecond
              simp only [List.map_cons, List.cons_append, knownSecond]
              split
              · simp only [map_prepend, readQuotation_of_spells behind rest]
              · rfl
        · simp only [map_prepend, ih]

theorem quotationContent_of_spells {text : List Char} (spelled : SpellsQuotation text)
    (rest : List Glyph) :
    quotationContent (text.map some ++ rest) = quotationContent (text.map some) := by
  have content : ∀ glyphs, quotationContent glyphs =
      ((readQuotation true glyphs).map Prod.fst).map String.ofList := by
    intro glyphs
    unfold quotationContent
    cases readQuotation true glyphs <;> rfl
  rw [content, content, readQuotation_of_spells spelled rest]

/-! ## Values -/

theorem skipSpace_of_not_isSpace {glyph : Glyph} {text : List Glyph}
    (visible : isSpace glyph = false) : skipSpace (glyph :: text) = glyph :: text := by
  simp [skipSpace, visible]

theorem skipSpace_blank {character : Char} (blank : isSpace (some character) = true)
    (text : List Glyph) : skipSpace (some character :: text) = skipSpace text := by
  simp [skipSpace, blank]

theorem skipSpace_blanks {blanks : List Char} (areBlanks : AreBlanks blanks) (text : List Glyph) :
    skipSpace (blanks.map some ++ text) = skipSpace text := by
  refine List.dropWhile_append_of_pos fun glyph member => ?_
  obtain ⟨character, there, rfl⟩ := List.mem_map.mp member
  exact areBlanks character there

/-- A digit is neither blank nor the first character of anything else. -/
theorem not_marks_of_isDigit {character : Char} (digit : character.isDigit = true) :
    isSpace (some character) = false ∧
      character ∉ [']', 'n', 't', 'f', '"', '[', '{', '-'] := by
  constructor
  · unfold isSpace
    split
    case h_5 => rfl
    all_goals exact absurd digit (by simp_all)
  · intro member
    simp only [List.mem_cons, List.not_mem_nil, or_false] at member
    rcases member with rfl | rfl | rfl | rfl | rfl | rfl | rfl | rfl
    all_goals exact absurd digit (by decide)

/-- A number begins where a digit stands. -/
theorem scanValue_digit {first : Char} (digit : first.isDigit = true) (bound depth : Nat)
    (text : List Glyph) :
    scanValue (bound + 1) depth (some first :: text) = scanNumber false (some first :: text) := by
  obtain ⟨visible, other⟩ := not_marks_of_isDigit digit
  simp only [List.mem_cons, List.not_mem_nil, or_false, not_or] at other
  simp only [scanValue, skipSpace_of_not_isSpace visible]
  split
  case h_9 same =>
    obtain ⟨rfl, rfl⟩ := List.cons.inj same
    simp only [digit?_of_isDigit digit]
  all_goals simp_all

section Steps

variable {bound depth : Nat} {text between rest : List Glyph}

/-- The first item of an array, and those behind it. -/
theorem scanItems_next {first : Char} {head : Node} {tail : Items}
    (visible : isSpace (some first) = false) (other : first ≠ ']')
    (item : scanValue bound depth (some first :: text) = (head, between))
    (later : scanMoreItems bound depth between = (tail, rest)) :
    scanItems (bound + 1) depth (some first :: text) = (.next head tail, rest) := by
  simp only [scanItems, skipSpace_of_not_isSpace visible]
  split
  case h_3 => rw [item, later]
  all_goals simp_all

/-- The next item of an array, and those behind it. -/
theorem scanMoreItems_next {head : Node} {tail : Items}
    (item : scanValue bound depth text = (head, between))
    (later : scanMoreItems bound depth between = (tail, rest)) :
    scanMoreItems (bound + 1) depth (some ',' :: text) = (.next head tail, rest) := by
  have visible : isSpace (some ',') = false := by decide
  simp only [scanMoreItems, skipSpace_of_not_isSpace visible, item, later]

end Steps

section Blank

variable {character : Char} (blank : isSpace (some character) = true) (bound depth : Nat)
  (text : List Glyph)

include blank

theorem scanValue_blank :
    scanValue bound depth (some character :: text) = scanValue bound depth text := by
  cases bound <;> simp only [scanValue, skipSpace_blank blank]

theorem scanItems_blank :
    scanItems bound depth (some character :: text) = scanItems bound depth text := by
  cases bound <;> simp only [scanItems, skipSpace_blank blank]

theorem scanMoreItems_blank :
    scanMoreItems bound depth (some character :: text) = scanMoreItems bound depth text := by
  cases bound <;> simp only [scanMoreItems, skipSpace_blank blank]

theorem scanMembers_blank :
    scanMembers bound depth (some character :: text) = scanMembers bound depth text := by
  cases bound <;> simp only [scanMembers, skipSpace_blank blank]

theorem scanMoreMembers_blank :
    scanMoreMembers bound depth (some character :: text) = scanMoreMembers bound depth text := by
  cases bound <;> simp only [scanMoreMembers, skipSpace_blank blank]

end Blank

/-- The text of a number begins with a digit or a minus. -/
theorem scanValue_number {text : List Char} {numeral : Numeral}
    (spelled : SpellsNumber text numeral) (bound depth : Nat) {rest : List Glyph}
    (ends : EndsNumber rest) :
    scanValue (bound + 1) depth (text.map some ++ rest) = (.number numeral.number?, rest) := by
  cases spelled with
  | positive whole hasFraction hasPower =>
      have scanned := scanNumber_of_spells whole hasFraction hasPower ends false
      obtain ⟨first, later, rfl, digit⟩ := whole.1.exists_cons
      simp only [List.map_cons, List.map_append, List.cons_append, List.append_assoc] at scanned ⊢
      rw [scanValue_digit digit, scanned]
  | negative whole hasFraction hasPower =>
      have scanned := scanNumber_of_spells whole hasFraction hasPower ends true
      have visible : isSpace (some '-') = false := by decide
      simp only [List.map_cons, List.map_append, List.cons_append, List.append_assoc, scanValue,
        skipSpace_of_not_isSpace visible, scanned]

theorem SpellsNumber.length_pos {text : List Char} {numeral : Numeral}
    (spelled : SpellsNumber text numeral) : 0 < text.length := by
  cases spelled with
  | positive whole _ _ =>
      obtain ⟨first, later, rfl, -⟩ := whole.1.exists_cons
      simp
  | negative _ _ _ => simp

theorem Spells.length_pos {depth : Nat} {text : List Char} {node : Node}
    (spelled : Spells depth text node) : 0 < text.length := by
  cases spelled with
  | number _ spelled => exact spelled.length_pos
  | _ => simp

theorem SpellsMoreItems.length_pos {depth : Nat} {text : List Char} {items : Items}
    (spelled : SpellsMoreItems depth text items) : 0 < text.length := by
  cases spelled <;> simp

theorem SpellsMember.length_pos {depth : Nat} {text : List Char} {members : Members}
    (spelled : SpellsMember depth text members) : 0 < text.length := by
  cases spelled <;> simp

theorem SpellsMoreMembers.length_pos {depth : Nat} {text : List Char} {members : Members}
    (spelled : SpellsMoreMembers depth text members) : 0 < text.length := by
  cases spelled <;> simp

/-- A blank ends a number. -/
theorem ends_blank {character : Char} (blank : isSpace (some character) = true) :
    digit? (some character) = none ∧ some character ∉ [some '.', some 'e', some 'E'] := by
  unfold isSpace at blank
  split at blank
  case h_5 => cases blank
  all_goals simp_all; decide

theorem SpellsMoreItems.endsNumber {depth : Nat} {text : List Char} {items : Items}
    (spelled : SpellsMoreItems depth text items) (rest : List Glyph) :
    EndsNumber (text.map some ++ rest) := by
  cases spelled with
  | blank isBlank _ => exact endsNumber_cons (ends_blank isBlank)
  | finished => exact endsNumber_cons (by decide)
  | next _ _ => exact endsNumber_cons (by decide)

theorem SpellsMoreMembers.endsNumber {depth : Nat} {text : List Char} {members : Members}
    (spelled : SpellsMoreMembers depth text members) (rest : List Glyph) :
    EndsNumber (text.map some ++ rest) := by
  cases spelled with
  | blank isBlank _ => exact endsNumber_cons (ends_blank isBlank)
  | finished => exact endsNumber_cons (by decide)
  | next _ => exact endsNumber_cons (by decide)

theorem skipSpace_skipSpace (text : List Glyph) : skipSpace (skipSpace text) = skipSpace text :=
  List.dropWhile_idempotent _ _

theorem scanValue_skipSpace (bound depth : Nat) (text : List Glyph) :
    scanValue bound depth (skipSpace text) = scanValue bound depth text := by
  cases bound <;> simp only [scanValue, skipSpace_skipSpace]

theorem scanItems_skipSpace (bound depth : Nat) (text : List Glyph) :
    scanItems bound depth (skipSpace text) = scanItems bound depth text := by
  cases bound <;> simp only [scanItems, skipSpace_skipSpace]

theorem SpellsNumber.exists_head {text : List Char} {numeral : Numeral}
    (spelled : SpellsNumber text numeral) :
    ∃ first later, text = first :: later ∧ isSpace (some first) = false ∧ first ≠ ']' := by
  cases spelled with
  | negative _ _ _ => exact ⟨'-', _, rfl, by decide, by decide⟩
  | positive whole _ _ =>
      obtain ⟨first, later, rfl, digit⟩ := whole.1.exists_cons
      obtain ⟨visible, other⟩ := not_marks_of_isDigit digit
      exact ⟨first, _, List.cons_append .., visible, fun mark => other (by simp [mark])⟩

/-- Behind blanks a value begins, with something else than the bracket that closes an array. -/
theorem Spells.exists_head : ∀ {depth : Nat} {text : List Char} {node : Node},
    Spells depth text node → ∀ rest : List Glyph, ∃ first behind,
      skipSpace (text.map some ++ rest) = some first :: behind ∧ isSpace (some first) = false ∧
        first ≠ ']'
  | _, _, _, .blank isBlank behind, rest => by
      simpa only [List.map_cons, List.cons_append, skipSpace_blank isBlank] using
        behind.exists_head rest
  | _, _, _, .null _, _ => ⟨'n', _, rfl, by decide, by decide⟩
  | _, _, _, .yes _, _ => ⟨'t', _, rfl, by decide, by decide⟩
  | _, _, _, .no _, _ => ⟨'f', _, rfl, by decide, by decide⟩
  | _, _, _, .quotation _ _, _ => ⟨'"', _, rfl, by decide, by decide⟩
  | _, _, _, .array _, _ => ⟨'[', _, rfl, by decide, by decide⟩
  | _, _, _, .object _, _ => ⟨'{', _, rfl, by decide, by decide⟩
  | _, _, _, .number _ spelled, _ => by
      obtain ⟨first, later, rfl, visible, other⟩ := spelled.exists_head
      exact ⟨first, _, skipSpace_of_not_isSpace visible, visible, other⟩

mutual

/-- **A text that spells a node is scanned as that node**, whatever stands behind it, and nothing of
that is touched. -/
theorem scanValue_of_spells : ∀ {depth : Nat} {text : List Char} {node : Node},
    Spells depth text node → ∀ {bound : Nat} {rest : List Glyph}, text.length ≤ bound →
      EndsNumber rest → scanValue bound depth (text.map some ++ rest) = (node, rest)
  | _, _, _, .blank isBlank behind, _, _, enough, ends => by
      rw [List.map_cons, List.cons_append, scanValue_blank isBlank]
      exact scanValue_of_spells behind (Nat.le_of_succ_le enough) ends
  | _, _, _, .null _, _ + 1, _, _, _ => rfl
  | _, _, _, .yes _, _ + 1, _, _, _ => rfl
  | _, _, _, .no _, _ + 1, _, _, _ => rfl
  | depth, _, _, .number _ spelled, bound, _, enough, ends => by
      obtain ⟨bound, rfl⟩ :=
        Nat.exists_eq_add_one.mpr (Nat.lt_of_lt_of_le spelled.length_pos enough)
      exact scanValue_number spelled bound depth ends
  | _, _, _, .quotation _ spelled, _ + 1, rest, _, _ => by
      have visible : isSpace (some '"') = false := by decide
      simp only [List.map_cons, List.cons_append, scanValue, skipSpace_of_not_isSpace visible,
        scanQuotation, quotationContent_of_spells spelled, skipQuotation_of_spells spelled]
  | _, _, _, .array spelled, bound + 1, rest, enough, _ => by
      have visible : isSpace (some '[') = false := by decide
      have inside := @scanItems_of_spells _ _ _ spelled bound rest (Nat.le_of_succ_le_succ enough)
      simp only [List.map_cons, List.cons_append, scanValue, skipSpace_of_not_isSpace visible,
        inside]
  | _, _, _, .object spelled, bound + 1, rest, enough, _ => by
      have visible : isSpace (some '{') = false := by decide
      have inside := @scanMembers_of_spells _ _ _ spelled bound rest (Nat.le_of_succ_le_succ enough)
      simp only [List.map_cons, List.cons_append, scanValue, skipSpace_of_not_isSpace visible,
        inside]

theorem scanItems_of_spells : ∀ {depth : Nat} {text : List Char} {items : Items},
    SpellsItems depth text items → ∀ {bound : Nat} {rest : List Glyph}, text.length ≤ bound →
      scanItems bound depth (text.map some ++ rest) = (items, rest)
  | _, _, _, .blank isBlank behind, _, _, enough => by
      rw [List.map_cons, List.cons_append, scanItems_blank isBlank]
      exact scanItems_of_spells behind (Nat.le_of_succ_le enough)
  | _, _, _, .finished _, _ + 1, _, _ => rfl
  | depth, _, _, @SpellsItems.next _ text later head tail here behind, bound, rest, enough => by
      have someHere := here.length_pos
      have someLater := behind.length_pos
      rw [List.length_append] at enough
      obtain ⟨bound, rfl⟩ := Nat.exists_eq_add_one.mpr (by omega : 0 < bound)
      have value := @scanValue_of_spells _ _ _ here bound _ (by omega) (behind.endsNumber rest)
      have items := @scanMoreItems_of_spells _ _ _ behind bound rest (by omega)
      obtain ⟨first, after, same, visible, other⟩ := here.exists_head (later.map some ++ rest)
      rw [← scanValue_skipSpace, same] at value
      rw [List.map_append, List.append_assoc, ← scanItems_skipSpace, same]
      exact scanItems_next visible other value items

theorem scanMoreItems_of_spells : ∀ {depth : Nat} {text : List Char} {items : Items},
    SpellsMoreItems depth text items → ∀ {bound : Nat} {rest : List Glyph}, text.length ≤ bound →
      scanMoreItems bound depth (text.map some ++ rest) = (items, rest)
  | _, _, _, .blank isBlank behind, _, _, enough => by
      rw [List.map_cons, List.cons_append, scanMoreItems_blank isBlank]
      exact scanMoreItems_of_spells behind (Nat.le_of_succ_le enough)
  | _, _, _, .finished _, _ + 1, _, _ => rfl
  | _, _, _, .next here behind, bound + 1, rest, enough => by
      have someHere := here.length_pos
      have someLater := behind.length_pos
      rw [List.length_cons, List.length_append] at enough
      have value := @scanValue_of_spells _ _ _ here bound _ (by omega) (behind.endsNumber rest)
      have items := @scanMoreItems_of_spells _ _ _ behind bound rest (by omega)
      rw [List.map_cons, List.map_append, List.cons_append, List.append_assoc]
      exact scanMoreItems_next value items

theorem scanMember_of_spells : ∀ {depth : Nat} {text : List Char} {members : Members},
    SpellsMember depth text members → ∀ {bound : Nat} {rest : List Glyph},
      text.length ≤ bound + 1 →
      ∃ behind, skipSpace (text.map some ++ rest) = some '"' :: behind ∧
        scanMember bound depth behind = (members, rest)
  | _, _, _, .blank isBlank behind, _, _, enough => by
      simp only [List.map_cons, List.cons_append, skipSpace_blank isBlank]
      exact scanMember_of_spells behind (Nat.le_of_succ_le enough)
  | _, _, _, .next named areBlanks here behind, bound, rest, enough => by
      have someHere := here.length_pos
      have someLater := behind.length_pos
      simp only [List.length_cons, List.length_append] at enough
      obtain ⟨bound, rfl⟩ := Nat.exists_eq_add_one.mpr (by omega : 0 < bound)
      have value := @scanValue_of_spells _ _ _ here bound _ (by omega) (behind.endsNumber rest)
      have members := @scanMoreMembers_of_spells _ _ _ behind bound rest (by omega)
      have colon : isSpace (some ':') = false := by decide
      have quote : isSpace (some '"') = false := by decide
      simp only [List.map_cons, List.map_append, List.cons_append, List.append_assoc]
      refine ⟨_, skipSpace_of_not_isSpace quote, ?_⟩
      simp only [scanMember, quotationContent_of_spells named, skipQuotation_of_spells named,
        skipSpace_blanks areBlanks, skipSpace_of_not_isSpace colon, value, members]

theorem scanMembers_of_spells : ∀ {depth : Nat} {text : List Char} {members : Members},
    SpellsMembers depth text members → ∀ {bound : Nat} {rest : List Glyph}, text.length ≤ bound →
      scanMembers bound depth (text.map some ++ rest) = (members, rest)
  | _, _, _, .blank isBlank behind, _, _, enough => by
      rw [List.map_cons, List.cons_append, scanMembers_blank isBlank]
      exact scanMembers_of_spells behind (Nat.le_of_succ_le enough)
  | _, _, _, .finished _, _ + 1, _, _ => rfl
  | _, _, _, .next behind, bound, rest, enough => by
      obtain ⟨bound, rfl⟩ := Nat.exists_eq_add_one.mpr (Nat.lt_of_lt_of_le behind.length_pos enough)
      obtain ⟨after, same, scanned⟩ := @scanMember_of_spells _ _ _ behind bound rest enough
      simp only [scanMembers, same, scanned]

theorem scanMoreMembers_of_spells : ∀ {depth : Nat} {text : List Char} {members : Members},
    SpellsMoreMembers depth text members → ∀ {bound : Nat} {rest : List Glyph},
      text.length ≤ bound → scanMoreMembers bound depth (text.map some ++ rest) = (members, rest)
  | _, _, _, .blank isBlank behind, _, _, enough => by
      rw [List.map_cons, List.cons_append, scanMoreMembers_blank isBlank]
      exact scanMoreMembers_of_spells behind (Nat.le_of_succ_le enough)
  | _, _, _, .finished _, _ + 1, _, _ => rfl
  | _, _, _, .next behind, bound + 1, rest, enough => by
      have visible : isSpace (some ',') = false := by decide
      obtain ⟨after, same, scanned⟩ :=
        @scanMember_of_spells _ _ _ behind bound rest (Nat.le_of_succ_le enough)
      simp only [List.map_cons, List.cons_append, scanMoreMembers,
        skipSpace_of_not_isSpace visible, same, scanned]

end

/-- The node that a text begins with. -/
def treeOf (text : String) : Node :=
  (scan (text.toList.map some)).1

/-- What is read from a text is read from its node. -/
theorem read_treeOf {α : Type} {read : Node → Except Fault α} {text : String} {value : α}
    (reads : readText read text = .ok value) : read (treeOf text) = .ok value := by
  simp only [readText, readGlyphs] at reads
  split at reads
  case h_1 => cases reads
  case h_2 result found =>
    split at reads
    · rw [treeOf, found, reads]
    · cases reads

/-- A well-formed text is scanned to its end. -/
theorem scan_of_isText {text : String} {node : Node} (isText : IsText text.toList node) :
    ∃ rest, scan (text.toList.map some) = (node, rest) ∧ skipSpace rest = [] := by
  obtain ⟨body, blanks, same, spelled, areBlanks⟩ := isText
  have ends : EndsNumber (blanks.map some) := by
    cases blanks with
    | nil => exact endsNumber_nil
    | cons character blanks =>
        exact endsNumber_cons (ends_blank (areBlanks _ (List.mem_cons_self ..)))
  have scanned := @scanValue_of_spells _ _ _ spelled (2 * (text.toList.map some).length + 4)
    (blanks.map some) (by rw [same, List.length_map, List.length_append]; omega) ends
  rw [← List.map_append, ← same] at scanned
  refine ⟨blanks.map some, scanned, ?_⟩
  rw [← List.append_nil (blanks.map some), skipSpace_blanks areBlanks]
  rfl

theorem treeOf_of_isText {text : String} {node : Node} (isText : IsText text.toList node) :
    treeOf text = node := by
  obtain ⟨rest, scanned, -⟩ := scan_of_isText isText
  rw [treeOf, scanned]

/-- **What a reader makes of a well-formed text is what it makes of the node.** -/
theorem readText_of_isText {α : Type} {text : String} {node : Node}
    (isText : IsText text.toList node) (read : Node → Except Fault α) :
    readText read text = read node := by
  obtain ⟨rest, scanned, noRest⟩ := scan_of_isText isText
  simp only [readText, readGlyphs, scanned, noRest, if_true]
  cases read node <;> rfl

end ResponsesBridge.Json
