import ResponsesBridge.Proofs.Json.Scanning

/-!
# Texts of values

The compact text of a value is well formed and spells the node of the value (`Value.spells`), so
readers of the text read that node (`readText_toText`). This holds of values whose numbers are
integers of 64 bits (`Number.IsWord`) and which are not nested deeper than a reader wants them.
-/

set_option autoImplicit false

namespace ResponsesBridge.Json

open ResponsesBridge.Text.Utf8 (Glyph)

/-! ## Numbers of a value -/

/-- An integer that fits 64 bits, with or without a sign. -/
def Number.IsWord : Number → Prop
  | .integer value => -(twoTo 63 : Int) ≤ value ∧ value < twoTo 64
  | _ => False

instance : DecidablePred Number.IsWord
  | .integer _ => inferInstanceAs (Decidable (_ ∧ _))
  | .real _ => isFalse id
  | .single _ => isFalse id

mutual

/-- The numbers in a value, in the order of its text. -/
def Value.numbers : Value → List Number
  | .number value => [value]
  | .array items => numbersOfItems items
  | .object members => numbersOfMembers members
  | _ => []
termination_by structural value => value

/-- The numbers in all items. -/
def numbersOfItems : List Value → List Number
  | [] => []
  | item :: items => item.numbers ++ numbersOfItems items
termination_by structural items => items

/-- The numbers in the values of all members. -/
def numbersOfMembers : List (String × Value) → List Number
  | [] => []
  | (_, value) :: members => value.numbers ++ numbersOfMembers members
termination_by structural members => members

end

/-! ## Quotations -/

/-- Two hexadecimal digits behind two zeros are the code unit of a control character. -/
theorem codeUnit?_control {character : Char} (control : character.toNat < 0x20) :
    codeUnit? (some '0') (some '0') (some (Text.hexDigit (character.toNat / 16)))
      (some (Text.hexDigit (character.toNat % 16))) = some character.toNat := by
  have zero : Text.hexValue? '0' = some 0 := by decide
  have high : Text.hexValue? (Text.hexDigit (character.toNat / 16)) = some (character.toNat / 16) :=
    Text.hexValue?_hexDigit (by omega)
  have low : Text.hexValue? (Text.hexDigit (character.toNat % 16)) = some (character.toNat % 16) :=
    Text.hexValue?_hexDigit (by omega)
  simp only [codeUnit?, hexDigit?, Option.bind_some, bind, zero, high, low, pure,
    Option.some.injEq]
  omega

/-- What is written of a character is read as that character. -/
theorem readQuotation_escape (character : Char) (text : List Glyph) :
    readQuotation true ((escape character).map some ++ text) =
      prepend character (readQuotation true text) := by
  unfold escape
  split
  case h_8 notQuote notBackslash _ _ _ _ _ =>
    split
    case isTrue control =>
      have lower : ¬ (0xDC00 ≤ character.toNat ∧ character.toNat ≤ 0xDFFF) := by omega
      have upper : ¬ (0xD800 ≤ character.toNat ∧ character.toNat ≤ 0xDBFF) := by omega
      simp only [List.map_cons, List.map_nil, List.cons_append, List.nil_append, readQuotation,
        codeUnit?_control control, if_neg lower, if_neg upper, Char.ofNat_toNat]
    case isFalse visible => exact readQuotation_plain notQuote notBackslash visible true text
  all_goals rfl

/-- What is written of a character is well formed inside of a quotation. -/
theorem SpellsQuotation.escape {text : List Char} (later : SpellsQuotation text)
    (character : Char) :
    SpellsQuotation (Json.escape character ++ text) := by
  unfold Json.escape
  split
  case h_8 notQuote notBackslash _ _ _ _ _ =>
    split
    case isTrue control =>
      exact .unit (by rw [codeUnit?_control control]; exact Option.some_ne_none _) later
    case isFalse visible => exact .plain notQuote notBackslash visible later
  all_goals exact .letter (by decide) later

theorem SpellsQuotation.escapeAll (content : List Char) :
    SpellsQuotation (Json.escapeAll content ++ ['"']) := by
  induction content with
  | nil => exact .closed
  | cons character content ih =>
      rw [Json.escapeAll, List.append_assoc]
      exact ih.escape character

theorem readQuotation_escapeAll (content : List Char) (rest : List Glyph) :
    readQuotation true ((escapeAll content).map some ++ some '"' :: rest) =
      .ok (content, rest) := by
  induction content with
  | nil => rfl
  | cons character content ih =>
      rw [escapeAll, List.map_append, List.append_assoc, readQuotation_escape, ih]
      rfl

theorem quotationContent_escapeAll (text : String) :
    quotationContent ((Json.escapeAll text.toList ++ ['"']).map some) = .ok text := by
  rw [List.map_append, List.map_cons, List.map_nil, quotationContent, readQuotation_escapeAll]
  simp

/-! ## Numbers -/

/-- The values of the digits of a number. -/
def digitValues (number : Nat) : List Nat :=
  (Decimal.digitsOf number).map fun digit => digit.toNat - '0'.toNat

/-- Appending digits never makes a significand smaller. -/
theorem le_foldl_digits (values : List Nat) (significand : Nat) :
    significand ≤ values.foldl (fun number value => number * 10 + value) significand := by
  induction values generalizing significand with
  | nil => exact Nat.le_refl _
  | cons value values ih => exact Nat.le_trans (by omega) (ih (significand * 10 + value))

/-- All digits are carried as long as the number that they make is within the limit. -/
theorem carry_of_le_limit {values : List Nat} {significand : Nat}
    (within : values.foldl (fun number value => number * 10 + value) significand ≤
      Decimal.significandLimit) :
    carry significand values =
      (values.foldl (fun number value => number * 10 + value) significand, values.length) := by
  induction values generalizing significand with
  | nil => rfl
  | cons value values ih =>
      have fits : significand * 10 + value ≤ Decimal.significandLimit :=
        Nat.le_trans (le_foldl_digits values _) within
      simp only [carry, if_pos fits, ih within, List.foldl_cons, List.length_cons]

theorem foldl_digitValues (number : Nat) :
    (digitValues number).foldl (fun number value => number * 10 + value) 0 = number := by
  have same := @Nat.ofDigitChars_ten_toDigits number
  rw [Nat.ofDigitChars_eq_foldl] at same
  simpa [digitValues, Decimal.digitsOf, List.foldl_map, Nat.mul_comm] using same

theorem carry_digitValues {number : Nat} (within : number ≤ Decimal.significandLimit) :
    carry 0 (digitValues number) = (number, (digitValues number).length) := by
  have whole := foldl_digitValues number
  rw [carry_of_le_limit (by rw [whole]; exact within), whole]

/-- The digits of a positive number do not begin with a zero. -/
theorem head_digitValues {number : Nat} (positive : 0 < number) :
    ∃ first rest, digitValues number = first :: rest ∧ first ≠ 0 := by
  induction number using Nat.strongRecOn with
  | ind number ih =>
      by_cases single : number < 10
      · refine ⟨number, [], ?_, Nat.ne_of_gt positive⟩
        simp [digitValues, Decimal.digitsOf, Nat.toDigits_of_lt_base single,
          Nat.toNat_digitChar_of_lt_ten single]
      · obtain ⟨first, rest, same, notZero⟩ := ih (number / 10) (by omega) (by omega)
        have split : digitValues number =
            digitValues (number / 10) ++ [(number % 10).digitChar.toNat - '0'.toNat] := by
          simp [digitValues, Decimal.digitsOf,
            Nat.toDigits_of_base_le (by decide : 1 < 10) (Nat.le_of_not_lt single)]
        exact ⟨first, _, by rw [split, same, List.cons_append], notZero⟩

theorem spellsWhole_digitsOf (number : Nat) : SpellsWhole (Decimal.digitsOf number) := by
  refine ⟨⟨Nat.toDigits_ne_nil, fun digit member =>
    Nat.isDigit_of_mem_toDigits (by decide) (by decide) member⟩, fun zero => ?_⟩
  rcases Nat.eq_zero_or_pos number with rfl | positive
  · rfl
  · obtain ⟨first, later, same, notZero⟩ := head_digitValues positive
    obtain ⟨behind, begins⟩ := List.head?_eq_some_iff.mp zero
    rw [digitValues, begins, List.map_cons] at same
    exact absurd (List.cons.inj same).1.symm notZero

theorem spellsNumber_integer (value : Int) :
    SpellsNumber (Number.integer value).write
      ⟨decide (value < 0), digitValues value.natAbs, none, none⟩ := by
  have whole := spellsWhole_digitsOf value.natAbs
  by_cases negative : value < 0
  · rw [Number.write, if_pos negative, decide_eq_true negative]
    simpa [digitValues, valuesOf] using SpellsNumber.negative whole .absent .absent
  · rw [Number.write, if_neg negative, decide_eq_false negative]
    simpa [digitValues, valuesOf] using SpellsNumber.positive whole .absent .absent

/-- The numeral of the digits of an integer of 64 bits, behind a sign for a negative one, is that
integer. -/
theorem number?_digitValues {value : Int} (word : (Number.integer value).IsWord) :
    Numeral.number? ⟨decide (value < 0), digitValues value.natAbs, none, none⟩ =
      some (.integer value) := by
  obtain ⟨low, high⟩ := word
  have sizes : UInt64.size = twoTo 64 ∧ twoTo 64 = 2 * twoTo 63 := ⟨rfl, rfl⟩
  have limit : Decimal.significandLimit = UInt64.size - 1 := rfl
  have within : value.natAbs ≤ Decimal.significandLimit := by omega
  simp only [Numeral.number?, carry_digitValues within, Nat.sub_self]
  by_cases negative : value < 0
  · have small : 0 < value.natAbs ∧ value.natAbs ≤ UInt64.size / 2 := by omega
    have same : -(value.natAbs : Int) = value := by omega
    simp only [negative, decide_true, not_true_eq_false, and_false, small, and_self, if_true,
      if_false, same]
  · have same : (value.natAbs : Int) = value := by omega
    simp only [negative, decide_false, Bool.false_eq_true, not_false_eq_true, and_self, if_true,
      same]

/-! ## Values -/

/-- A quoted text may be the name of a member. -/
theorem SpellsMember.quoted {depth : Nat} {text later : List Char} {value : Node} {tail : Members}
    (name : String) (here : Spells depth text value)
    (behind : SpellsMoreMembers depth later tail) :
    SpellsMember depth (Json.quoted name ++ ':' :: (text ++ later))
      (.next (.ok name) value tail) := by
  have member := SpellsMember.next (.escapeAll name.toList) (List.forall_mem_nil _) here behind
  rw [quotationContent_escapeAll] at member
  simpa [Json.quoted] using member

mutual

/-- **The text of a value spells the node of the value.** -/
theorem Value.spells : ∀ (value : Value) (depth : Nat),
    (∀ number ∈ value.numbers, number.IsWord) → depth + value.node.height ≤ depthLimit →
      Spells depth value.write value.node
  | .null, depth, _, _ => .null depth
  | .boolean true, depth, _, _ => .yes depth
  | .boolean false, depth, _, _ => .no depth
  | .number (.integer value), depth, words, _ => by
      have word : (Number.integer value).IsWord := words _ (List.mem_singleton_self _)
      rw [Value.node, ← number?_digitValues word]
      exact .number depth (spellsNumber_integer value)
  | .number (.real _), _, words, _ => (words _ (List.mem_singleton_self _)).elim
  | .number (.single _), _, words, _ => (words _ (List.mem_singleton_self _)).elim
  | .text content, depth, _, _ => by
      rw [Value.node, ← quotationContent_escapeAll content]
      exact .quotation depth (.escapeAll content.toList)
  | .array items, depth, words, shallow => by
      rw [Value.node, Node.height] at shallow
      have wanted : depth + 1 ≤ depthLimit := by omega
      have inside := Spells.array (spellsItems_write items (depth + 1) words (by omega))
      rwa [arrayAt, if_pos wanted] at inside
  | .object members, depth, words, shallow => by
      rw [Value.node, Node.height] at shallow
      have wanted : depth + 1 ≤ depthLimit := by omega
      have inside := Spells.object (spellsMembers_write members (depth + 1) words (by omega))
      rwa [objectAt, if_pos wanted] at inside

theorem spellsItems_write : ∀ (items : List Value) (depth : Nat),
    (∀ number ∈ numbersOfItems items, number.IsWord) →
      depth + (itemsOf items).height ≤ depthLimit →
      SpellsItems depth (writeItems items) (itemsOf items)
  | [], depth, _, _ => .finished depth
  | item :: items, depth, words, shallow => by
      obtain ⟨wordsHere, wordsLater⟩ := List.forall_mem_append.mp words
      rw [itemsOf, Items.height] at shallow
      exact .next (item.spells depth wordsHere (by omega))
        (spellsMoreItems_write items depth wordsLater (by omega))

theorem spellsMoreItems_write : ∀ (items : List Value) (depth : Nat),
    (∀ number ∈ numbersOfItems items, number.IsWord) →
      depth + (itemsOf items).height ≤ depthLimit →
      SpellsMoreItems depth (writeMoreItems items) (itemsOf items)
  | [], depth, _, _ => .finished depth
  | item :: items, depth, words, shallow => by
      obtain ⟨wordsHere, wordsLater⟩ := List.forall_mem_append.mp words
      rw [itemsOf, Items.height] at shallow
      exact .next (item.spells depth wordsHere (by omega))
        (spellsMoreItems_write items depth wordsLater (by omega))

theorem spellsMembers_write : ∀ (members : Fields) (depth : Nat),
    (∀ number ∈ numbersOfMembers members, number.IsWord) →
      depth + (membersOf members).height ≤ depthLimit →
      SpellsMembers depth (writeMembers members) (membersOf members)
  | [], depth, _, _ => .finished depth
  | (name, value) :: members, depth, words, shallow => by
      obtain ⟨wordsHere, wordsLater⟩ := List.forall_mem_append.mp words
      rw [membersOf, Members.height] at shallow
      exact .next (.quoted name (value.spells depth wordsHere (by omega))
        (spellsMoreMembers_write members depth wordsLater (by omega)))

theorem spellsMoreMembers_write : ∀ (members : Fields) (depth : Nat),
    (∀ number ∈ numbersOfMembers members, number.IsWord) →
      depth + (membersOf members).height ≤ depthLimit →
      SpellsMoreMembers depth (writeMoreMembers members) (membersOf members)
  | [], depth, _, _ => .finished depth
  | (name, value) :: members, depth, words, shallow => by
      obtain ⟨wordsHere, wordsLater⟩ := List.forall_mem_append.mp words
      rw [membersOf, Members.height] at shallow
      exact .next (.quoted name (value.spells depth wordsHere (by omega))
        (spellsMoreMembers_write members depth wordsLater (by omega)))

end

/-- The text of a value is well formed. -/
theorem isText_toText {value : Value} (words : ∀ number ∈ value.numbers, number.IsWord)
    (shallow : value.node.height ≤ depthLimit) : IsText value.toText.toList value.node := by
  rw [Value.toText, String.toList_ofList]
  exact ⟨value.write, [], (List.append_nil _).symm, value.spells 0 words (by omega),
    List.forall_mem_nil _⟩

/-- What a reader makes of the text of a value is what it makes of the node of the value. -/
theorem readText_toText {α : Type} {value : Value}
    (words : ∀ number ∈ value.numbers, number.IsWord) (shallow : value.node.height ≤ depthLimit)
    (read : Node → Except Fault α) : readText read value.toText = read value.node :=
  readText_of_isText (isText_toText words shallow) read

end ResponsesBridge.Json
