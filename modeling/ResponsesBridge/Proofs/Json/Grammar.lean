import ResponsesBridge.Json.Scan

/-!
# The grammar of JSON texts

Which texts are well formed, and what their nodes are, by the grammar of JSON: one rule after the
other, without a scanner (`Spells`). Any blanks may stand before and behind the values, the
names and the marks between them. The depth of a node is told to its rules, since arrays and objects
that are nested too deep are no longer wanted.

A well-formed text can always be passed over, whatever its numbers, its quotations and its depth
(`Spells.skip`).
-/

set_option autoImplicit false

namespace ResponsesBridge.Json

open ResponsesBridge.Text.Utf8 (Glyph)

/-! ## The rules -/

/-- The values of decimal digits. -/
def valuesOf (digits : List Char) : List Nat :=
  digits.map fun digit => digit.toNat - '0'.toNat

/-- There are some characters, and all are decimal digits. -/
def AreDigits (digits : List Char) : Prop :=
  digits ≠ [] ∧ ∀ digit ∈ digits, digit.isDigit = true

/-- The digits before the point, which begin with a zero only if that is the only one. -/
def SpellsWhole (digits : List Char) : Prop :=
  AreDigits digits ∧ (digits.head? = some '0' → digits = ['0'])

/-- The point and the digits behind it, if there are any. -/
inductive SpellsFraction : List Char → Option (List Nat) → Prop
  | absent : SpellsFraction [] none
  | present {digits : List Char} (areDigits : AreDigits digits) :
      SpellsFraction ('.' :: digits) (some (valuesOf digits))

/-- The power of ten behind its letter, if there is any. -/
inductive SpellsPower : List Char → Option Int → Prop
  | absent : SpellsPower [] none
  | unsigned {letter : Char} {digits : List Char} (isLetter : letter = 'e' ∨ letter = 'E')
      (areDigits : AreDigits digits) :
      SpellsPower (letter :: digits) (some (ofDigits (valuesOf digits)))
  | plus {letter : Char} {digits : List Char} (isLetter : letter = 'e' ∨ letter = 'E')
      (areDigits : AreDigits digits) :
      SpellsPower (letter :: '+' :: digits) (some (ofDigits (valuesOf digits)))
  | minus {letter : Char} {digits : List Char} (isLetter : letter = 'e' ∨ letter = 'E')
      (areDigits : AreDigits digits) :
      SpellsPower (letter :: '-' :: digits) (some (-(ofDigits (valuesOf digits) : Int)))

/-- A number. -/
inductive SpellsNumber : List Char → Numeral → Prop
  | positive {digits fractionText powerText : List Char} {fraction : Option (List Nat)}
      {power : Option Int} (whole : SpellsWhole digits)
      (hasFraction : SpellsFraction fractionText fraction)
      (hasPower : SpellsPower powerText power) :
      SpellsNumber (digits ++ (fractionText ++ powerText)) ⟨false, valuesOf digits, fraction, power⟩
  | negative {digits fractionText powerText : List Char} {fraction : Option (List Nat)}
      {power : Option Int} (whole : SpellsWhole digits)
      (hasFraction : SpellsFraction fractionText fraction)
      (hasPower : SpellsPower powerText power) :
      SpellsNumber ('-' :: (digits ++ (fractionText ++ powerText)))
        ⟨true, valuesOf digits, fraction, power⟩

/-- The inside of a quotation and the quote that closes it. -/
inductive SpellsQuotation : List Char → Prop
  | closed : SpellsQuotation ['"']
  | plain {character : Char} {text : List Char} (notQuote : character ≠ '"')
      (notBackslash : character ≠ '\\') (visible : ¬ character.toNat < 0x20)
      (later : SpellsQuotation text) : SpellsQuotation (character :: text)
  | letter {letter : Char} {text : List Char} (known : escaped? (some letter) ≠ none)
      (later : SpellsQuotation text) : SpellsQuotation ('\\' :: letter :: text)
  | unit {first second third fourth : Char} {text : List Char}
      (known : codeUnit? (some first) (some second) (some third) (some fourth) ≠ none)
      (later : SpellsQuotation text) :
      SpellsQuotation ('\\' :: 'u' :: first :: second :: third :: fourth :: text)

/-- Blank characters. -/
def AreBlanks (text : List Char) : Prop :=
  ∀ character ∈ text, isSpace (some character) = true

mutual

/-- A text of blanks and a value spells the node of the value, inside of `depth` arrays and
objects. -/
inductive Spells : Nat → List Char → Node → Prop
  | blank {depth : Nat} {character : Char} {text : List Char} {node : Node}
      (isBlank : isSpace (some character) = true) (behind : Spells depth text node) :
      Spells depth (character :: text) node
  | null (depth : Nat) : Spells depth ['n', 'u', 'l', 'l'] .null
  | yes (depth : Nat) : Spells depth ['t', 'r', 'u', 'e'] (.boolean true)
  | no (depth : Nat) : Spells depth ['f', 'a', 'l', 's', 'e'] (.boolean false)
  | number (depth : Nat) {text : List Char} {numeral : Numeral}
      (spelled : SpellsNumber text numeral) : Spells depth text (.number numeral.number?)
  | quotation (depth : Nat) {text : List Char} (spelled : SpellsQuotation text) :
      Spells depth ('"' :: text) (.text (quotationContent (text.map some)))
  | array {depth : Nat} {text : List Char} {items : Items}
      (spelled : SpellsItems (depth + 1) text items) :
      Spells depth ('[' :: text) (arrayAt (depth + 1) items)
  | object {depth : Nat} {text : List Char} {members : Members}
      (spelled : SpellsMembers (depth + 1) text members) :
      Spells depth ('{' :: text) (objectAt (depth + 1) members)

/-- The items of an array and the bracket that closes it. -/
inductive SpellsItems : Nat → List Char → Items → Prop
  | blank {depth : Nat} {character : Char} {text : List Char} {items : Items}
      (isBlank : isSpace (some character) = true) (behind : SpellsItems depth text items) :
      SpellsItems depth (character :: text) items
  | finished (depth : Nat) : SpellsItems depth [']'] .finished
  | next {depth : Nat} {text later : List Char} {head : Node} {tail : Items}
      (here : Spells depth text head) (behind : SpellsMoreItems depth later tail) :
      SpellsItems depth (text ++ later) (.next head tail)

/-- The items behind one of them, each with a comma before it, and the bracket. -/
inductive SpellsMoreItems : Nat → List Char → Items → Prop
  | blank {depth : Nat} {character : Char} {text : List Char} {items : Items}
      (isBlank : isSpace (some character) = true) (behind : SpellsMoreItems depth text items) :
      SpellsMoreItems depth (character :: text) items
  | finished (depth : Nat) : SpellsMoreItems depth [']'] .finished
  | next {depth : Nat} {text later : List Char} {head : Node} {tail : Items}
      (here : Spells depth text head) (behind : SpellsMoreItems depth later tail) :
      SpellsMoreItems depth (',' :: (text ++ later)) (.next head tail)

/-- A member, the members behind it and the brace that closes the object. -/
inductive SpellsMember : Nat → List Char → Members → Prop
  | blank {depth : Nat} {character : Char} {text : List Char} {members : Members}
      (isBlank : isSpace (some character) = true) (behind : SpellsMember depth text members) :
      SpellsMember depth (character :: text) members
  | next {depth : Nat} {name between text later : List Char} {value : Node} {tail : Members}
      (named : SpellsQuotation name) (areBlanks : AreBlanks between)
      (here : Spells depth text value) (behind : SpellsMoreMembers depth later tail) :
      SpellsMember depth ('"' :: (name ++ (between ++ ':' :: (text ++ later))))
        (.next (quotationContent (name.map some)) value tail)

/-- The members of an object and the brace that closes it. -/
inductive SpellsMembers : Nat → List Char → Members → Prop
  | blank {depth : Nat} {character : Char} {text : List Char} {members : Members}
      (isBlank : isSpace (some character) = true) (behind : SpellsMembers depth text members) :
      SpellsMembers depth (character :: text) members
  | finished (depth : Nat) : SpellsMembers depth ['}'] .finished
  | next {depth : Nat} {text : List Char} {members : Members}
      (behind : SpellsMember depth text members) : SpellsMembers depth text members

/-- The members behind one of them, each with a comma before it, and the brace. -/
inductive SpellsMoreMembers : Nat → List Char → Members → Prop
  | blank {depth : Nat} {character : Char} {text : List Char} {members : Members}
      (isBlank : isSpace (some character) = true) (behind : SpellsMoreMembers depth text members) :
      SpellsMoreMembers depth (character :: text) members
  | finished (depth : Nat) : SpellsMoreMembers depth ['}'] .finished
  | next {depth : Nat} {text : List Char} {members : Members}
      (behind : SpellsMember depth text members) :
      SpellsMoreMembers depth (',' :: text) members

end

/-- A text is a value and blanks, and the value is that of the node. -/
def IsText (text : List Char) (node : Node) : Prop :=
  ∃ body blanks, text = body ++ blanks ∧ Spells 0 body node ∧ AreBlanks blanks

/-! ## Passing over -/

theorem skip_arrayAt (depth : Nat) (items : Items) : (arrayAt depth items).skip = items.skip := by
  unfold arrayAt
  split <;> rfl

theorem skip_objectAt (depth : Nat) (members : Members) :
    (objectAt depth members).skip = members.skip := by
  unfold objectAt
  split <;> rfl

mutual

/-- **A well-formed text can be passed over.** -/
theorem Spells.skip : ∀ {depth : Nat} {text : List Char} {node : Node},
    Spells depth text node → node.skip = .ok ()
  | _, _, _, .blank _ behind => behind.skip
  | _, _, _, .null _ => rfl
  | _, _, _, .yes _ => rfl
  | _, _, _, .no _ => rfl
  | _, _, _, .number _ _ => rfl
  | _, _, _, .quotation _ _ => rfl
  | _, _, _, .array spelled => by rw [skip_arrayAt, spelled.skip]
  | _, _, _, .object spelled => by rw [skip_objectAt, spelled.skip]

theorem SpellsItems.skip : ∀ {depth : Nat} {text : List Char} {items : Items},
    SpellsItems depth text items → items.skip = .ok ()
  | _, _, _, .blank _ behind => behind.skip
  | _, _, _, .finished _ => rfl
  | _, _, _, .next here behind => by rw [Items.skip, here.skip, behind.skip]; rfl

theorem SpellsMoreItems.skip : ∀ {depth : Nat} {text : List Char} {items : Items},
    SpellsMoreItems depth text items → items.skip = .ok ()
  | _, _, _, .blank _ behind => behind.skip
  | _, _, _, .finished _ => rfl
  | _, _, _, .next here behind => by rw [Items.skip, here.skip, behind.skip]; rfl

theorem SpellsMember.skip : ∀ {depth : Nat} {text : List Char} {members : Members},
    SpellsMember depth text members → members.skip = .ok ()
  | _, _, _, .blank _ behind => behind.skip
  | _, _, _, .next _ _ here behind => by rw [Members.skip, here.skip, behind.skip]; rfl

theorem SpellsMembers.skip : ∀ {depth : Nat} {text : List Char} {members : Members},
    SpellsMembers depth text members → members.skip = .ok ()
  | _, _, _, .blank _ behind => behind.skip
  | _, _, _, .finished _ => rfl
  | _, _, _, .next behind => behind.skip

theorem SpellsMoreMembers.skip : ∀ {depth : Nat} {text : List Char} {members : Members},
    SpellsMoreMembers depth text members → members.skip = .ok ()
  | _, _, _, .blank _ behind => behind.skip
  | _, _, _, .finished _ => rfl
  | _, _, _, .next behind => behind.skip

end

theorem IsText.skip {text : List Char} {node : Node} (isText : IsText text node) :
    node.skip = .ok () := by
  obtain ⟨_, _, _, spelled, _⟩ := isText
  exact spelled.skip

end ResponsesBridge.Json
