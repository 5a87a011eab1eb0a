import ResponsesBridge.Proofs.Toml.Quotations
import ResponsesBridge.Toml.Read

/-!
# The readers of documents

A reader takes a value from the beginning of a text and leaves the rest. The readers of documents
are put together from a few smaller ones in three ways (`Reader.seq`, `select` and `ifHead`) and
others that come of these, and the equations of this file say how (`valueWithin?_succ`,
`statement?_eq`, and so on). What holds of the smaller readers and is kept by the ways of putting
readers together holds of all of them.
-/

set_option autoImplicit false

namespace ResponsesBridge.Toml

/-- A reader: the value at the beginning of a text, and the rest. -/
abbrev Reader (α : Type) := List Char → Option (α × List Char)

variable {α β : Type}

namespace Reader

/-- Takes nothing. -/
def yield (value : α) : Reader α := fun text => some (value, text)

/-- Never reads anything. -/
def fail : Reader α := fun _ => none

/-- Two values, one behind the other. -/
def seq (first : Reader α) (second : Reader β) : Reader (α × β) := fun text =>
  (first text).bind fun found =>
    (second found.2).map fun next => ((found.1, next.1), next.2)

/-- What is made of a value, if it can be. -/
def select (make : α → Option β) (reader : Reader α) : Reader β := fun text =>
  (reader text).bind fun found => (make found.1).map (·, found.2)

/-- What stands behind something else. -/
def andThen (first : Reader Unit) (second : Reader β) : Reader β :=
  (first.seq second).select fun pair => some pair.2

/-- One of two readers, by the first character. -/
def ifHead (test : Option Char → Bool) (yes no : Reader α) : Reader α := fun text =>
  if test text.head? then yes text else no text

/-- An expected character. -/
def mark (expected : Char) : Reader Unit
  | [] => none
  | character :: text => if character = expected then some ((), text) else none

/-- Blanks of a line. -/
def blanks : Reader Unit := fun text => some ((), skipBlanks text)

/-- Blanks, line breaks and comments. -/
def layout : Reader Unit := fun text => (skipLayout? false text).map ((), ·)

/-- The rest of a comment. -/
def comment : Reader Unit := fun text => some ((), text.dropWhile isPlain)

/-- A line break, or the end of the text. -/
def lineBreak : Reader Unit
  | [] => some ((), [])
  | '\n' :: text => some ((), text)
  | '\r' :: '\n' :: text => some ((), text)
  | _ => none

/-- The rest of a line, in which there is nothing but blanks and a comment. -/
def lineEnd : Reader Unit := fun text => (lineEnd? text).map ((), ·)

/-- A text in quotes. -/
def quoted : Reader Entry := fun text =>
  (quotation? text).map fun found => (.text (String.ofList found.1), found.2)

/-- A number, a truth value or a date. -/
def scalar : Reader Entry := fun text => (scalarRest? text).map (.scalar, ·)

/-- A key and its value. -/
def field (value : Reader Entry) : Reader (Key × Entry) :=
  seq key? (blanks.andThen ((mark '=').andThen (blanks.andThen value)))

/-- What stands behind an item: a comma and more items, or the closing character. -/
def moreItems (close : Char) (more : Reader (List α)) : Reader (List α) :=
  ifHead (· == some ',') ((mark ',').andThen more) ((mark close).andThen (yield []))

/-- Items with commas between them, up to a closing character; `more` reads those behind a comma. -/
def listing (close : Char) (item : Reader α) (more : Reader (List α)) : Reader (List α) :=
  layout.andThen (ifHead (· == some close) ((mark close).andThen (yield []))
    ((item.seq (layout.andThen (moreItems close more))).select fun pair =>
      some (pair.1 :: pair.2)))

/-! What the readers do to a text. -/

section Apply

variable {first : Reader α} {second : Reader β} {text : List Char}

theorem andThen_apply (first : Reader Unit) (second : Reader β) (text : List Char) :
    first.andThen second text = (first text).bind fun found => second found.2 := by
  simp only [andThen, seq, select]
  cases first text with
  | none => rfl
  | some found =>
      simp only [Option.bind_some]
      cases second found.2 <;> rfl

theorem layout_apply (second : Reader β) (text : List Char) :
    layout.andThen second text = (skipLayout? false text).bind second := by
  rw [andThen_apply, layout]
  cases skipLayout? false text <;> rfl

theorem blanks_apply (second : Reader β) (text : List Char) :
    blanks.andThen second text = second (skipBlanks text) := by
  rw [andThen_apply, blanks, Option.bind_some]

theorem mark_apply (second : Reader β) (expected : Char) (text : List Char) :
    (mark expected).andThen second (expected :: text) = second text := by
  rw [andThen_apply, mark, if_pos rfl, Option.bind_some]

theorem mark_apply_none (second : Reader β) {expected : Char} {text : List Char}
    (other : text.head? ≠ some expected) : (mark expected).andThen second text = none := by
  rw [andThen_apply]
  cases text with
  | nil => rfl
  | cons character text =>
      have apart : character ≠ expected := by simpa using other
      rw [mark, if_neg apart, Option.bind_none]

theorem ifHead_neg {test : Option Char → Bool} {yes no : Reader α} {text : List Char}
    (fails : test text.head? = false) : ifHead test yes no text = no text :=
  if_neg (by simp [fails])

theorem ifHead_mark (expected : Char) (yes no : Reader α) (text : List Char) :
    ifHead (· == some expected) yes no (expected :: text) = yes (expected :: text) :=
  if_pos (by simp)

theorem ifHead_other {expected : Char} {yes no : Reader α} {text : List Char}
    (other : text.head? ≠ some expected) :
    ifHead (· == some expected) yes no text = no text :=
  ifHead_neg (by simpa using other)

end Apply
end Reader

open Reader

/-! ## Equations -/

theorem head?_ne_of_forall {character : Char} {text : List Char}
    (other : ∀ rest, text = character :: rest → False) : text.head? ≠ some character := by
  intro same
  obtain ⟨rest, begins⟩ := List.head?_eq_some_iff.mp same
  exact other rest begins

/-- What stands behind the blanks in front of an item: the closing character, or an item. -/
theorem listing_apply (close : Char) (item : Reader α) (more : Reader (List α)) (text : List Char) :
    listing close item more text = (skipLayout? false text).bind fun text =>
      if text.head? = some close then some ([], text.drop 1)
      else (item text).bind fun found => (skipLayout? false found.2).bind fun rest =>
        (moreItems close more rest).map fun next => (found.1 :: next.1, next.2) := by
  rw [listing, layout_apply]
  refine congrArg _ (funext fun text => ?_)
  by_cases closed : text.head? = some close
  · obtain ⟨rest, rfl⟩ := List.head?_eq_some_iff.mp closed
    rw [ifHead_mark, mark_apply, if_pos closed]
    rfl
  · rw [ifHead_other closed, if_neg closed, select, seq]
    cases item text with
    | none => rfl
    | some found =>
        simp only [Option.bind_some, layout_apply]
        cases skipLayout? false found.2 with
        | none => rfl
        | some rest =>
            simp only [Option.bind_some]
            cases moreItems close more rest <;> rfl

/-- A function is the reader of what stands behind an item if it reads a comma and more items, or
the closing character. -/
theorem moreItems_of {close : Char} {more : Reader (List α)} {item : α}
    {finish : List Char → Option (List α × List Char)}
    (comma : ∀ rest, finish (',' :: rest) = (more rest).map fun next => (item :: next.1, next.2))
    (closed : ∀ rest, finish (close :: rest) = some ([item], rest))
    (other : ∀ text, (∀ rest, text ≠ ',' :: rest) → (∀ rest, text ≠ close :: rest) →
      finish text = none) (text : List Char) :
    finish text = (moreItems close more text).map fun next => (item :: next.1, next.2) := by
  rw [moreItems]
  by_cases isComma : text.head? = some ','
  · obtain ⟨rest, rfl⟩ := List.head?_eq_some_iff.mp isComma
    rw [comma, ifHead_mark, mark_apply]
  · rw [ifHead_other isComma]
    by_cases isClosed : text.head? = some close
    · obtain ⟨rest, rfl⟩ := List.head?_eq_some_iff.mp isClosed
      rw [closed, mark_apply]
      rfl
    · rw [mark_apply_none _ isClosed]
      refine other text ?_ ?_
      · rintro rest rfl
        exact isComma rfl
      · rintro rest rfl
        exact isClosed rfl

theorem itemsWithin?_succ (bound : Nat) :
    itemsWithin? (bound + 1) = listing ']' (valueWithin? bound) (itemsWithin? bound) := by
  funext text
  rw [listing_apply, itemsWithin?]
  refine congrArg _ (funext fun text => ?_)
  split
  case h_1 => rfl
  case h_2 _ isOpen =>
    rw [if_neg (head?_ne_of_forall isOpen)]
    refine congrArg _ (funext fun ⟨item, rest⟩ => ?_)
    refine congrArg (Option.bind (skipLayout? false rest)) (funext (moreItems_of ?_ ?_ ?_))
    · exact fun rest => grown_eq item (itemsWithin? bound rest)
    · exact fun _ => rfl
    · intro text notComma notClosed
      split
      case h_1 rest => exact absurd rfl (notComma rest)
      case h_2 rest => exact absurd rfl (notClosed rest)
      case h_3 => rfl

/-- What is made of a key and the value behind the sign. -/
theorem field_bind (value : Reader Entry) (next : (Key × Entry) × List Char → Option β)
    (text : List Char) :
    (field value text).bind next = (key? text).bind fun found =>
      if (skipBlanks found.2).head? = some '=' then
        (value (skipBlanks ((skipBlanks found.2).drop 1))).bind fun valued =>
          next ((found.1, valued.1), valued.2)
      else none := by
  rw [field, seq]
  cases key? text with
  | none => rfl
  | some found =>
      simp only [Option.bind_some, blanks_apply]
      by_cases sign : (skipBlanks found.2).head? = some '='
      · obtain ⟨rest, same⟩ := List.head?_eq_some_iff.mp sign
        rw [if_pos sign, same, mark_apply, blanks_apply, List.drop_succ_cons, List.drop_zero]
        cases value (skipBlanks rest) <;> rfl
      · rw [if_neg sign, mark_apply_none _ sign]
        rfl

theorem entriesWithin?_succ (bound : Nat) :
    entriesWithin? (bound + 1) =
      listing '}' (field (valueWithin? bound)) (entriesWithin? bound) := by
  funext text
  rw [listing_apply, entriesWithin?]
  refine congrArg _ (funext fun text => ?_)
  split
  case h_1 => rfl
  case h_2 _ isOpen =>
    rw [if_neg (head?_ne_of_forall isOpen), field_bind]
    refine congrArg _ (funext fun ⟨key, rest⟩ => ?_)
    dsimp only
    split
    case h_1 rest sign =>
      rw [sign, if_pos List.head?_cons]
      refine congrArg (Option.bind _) (funext fun ⟨value, rest⟩ => ?_)
      refine congrArg (Option.bind (skipLayout? false rest)) (funext (moreItems_of ?_ ?_ ?_))
      · exact fun rest => grown_eq (key, value) (entriesWithin? bound rest)
      · exact fun _ => rfl
      · intro text notComma notClosed
        split
        case h_1 rest => exact absurd rfl (notComma rest)
        case h_2 rest => exact absurd rfl (notClosed rest)
        case h_3 => rfl
    case h_2 noSign => rw [if_neg (head?_ne_of_forall noSign)]

/-- Whether a value begins with a quote. -/
def beginsQuoted (first : Option Char) : Bool :=
  first == some '"' || first == some '\''

theorem valueWithin?_succ (bound : Nat) :
    valueWithin? (bound + 1) =
      ifHead (· == some '[')
        (((mark '[').andThen (itemsWithin? bound)).select fun items => some (.array items))
        (ifHead (· == some '{')
          (((mark '{').andThen (entriesWithin? bound)).select fun entries =>
            (assignAll? entries []).map (.table .braces))
          (ifHead beginsQuoted quoted scalar)) := by
  funext text
  cases text with
  | nil => rfl
  | cons first rest =>
      by_cases bracket : first = '['
      · subst bracket
        simp only [valueWithin?, ifHead, select, mark_apply]
        cases itemsWithin? bound rest <;> rfl
      · by_cases brace : first = '{'
        · subst brace
          simp only [valueWithin?, ifHead, select, mark_apply]
          cases entriesWithin? bound rest with
          | none => rfl
          | some found =>
              obtain ⟨entries, rest⟩ := found
              cases assigned : assignAll? entries [] with
              | none => simp [assigned]
              | some members => simp [assigned]
        · rw [valueWithin?.eq_4 _ _ (fun _ same => bracket (List.cons.inj same).1)
            (fun _ same => brace (List.cons.inj same).1)]
          rw [ifHead_other (by simpa using bracket), ifHead_other (by simpa using brace)]
          by_cases double : first = '"'
          · subst double
            simp only [ifHead, quoted]
            cases quotation? ('"' :: rest) <;> rfl
          · by_cases single : first = '\''
            · subst single
              simp only [ifHead, quoted]
              cases quotation? ('\'' :: rest) <;> rfl
            · have unquoted : beginsQuoted (some first) = false := by
                simp [beginsQuoted, double, single]
              rw [ifHead_neg unquoted, scalar]
              split
              case h_1 same => exact absurd (Option.some_inj.mp same) double
              case h_2 same => exact absurd (Option.some_inj.mp same) single
              case h_3 => cases scalarRest? (first :: rest) <;> rfl

theorem keyWithin?_succ (bound : Nat) :
    keyWithin? (bound + 1) =
      (seq name? (blanks.andThen (ifHead (· == some '.')
        (((mark '.').andThen (blanks.andThen (keyWithin? bound))).select fun key => some (some key))
        (yield none)))).select fun pair => some (match pair.2 with
          | some key => ⟨pair.1 :: key.steps, key.name⟩
          | none => ⟨[], pair.1⟩) := by
  funext text
  simp only [keyWithin?, seq, select]
  cases name? text with
  | none => rfl
  | some found =>
      obtain ⟨name, rest⟩ := found
      simp only [blanks_apply, bind, Option.bind]
      by_cases point : (skipBlanks rest).head? = some '.'
      · obtain ⟨behind, same⟩ := List.head?_eq_some_iff.mp point
        simp only [same, ifHead_mark, select, mark_apply, blanks_apply]
        cases keyWithin? bound (skipBlanks behind) <;> rfl
      · rw [ifHead_other point]
        split
        case h_1 same => simp [same] at point
        case h_2 => rfl

theorem lineBreak_eq (text : List Char) :
    lineBreak text = (match text with
      | [] => some []
      | '\n' :: rest => some rest
      | '\r' :: '\n' :: rest => some rest
      | _ => none).map ((), ·) := by
  fun_cases Reader.lineBreak text with
  | case1 | case2 | case3 => rfl
  | case4 _ notEmpty notFeed notBreak =>
      split
      case h_1 => exact (notEmpty rfl).elim
      case h_2 rest => exact (notFeed rest rfl).elim
      case h_3 rest => exact (notBreak rest rfl).elim
      case h_4 => rfl

/-- What is left behind blanks and a comment is a line break. -/
theorem lineEnd_apply (text : List Char) :
    lineEnd text = lineBreak (if (skipBlanks text).head? == some '#' then
      (skipBlanks text).dropWhile isPlain else skipBlanks text) :=
  (lineBreak_eq _).symm

theorem lineEnd_eq :
    lineEnd = blanks.andThen ((ifHead (· == some '#') comment (yield ())).andThen lineBreak) := by
  funext text
  rw [lineEnd_apply, blanks_apply, andThen_apply, ifHead]
  split <;> rfl

theorem statement?_eq :
    statement? =
      ifHead (· == some '[')
        (((mark '[').andThen (ifHead (· == some '[') fail
          (blanks.andThen (seq key? (blanks.andThen ((mark ']').andThen lineEnd)))))).select
            fun pair => some (.header pair.1))
        ((seq (field value?) lineEnd).select fun pair => some (.entry pair.1.1 pair.1.2)) := by
  funext text
  by_cases bracket : text.head? = some '['
  · obtain ⟨behind, rfl⟩ := List.head?_eq_some_iff.mp bracket
    rw [ifHead_mark, select, mark_apply]
    by_cases double : behind.head? = some '['
    · obtain ⟨behind, rfl⟩ := List.head?_eq_some_iff.mp double
      rfl
    · rw [ifHead_other double, blanks_apply, seq,
        statement?.eq_2 _ fun rest same => double (by rw [same]; rfl)]
      cases key? (skipBlanks behind) with
      | none => rfl
      | some found =>
          obtain ⟨key, rest⟩ := found
          simp only [Option.bind_some, blanks_apply]
          by_cases closed : (skipBlanks rest).head? = some ']'
          · obtain ⟨behind, same⟩ := List.head?_eq_some_iff.mp closed
            simp only [same, mark_apply, lineEnd, bind, Option.bind]
            cases lineEnd? behind <;> rfl
          · rw [mark_apply_none _ closed]
            simp only [bind, Option.bind]
            split
            case h_1 same => simp [same] at closed
            case h_2 => rfl
  · rw [ifHead_other bracket, statement?.eq_3 _ (fun rest same => bracket (by rw [same]; rfl))
      (fun rest same => bracket (by rw [same]; rfl)), select, seq, Option.bind_assoc, field_bind]
    refine congrArg _ (funext fun ⟨key, rest⟩ => ?_)
    dsimp only
    split
    case h_1 rest sign =>
      rw [sign, if_pos List.head?_cons]
      refine congrArg (Option.bind _) (funext fun ⟨value, rest⟩ => ?_)
      rw [lineEnd]
      cases lineEnd? rest <;> rfl
    case h_2 noSign => rw [if_neg (head?_ne_of_forall noSign)]

/-- The statements of a whole text. -/
def statements (bound : Nat) : Reader (List Statement) := fun text =>
  (statementsWithin? bound text).map (·, [])

theorem statements_succ (bound : Nat) :
    statements (bound + 1) =
      layout.andThen (ifHead Option.isNone (yield [])
        ((seq statement? (statements bound)).select fun pair => some (pair.1 :: pair.2))) := by
  funext text
  rw [layout_apply, statements, statementsWithin?]
  cases skipLayout? false text with
  | none => rfl
  | some text =>
      cases text with
      | nil => rfl
      | cons first rest =>
          simp only [Option.bind_some, ifHead, List.head?_cons, Option.isNone_some,
            Bool.false_eq_true, if_false, select, seq]
          simp only [bind, Option.bind]
          cases statement? (first :: rest) with
          | none => rfl
          | some found =>
              obtain ⟨statement, rest⟩ := found
              simp only [statements]
              cases statementsWithin? bound rest <;> rfl

end ResponsesBridge.Toml
