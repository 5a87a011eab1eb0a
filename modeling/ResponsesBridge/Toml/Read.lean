import ResponsesBridge.Toml.Quotation
import ResponsesBridge.Toml.Scalar
import ResponsesBridge.Toml.Table

/-!
# Reading TOML

A document is a sequence of headers and of entries, each on a line of its own. The reader knows
all of TOML but arrays of tables, which no settings have.
-/

set_option autoImplicit false

namespace ResponsesBridge.Toml

/-! ## Between the words -/

/-- A text from its first character that is not a blank of its line. -/
def skipBlanks (text : List Char) : List Char :=
  text.dropWhile isLineBlank

/-- A text from its first character that is neither blank nor line break nor part of a comment;
the flag tells whether the text begins inside a comment. -/
def skipLayout? : Bool → List Char → Option (List Char)
  | _, [] => some []
  | _, '\n' :: text => skipLayout? false text
  | _, '\r' :: '\n' :: text => skipLayout? false text
  | true, character :: text => if isPlain character then skipLayout? true text else none
  | false, '#' :: text => skipLayout? true text
  | false, character :: text =>
    if isLineBlank character then skipLayout? false text else some (character :: text)

/-- The text behind a line of which only blanks and a comment may be left. -/
def lineEnd? (text : List Char) : Option (List Char) :=
  let text := skipBlanks text
  let text := if text.head? == some '#' then text.dropWhile isPlain else text
  match text with
  | [] => some []
  | '\n' :: rest => some rest
  | '\r' :: '\n' :: rest => some rest
  | _ => none

/-! ## Keys -/

/-- The characters of names without quotes. -/
def isNameChar (character : Char) : Bool :=
  character.isAlphanum || character == '-' || character == '_'

/-- A name at the beginning of a text, and the rest. -/
def name? (text : List Char) : Option (String × List Char) :=
  let name := text.takeWhile isNameChar
  if name.isEmpty then do
    let (content, rest) ← lineQuotation? text
    return (String.ofList content, rest)
  else some (String.ofList name, text.dropWhile isNameChar)

/-- A key at the beginning of a text, and the rest; the first argument bounds its names. -/
def keyWithin? : Nat → List Char → Option (Key × List Char)
  | 0, _ => none
  | bound + 1, text => do
    let (name, rest) ← name? text
    match skipBlanks rest with
    | '.' :: rest =>
      let (key, rest) ← keyWithin? bound (skipBlanks rest)
      return (⟨name :: key.steps, key.name⟩, rest)
    | rest => return (⟨[], name⟩, rest)

/-- A key at the beginning of a text, and the rest. -/
def key? (text : List Char) : Option (Key × List Char) :=
  keyWithin? text.length text

/-! ## Values -/

mutual

/-- A value at the beginning of a text, and the rest. The first argument bounds the recursion, here
and in the next two definitions. -/
def valueWithin? : Nat → List Char → Option (Entry × List Char)
  | 0, _ => none
  | bound + 1, '[' :: text => do
    let (items, rest) ← itemsWithin? bound text
    return (.array items, rest)
  | bound + 1, '{' :: text => do
    let (entries, rest) ← entriesWithin? bound text
    return (.table .braces (← assignAll? entries []), rest)
  | _ + 1, text =>
    match text.head? with
    | some '"' => do
      let (content, rest) ← quotation? text
      return (.text (String.ofList content), rest)
    | some '\'' => do
      let (content, rest) ← quotation? text
      return (.text (String.ofList content), rest)
    | _ => do return (.scalar, ← scalarRest? text)

/-- The items of an array behind its bracket or behind a comma, and the rest. -/
def itemsWithin? : Nat → List Char → Option (List Entry × List Char)
  | 0, _ => none
  | bound + 1, text => do
    match ← skipLayout? false text with
    | ']' :: rest => return ([], rest)
    | text =>
      let (item, rest) ← valueWithin? bound text
      match ← skipLayout? false rest with
      | ',' :: rest =>
        let (items, rest) ← itemsWithin? bound rest
        return (item :: items, rest)
      | ']' :: rest => return ([item], rest)
      | _ => none

/-- The entries between braces, behind the brace or behind a comma, and the rest. -/
def entriesWithin? : Nat → List Char → Option (List (Key × Entry) × List Char)
  | 0, _ => none
  | bound + 1, text => do
    match ← skipLayout? false text with
    | '}' :: rest => return ([], rest)
    | text =>
      let (key, rest) ← key? text
      match skipBlanks rest with
      | '=' :: rest =>
        let (value, rest) ← valueWithin? bound (skipBlanks rest)
        match ← skipLayout? false rest with
        | ',' :: rest =>
          let (entries, rest) ← entriesWithin? bound rest
          return ((key, value) :: entries, rest)
        | '}' :: rest => return ([(key, value)], rest)
        | _ => none
      | _ => none

end

/-- A value at the beginning of a text, and the rest. Each character leads at most two levels
down. -/
def value? (text : List Char) : Option (Entry × List Char) :=
  valueWithin? (2 * text.length + 2) text

/-! ## Documents -/

/-- A line of a document. -/
inductive Statement
  | header (key : Key)
  | entry (key : Key) (value : Entry)

/-- A statement at the beginning of a text, and the text behind its line. -/
def statement? : List Char → Option (Statement × List Char)
  | '[' :: '[' :: _ => none
  | '[' :: text => do
    let (key, rest) ← key? (skipBlanks text)
    match skipBlanks rest with
    | ']' :: rest => return (.header key, ← lineEnd? rest)
    | _ => none
  | text => do
    let (key, rest) ← key? text
    match skipBlanks rest with
    | '=' :: rest =>
      let (value, rest) ← value? (skipBlanks rest)
      return (.entry key value, ← lineEnd? rest)
    | _ => none

/-- The statements of a text, at most as many as the first argument says. -/
def statementsWithin? : Nat → List Char → Option (List Statement)
  | 0, _ => none
  | bound + 1, text => do
    match ← skipLayout? false text with
    | [] => return []
    | text =>
      let (statement, rest) ← statement? text
      return statement :: (← statementsWithin? bound rest)

/-- The entries in front of the first header, and the sections behind it. -/
def sections : List Statement → List (Key × Entry) × List Section
  | [] => ([], [])
  | .entry key value :: statements =>
    let (entries, parts) := sections statements
    ((key, value) :: entries, parts)
  | .header key :: statements =>
    let (entries, parts) := sections statements
    ([], ⟨key, entries⟩ :: parts)

/-- A text without the byte order mark at its beginning. -/
def withoutMark : List Char → List Char
  | '\uFEFF' :: text => text
  | text => text

/-- **The table of a document.** -/
def document? (text : String) : Option Table := do
  let text := withoutMark text.toList
  let statements ← statementsWithin? (text.length + 1) text
  let (entries, parts) := sections statements
  openAll? parts (← assignAll? entries [])

end ResponsesBridge.Toml
