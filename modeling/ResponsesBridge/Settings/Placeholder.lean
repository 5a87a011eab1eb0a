import ResponsesBridge.Text.Blank
import ResponsesBridge.Text.Utf8

/-!
# Placeholders for environment variables

A text of settings may name environment variables between double braces, with or without a
default in quotes behind a bar. Expansion works line by line. Lines that are comments are kept
as they are, so a setting that is commented out may name a variable that is not set. What is
put in place of a placeholder is not looked at again.

A line is first cut into pieces (`pieces`): single characters that stand for themselves, and
placeholders, found from the left.
-/

set_option autoImplicit false

namespace ResponsesBridge.Settings

open Text (isBlankChar trimStart)

/-- The values of the variables that can be read. -/
abbrev Environment := String → Option String

/-- The environment of variables given as octets. The first entry of a name counts, and a value
that is no text counts as not set. -/
def Environment.ofOctets (assignments : List (String × List UInt8)) : Environment := fun name => do
  let entry ← assignments.find? fun entry => entry.1 == name
  let value ← Text.Utf8.decode? entry.2
  return String.ofList value

/-- A placeholder: the key between the braces, and the default. -/
structure Placeholder where
  key : String
  fallback : Option String
deriving DecidableEq, Repr

/-! ## Finding placeholders -/

/-- The letters of keys. -/
def isKeyChar (character : Char) : Bool :=
  character.isAlphanum || character == '_' || character == '.'

/-- The rest behind an expected beginning. -/
def after? : List Char → List Char → Option (List Char)
  | [], text => some text
  | _ :: _, [] => none
  | expected :: beginning, character :: text =>
    if character = expected then after? beginning text else none

/-- A default behind the bar: a quoted text without quotes inside, in the brackets of the word
`default`; and the rest. -/
def default? (text : List Char) : Option (String × List Char) := do
  let text ← after? "default(\"".toList (trimStart text)
  let rest ← after? "\")".toList (text.dropWhile fun character => character != '"')
  return (String.ofList (text.takeWhile fun character => character != '"'), trimStart rest)

/-- A placeholder at the beginning of a text, and the rest behind it. -/
def placeholder? (text : List Char) : Option (Placeholder × List Char) := do
  let text ← after? ['{', '{'] text
  let text := trimStart text
  let key := text.takeWhile isKeyChar
  if key.isEmpty then none
  else
    let (fallback, rest) ← match trimStart (text.dropWhile isKeyChar) with
      | '|' :: rest => do
        let (value, rest) ← default? rest
        pure (some value, rest)
      | rest => pure (none, rest)
    let rest ← after? ['}', '}'] rest
    return (⟨String.ofList key, fallback⟩, rest)

/-- A piece of a line. -/
inductive Piece
  | character (value : Char)
  | placeholder (value : Placeholder)
deriving DecidableEq, Repr

/-- The pieces of a line of which the first so many characters belong to a placeholder that has
been found. -/
def piecesBehind : Nat → List Char → List Piece
  | _, [] => []
  | skipped + 1, _ :: text => piecesBehind skipped text
  | 0, character :: text =>
    match placeholder? (character :: text) with
    | some (placeholder, rest) =>
      .placeholder placeholder :: piecesBehind (text.length - rest.length) text
    | none => .character character :: piecesBehind 0 text

/-- The pieces of a line. -/
def pieces (line : List Char) : List Piece :=
  piecesBehind 0 line

/-! ## Expansion -/

/-- Why a text cannot be expanded; lines are counted from one. -/
inductive ExpansionError
  | notSet (name : String) (line : Nat)
  | unsupportedKey (key : String) (line : Nat)
deriving DecidableEq, Repr

/-- The message of an error. -/
def ExpansionError.message : ExpansionError → String
  | .notSet name line =>
    "environment variable `" ++ name ++ "` is not set (line " ++ toString line ++ ")"
  | .unsupportedKey key line =>
    "unsupported placeholder `" ++ key ++ "` on line " ++ toString line
      ++ "; only `env.NAME` is allowed"

/-- The variable that a key names: the key is `env.` and the name, which is not empty and has no
dot. -/
def environmentName? (key : String) : Option String := do
  let name ← after? "env.".toList key.toList
  if name.isEmpty || name.contains '.' then none else some (String.ofList name)

/-- What is put in place of a placeholder. -/
def resolve (environment : Environment) (line : Nat) (placeholder : Placeholder) :
    Except ExpansionError String :=
  match environmentName? placeholder.key with
  | none => .error (.unsupportedKey placeholder.key line)
  | some name =>
    match environment name, placeholder.fallback with
    | some value, _ => .ok value
    | none, some fallback => .ok fallback
    | none, none => .error (.notSet name line)

/-- The text of pieces. -/
def expandPieces (environment : Environment) (line : Nat) :
    List Piece → Except ExpansionError (List Char)
  | [] => .ok []
  | .character value :: pieces => do
    let rest ← expandPieces environment line pieces
    return value :: rest
  | .placeholder placeholder :: pieces => do
    let value ← resolve environment line placeholder
    let rest ← expandPieces environment line pieces
    return value.toList ++ rest

/-- Whether a line is a comment: its first character that is not white space is `#`. -/
def isComment (line : List Char) : Bool :=
  (trimStart line).head? == some '#'

/-- A line with its placeholders replaced. -/
def expandLine (environment : Environment) (number : Nat) (line : List Char) :
    Except ExpansionError (List Char) :=
  if isComment line then .ok line else expandPieces environment number (pieces line)

/-- The lines of a text, each with the line feed that ends it. -/
def lines : List Char → List (List Char)
  | [] => []
  | character :: text =>
    if character = '\n' then ['\n'] :: lines text
    else
      match lines text with
      | [] => [[character]]
      | line :: later => (character :: line) :: later

/-- The text of lines of which the first has this number. -/
def expandLines (environment : Environment) :
    Nat → List (List Char) → Except ExpansionError (List Char)
  | _, [] => .ok []
  | number, line :: later => do
    let first ← expandLine environment number line
    let rest ← expandLines environment (number + 1) later
    return first ++ rest

/-- **Expansion of a text.** -/
def expand (environment : Environment) (text : String) : Except ExpansionError String := do
  let expanded ← expandLines environment 1 (lines text.toList)
  return String.ofList expanded

end ResponsesBridge.Settings
