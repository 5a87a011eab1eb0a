import ResponsesBridge.Text.Hex

/-!
# Quotations of TOML

A text stands between double quotes, where a backslash begins an escape, or between single quotes,
where nothing does. Three quotes of either kind enclose a text of several lines.
-/

set_option autoImplicit false

namespace ResponsesBridge.Toml

/-- Whether a character may stand in a quotation of one line: no control character but the tab. -/
def isPlain (character : Char) : Bool :=
  character == '\t' || (0x20 ≤ character.toNat && character.toNat != 0x7F)

/-- The character of an escape of one letter. -/
def escaped? : Char → Option Char
  | 'b' => some '\x08'
  | 't' => some '\t'
  | 'n' => some '\n'
  | 'f' => some '\x0c'
  | 'r' => some '\r'
  | 'e' => some '\x1b'
  | '"' => some '"'
  | '\\' => some '\\'
  | _ => none

/-- The number of digits of an escape by code point. -/
def escapeWidth? : Char → Option Nat
  | 'x' => some 2
  | 'u' => some 4
  | 'U' => some 8
  | _ => none

/-- The character of a code point in hexadecimal digits. -/
def codePoint? (digits : List Char) : Option Char := do
  let point ← digits.foldlM (fun value digit => do return value * 16 + (← Text.hexValue? digit)) 0
  if point.isValidChar then some (Char.ofNat point) else none

/-- The character of an escape behind its backslash, and the number of characters it takes. -/
def escape? : List Char → Option (Char × Nat)
  | [] => none
  | letter :: text =>
    match escapeWidth? letter with
    | some width =>
      if (text.take width).length = width then do
        return (← codePoint? (text.take width), width + 1)
      else none
    | none => do return (← escaped? letter, 1)

/-! ## One line -/

/-- The content of a quotation behind its opening double quote, and the rest behind the closing
one; the first argument tells how many characters still belong to an escape. -/
def basic? : Nat → List Char → Option (List Char × List Char)
  | _, [] => none
  | skipped + 1, _ :: text => basic? skipped text
  | 0, '"' :: text => some ([], text)
  | 0, '\\' :: text => do
    let (character, width) ← escape? text
    let (content, rest) ← basic? width text
    return (character :: content, rest)
  | 0, character :: text =>
    if isPlain character then do
      let (content, rest) ← basic? 0 text
      return (character :: content, rest)
    else none

/-- The content of a quotation behind its opening single quote, and the rest. -/
def literal? : List Char → Option (List Char × List Char)
  | [] => none
  | '\'' :: text => some ([], text)
  | character :: text =>
    if isPlain character then do
      let (content, rest) ← literal? text
      return (character :: content, rest)
    else none

/-! ## Several lines -/

/-- A text without the line break at its beginning. -/
def withoutBreak : List Char → List Char
  | '\n' :: text => text
  | '\r' :: '\n' :: text => text
  | text => text

/-- Whether a text begins with three quotes of a kind. -/
def closes (quote : Char) (text : List Char) : Bool :=
  text.take 3 == [quote, quote, quote]

/-- What a text that begins with three quotes adds to the content, and the rest: up to two quotes
may stand in front of the closing three. -/
def closing (quote : Char) (text : List Char) : List Char × List Char :=
  let extra := min 2 ((text.takeWhile (· == quote)).length - 3)
  (List.replicate extra quote, text.drop (3 + extra))

/-- Whether a character is a blank of a line. -/
def isLineBlank (character : Char) : Bool := character == ' ' || character == '\t'

/-- The number of blanks and line breaks at the beginning of a text. -/
def layoutLength : List Char → Nat
  | '\n' :: text => layoutLength text + 1
  | '\r' :: '\n' :: text => layoutLength text + 2
  | character :: text => if isLineBlank character then layoutLength text + 1 else 0
  | [] => 0

/-- The number of characters that a backslash at the end of a line swallows: the line break and
all blanks and line breaks behind it. -/
def swallowed? (text : List Char) : Option Nat :=
  let behind := text.dropWhile isLineBlank
  if behind.head? == some '\n' || behind.take 2 == ['\r', '\n'] then some (layoutLength text)
  else none

/-- Whether a text begins with a line break or a character that may stand in a quotation. -/
def isMultiPlain : List Char → Bool
  | '\n' :: _ => true
  | '\r' :: '\n' :: _ => true
  | character :: _ => isPlain character
  | [] => false

/-- The content of a quotation of several lines behind its opening double quotes, and the rest. -/
def multiBasic? : Nat → List Char → Option (List Char × List Char)
  | _, [] => none
  | skipped + 1, _ :: text => multiBasic? skipped text
  | 0, '\\' :: text =>
    match swallowed? text with
    | some width => multiBasic? width text
    | none => do
      let (character, width) ← escape? text
      let (content, rest) ← multiBasic? width text
      return (character :: content, rest)
  | 0, character :: text =>
    if closes '"' (character :: text) then some (closing '"' (character :: text))
    else if isMultiPlain (character :: text) then do
      let (content, rest) ← multiBasic? 0 text
      return (character :: content, rest)
    else none

/-- The content of a quotation of several lines behind its opening single quotes, and the rest. -/
def multiLiteral? : List Char → Option (List Char × List Char)
  | [] => none
  | character :: text =>
    if closes '\'' (character :: text) then some (closing '\'' (character :: text))
    else if isMultiPlain (character :: text) then do
      let (content, rest) ← multiLiteral? text
      return (character :: content, rest)
    else none

/-- A quotation at the beginning of a text, and the rest. -/
def quotation? : List Char → Option (List Char × List Char)
  | '"' :: '"' :: '"' :: text => multiBasic? 0 (withoutBreak text)
  | '\'' :: '\'' :: '\'' :: text => multiLiteral? (withoutBreak text)
  | '"' :: text => basic? 0 text
  | '\'' :: text => literal? text
  | _ => none

/-- A quotation of one line at the beginning of a text, and the rest. -/
def lineQuotation? : List Char → Option (List Char × List Char)
  | '"' :: '"' :: '"' :: _ => none
  | '\'' :: '\'' :: '\'' :: _ => none
  | '"' :: text => basic? 0 text
  | '\'' :: text => literal? text
  | _ => none

end ResponsesBridge.Toml
