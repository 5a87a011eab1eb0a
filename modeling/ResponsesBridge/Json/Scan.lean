import ResponsesBridge.Json.Node
import ResponsesBridge.Text.Utf8

/-!
# Reading JSON texts

`scan` turns a text into the node that it begins with and the rest behind that node; `readText`
lets a reader walk over that node and then wants nothing but blanks behind it. The grammar is
strict: four blank characters, no byte order mark, no control characters inside quotations.

The text is given as glyphs, so that octets that belong to no character can be read too: outside
quotations they are malformed, inside a quotation they spoil its content.

Numbers without point and exponent that fit 64 bits, signed or unsigned, are integers; all others,
and minus zero, are floating-point numbers. Their digits are carried in an unsigned 64-bit
significand, and the digits that no longer fit only count as places.
-/

set_option autoImplicit false

namespace ResponsesBridge.Json

open ResponsesBridge.Text.Utf8 (Glyph glyphs)

/-- The four blank characters of JSON. -/
def isSpace : Glyph → Bool
  | some ' ' => true
  | some '\t' => true
  | some '\n' => true
  | some '\r' => true
  | _ => false

/-- The text from its first character that is not blank. -/
def skipSpace (text : List Glyph) : List Glyph :=
  text.dropWhile isSpace

/-- The value of a decimal digit. -/
def digit? : Glyph → Option Nat
  | some character =>
    if '0' ≤ character ∧ character ≤ '9' then some (character.toNat - '0'.toNat) else none
  | none => none

/-- The value of a hexadecimal digit, in either case. -/
def hexDigit? (glyph : Glyph) : Option Nat :=
  glyph.bind Text.hexValue?

/-! ## Words -/

/-- The rest behind a word whose first letter has been read, or the fault where it is missed. -/
def afterWord : List Char → List Glyph → Except Fault (List Glyph)
  | [], text => .ok text
  | _ :: _, [] => .error .ended
  | expected :: word, glyph :: text =>
    if glyph = some expected then afterWord word text else .error .malformed

/-- The node of a word. -/
def scanWord (start : Start) (node : Node) (word : List Char) (text : List Glyph) :
    Node × List Glyph :=
  match afterWord word text with
  | .ok rest => (node, rest)
  | .error fault => (.broken start fault fault, [])

/-! ## Quotations -/

/-- The code unit of four hexadecimal digits. -/
def codeUnit? (first second third fourth : Glyph) : Option Nat := do
  let first ← hexDigit? first
  let second ← hexDigit? second
  let third ← hexDigit? third
  let fourth ← hexDigit? fourth
  return ((first * 16 + second) * 16 + third) * 16 + fourth

/-- The number of octets of a glyph. -/
def glyphSize : Glyph → Nat
  | some character => character.utf8Size
  | none => 1

/-- The fault of an escape that wants four digits from a text of fewer glyphs: four octets that
are no digits are malformed, fewer than four octets end the text. -/
def shortEscape (text : List Glyph) : Fault :=
  if text.foldl (fun octets glyph => octets + glyphSize glyph) 0 < 4 then .ended else .malformed

/-- The character of an escape of one letter. -/
def escaped? : Glyph → Option Char
  | some '"' => some '"'
  | some '\\' => some '\\'
  | some '/' => some '/'
  | some 'b' => some '\x08'
  | some 'f' => some '\x0c'
  | some 'n' => some '\n'
  | some 'r' => some '\r'
  | some 't' => some '\t'
  | _ => none

/-- A control character, which no quotation may hold as such. -/
def isControl (character : Char) : Bool :=
  character.toNat < 0x20

/-- One more character in front of the content of a quotation. -/
def prepend (character : Char) :
    Except Fault (List Char × List Glyph) → Except Fault (List Char × List Glyph)
  | .ok (content, rest) => .ok (character :: content, rest)
  | .error fault => .error fault

/-- The content of a quotation whose opening quote has been read, and the rest behind its closing
quote. Two code units of a surrogate pair make one character; a surrogate alone is malformed. The
flag tells whether all glyphs so far were characters: if not, the quotation has no content. -/
def readQuotation : Bool → List Glyph → Except Fault (List Char × List Glyph)
  | _, [] => .error .ended
  | clean, some '"' :: rest => if clean then .ok ([], rest) else .error .malformed
  | clean, some '\\' :: some 'u' :: a :: b :: c :: d :: rest =>
    match codeUnit? a b c d with
    | none => .error .malformed
    | some unit =>
      if 0xDC00 ≤ unit ∧ unit ≤ 0xDFFF then .error .malformed
      else if 0xD800 ≤ unit ∧ unit ≤ 0xDBFF then
        match rest with
        | some '\\' :: some 'u' :: e :: f :: g :: h :: rest =>
          match codeUnit? e f g h with
          | none => .error .malformed
          | some second =>
            if 0xDC00 ≤ second ∧ second ≤ 0xDFFF then
              prepend (Char.ofNat (0x10000 + (unit - 0xD800) * 0x400 + (second - 0xDC00)))
                (readQuotation clean rest)
            else .error .malformed
        | some '\\' :: some 'u' :: short => .error (shortEscape short)
        | [] => .error .ended
        | [some '\\'] => .error .ended
        | _ => .error .malformed
      else prepend (Char.ofNat unit) (readQuotation clean rest)
  | _, some '\\' :: some 'u' :: short => .error (shortEscape short)
  | clean, some '\\' :: letter :: rest =>
    match escaped? letter with
    | some character => prepend character (readQuotation clean rest)
    | none => .error .malformed
  | _, [some '\\'] => .error .ended
  | clean, some character :: rest =>
    if isControl character then .error .malformed
    else prepend character (readQuotation clean rest)
  | _, none :: rest => readQuotation false rest
termination_by structural _ text => text

/-- The rest behind a quotation that is only passed over: escapes must be escapes, but need not
name characters. -/
def skipQuotation : List Glyph → Except Fault (List Glyph)
  | [] => .error .ended
  | some '"' :: rest => .ok rest
  | some '\\' :: some 'u' :: a :: b :: c :: d :: rest =>
    match codeUnit? a b c d with
    | none => .error .malformed
    | some _ => skipQuotation rest
  | some '\\' :: some 'u' :: short => .error (shortEscape short)
  | some '\\' :: letter :: rest =>
    match escaped? letter with
    | some _ => skipQuotation rest
    | none => .error .malformed
  | [some '\\'] => .error .ended
  | some character :: rest =>
    if isControl character then .error .malformed else skipQuotation rest
  | none :: rest => skipQuotation rest
termination_by structural text => text

/-- The content of a quotation as a text. -/
def quotationContent (text : List Glyph) : Except Fault String :=
  match readQuotation true text with
  | .ok (content, _) => .ok (String.ofList content)
  | .error fault => .error fault

/-- The node of a quotation whose opening quote has been read. -/
def scanQuotation (text : List Glyph) : Node × List Glyph :=
  match quotationContent text, skipQuotation text with
  | content, .ok rest => (.text content, rest)
  | .ok _, .error skipped => (.broken .quotation skipped skipped, [])
  | .error wanted, .error skipped => (.broken .quotation wanted skipped, [])

/-! ## Numbers -/

/-- The decimal digits at the beginning of a text. -/
def leadingDigits : List Glyph → List Nat × List Glyph
  | [] => ([], [])
  | glyph :: text =>
    match digit? glyph with
    | some value =>
      let (values, rest) := leadingDigits text
      (value :: values, rest)
    | none => ([], glyph :: text)

/-- Digits added to a significand while it stays within its limit, and how many of them were. -/
def carry : Nat → List Nat → Nat × Nat
  | significand, [] => (significand, 0)
  | significand, value :: values =>
    if significand * 10 + value ≤ Decimal.significandLimit then
      let (result, count) := carry (significand * 10 + value) values
      (result, count + 1)
    else (significand, 0)

/-- The number that digits in decimal notation denote. -/
def ofDigits (values : List Nat) : Nat :=
  values.foldl (fun number value => number * 10 + value) 0

/-- The parts of a number: its digits before the point, those after it if there is a point, and
its power of ten if there is one. -/
structure Numeral where
  negative : Bool
  whole : List Nat
  fraction : Option (List Nat)
  power : Option Int
deriving DecidableEq, Repr

/-- The number of a numeral, or nothing if it exceeds the finite numbers. -/
def Numeral.number? (numeral : Numeral) : Option Number :=
  let (whole, carried) := carry 0 numeral.whole
  let dropped := numeral.whole.length - carried
  match numeral.fraction, numeral.power with
  | none, none =>
    if dropped = 0 ∧ ¬ numeral.negative then some (.integer whole)
    else if dropped = 0 ∧ 0 < whole ∧ whole ≤ UInt64.size / 2 then some (.integer (-whole))
    else (Double.ofDecimal? numeral.negative whole dropped).map .real
  | fraction, power =>
    let (significand, places) := carry whole (fraction.getD [])
    (Double.ofDecimal? numeral.negative significand
      ((dropped : Int) - places + power.getD 0)).map .real

/-- A number that breaks off: readers that want it tell the end of the text from other faults,
readers that pass over it do not. -/
def brokenNumber (text : List Glyph) : Node × List Glyph :=
  (.broken .word (if text = [] then .ended else .malformed) .malformed, [])

/-- The exponent of a number behind its letter, and the rest. -/
def scanPower (numeral : Numeral) (text : List Glyph) : Node × List Glyph :=
  let (negative, text) := match text with
    | some '+' :: rest => (false, rest)
    | some '-' :: rest => (true, rest)
    | _ => (false, text)
  match leadingDigits text with
  | ([], rest) => brokenNumber rest
  | (values, rest) =>
    let power : Int := if negative then -(ofDigits values : Int) else ofDigits values
    (.number { numeral with power := some power }.number?, rest)

/-- What may follow the digits of a number: an exponent or nothing. -/
def scanAfterDigits (numeral : Numeral) (text : List Glyph) : Node × List Glyph :=
  match text with
  | some 'e' :: rest => scanPower numeral rest
  | some 'E' :: rest => scanPower numeral rest
  | _ => (.number numeral.number?, text)

/-- What may follow the whole part of a number: a fraction, an exponent or nothing. -/
def scanAfterWhole (numeral : Numeral) (text : List Glyph) : Node × List Glyph :=
  match text with
  | some '.' :: rest =>
    match leadingDigits rest with
    | ([], rest) => brokenNumber rest
    | (values, rest) => scanAfterDigits { numeral with fraction := some values } rest
  | _ => scanAfterDigits numeral text

/-- A number behind its sign. A zero stands alone before the point. -/
def scanNumber (negative : Bool) (text : List Glyph) : Node × List Glyph :=
  match leadingDigits text with
  | ([], rest) => brokenNumber rest
  | (0 :: _ :: _, _) => (.broken .word .malformed .malformed, [])
  | (values, rest) => scanAfterWhole ⟨negative, values, none, none⟩ rest

/-! ## Values -/

/-- An array that `depth` arrays and objects enclose, itself included. -/
def arrayAt (depth : Nat) (items : Items) : Node :=
  .array (if depth ≤ depthLimit then items else .tooDeep items)

/-- An object that `depth` arrays and objects enclose, itself included. -/
def objectAt (depth : Nat) (members : Members) : Node :=
  .object (if depth ≤ depthLimit then members else .tooDeep members)

/-- The node of a place where the text ends. -/
def ended : Node := .broken .nothing .ended .ended

/-- The node of a place where no value begins. -/
def stray : Node := .broken .nothing .malformed .malformed

mutual

/-- The node at the beginning of a text, and the rest behind it. The first argument bounds the
recursion, the second is the number of arrays and objects around the node. -/
def scanValue : Nat → Nat → List Glyph → Node × List Glyph
  | 0, _, _ => (ended, [])
  | bound + 1, depth, text =>
    match skipSpace text with
    | [] => (ended, [])
    | some 'n' :: rest => scanWord .nullWord .null ['u', 'l', 'l'] rest
    | some 't' :: rest => scanWord .word (.boolean true) ['r', 'u', 'e'] rest
    | some 'f' :: rest => scanWord .word (.boolean false) ['a', 'l', 's', 'e'] rest
    | some '"' :: rest => scanQuotation rest
    | some '[' :: rest =>
      let (items, rest) := scanItems bound (depth + 1) rest
      (arrayAt (depth + 1) items, rest)
    | some '{' :: rest =>
      let (members, rest) := scanMembers bound (depth + 1) rest
      (objectAt (depth + 1) members, rest)
    | some '-' :: rest => scanNumber true rest
    | glyph :: rest =>
      match digit? glyph with
      | some _ => scanNumber false (glyph :: rest)
      | none => (stray, [])
termination_by structural bound => bound

/-- The items of an array behind its bracket. -/
def scanItems : Nat → Nat → List Glyph → Items × List Glyph
  | 0, _, _ => (.broken .ended, [])
  | bound + 1, depth, text =>
    match skipSpace text with
    | [] => (.broken .ended, [])
    | some ']' :: rest => (.finished, rest)
    | text =>
      let (head, rest) := scanValue bound depth text
      let (tail, rest) := scanMoreItems bound depth rest
      (.next head tail, rest)
termination_by structural bound => bound

/-- The items of an array behind one of them. -/
def scanMoreItems : Nat → Nat → List Glyph → Items × List Glyph
  | 0, _, _ => (.broken .ended, [])
  | bound + 1, depth, text =>
    match skipSpace text with
    | [] => (.broken .ended, [])
    | some ']' :: rest => (.finished, rest)
    | some ',' :: rest =>
      let (head, rest) := scanValue bound depth rest
      let (tail, rest) := scanMoreItems bound depth rest
      (.next head tail, rest)
    | _ => (.broken .malformed, [])
termination_by structural bound => bound

/-- The members of an object behind its brace. -/
def scanMembers : Nat → Nat → List Glyph → Members × List Glyph
  | 0, _, _ => (.broken .ended, [])
  | bound + 1, depth, text =>
    match skipSpace text with
    | [] => (.broken .ended, [])
    | some '}' :: rest => (.finished, rest)
    | some '"' :: rest => scanMember bound depth rest
    | text => (.noName (scanValue bound depth text).1, [])
termination_by structural bound => bound

/-- The members of an object behind one of them. -/
def scanMoreMembers : Nat → Nat → List Glyph → Members × List Glyph
  | 0, _, _ => (.broken .ended, [])
  | bound + 1, depth, text =>
    match skipSpace text with
    | [] => (.broken .ended, [])
    | some '}' :: rest => (.finished, rest)
    | some ',' :: rest =>
      match skipSpace rest with
      | [] => (.next (.error .ended) ended .finished, [])
      | some '"' :: rest => scanMember bound depth rest
      | text => (.noName (scanValue bound depth text).1, [])
    | _ => (.broken .malformed, [])
termination_by structural bound => bound

/-- A member and those behind it; the opening quote of its name has been read. -/
def scanMember : Nat → Nat → List Glyph → Members × List Glyph
  | 0, _, _ => (.broken .ended, [])
  | bound + 1, depth, text =>
    let name := quotationContent text
    match skipQuotation text with
    | .error skipped => (.next name (.broken .nothing skipped skipped) .finished, [])
    | .ok rest =>
      match skipSpace rest with
      | [] => (.next name ended .finished, [])
      | some ':' :: rest =>
        let (value, rest) := scanValue bound depth rest
        let (tail, rest) := scanMoreMembers bound depth rest
        (.next name value tail, rest)
      | _ => (.next name stray .finished, [])
termination_by structural bound => bound

end

/-- The node that a text begins with, and the rest behind it. Every step of the recursion but two
reads a character, so twice the length of the text and a few more bound it. -/
def scan (text : List Glyph) : Node × List Glyph :=
  scanValue (2 * text.length + 4) 0 text

/-- What a reader makes of a text: the reader walks over the node that the text begins with, and
then only blanks may follow. -/
def readGlyphs {α : Type} (read : Node → Except Fault α) (text : List Glyph) : Except Fault α :=
  let (node, rest) := scan text
  match read node with
  | .error fault => .error fault
  | .ok result => if skipSpace rest = [] then .ok result else .error .malformed

/-- What a reader makes of a text of characters. -/
def readText {α : Type} (read : Node → Except Fault α) (text : String) : Except Fault α :=
  readGlyphs read (text.toList.map some)

/-- What a reader makes of a text in UTF-8. -/
def readOctets {α : Type} (read : Node → Except Fault α) (octets : List UInt8) : Except Fault α :=
  readGlyphs read (glyphs octets)

end ResponsesBridge.Json
