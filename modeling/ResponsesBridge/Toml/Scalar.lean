/-!
# Scalars that are no texts

The grammar of truth values, numbers and dates in TOML. They are only recognized: their values
are of no interest here.
-/

set_option autoImplicit false

namespace ResponsesBridge.Toml

/-- The characters of scalars. -/
def isScalarChar (character : Char) : Bool :=
  character.isAlphanum || ['+', '-', '_', '.', ':'].contains character

/-- Digits of a class with single underscores between them. -/
def isDigitRun (isDigit : Char → Bool) : List Char → Bool
  | [] => false
  | [digit] => isDigit digit
  | digit :: '_' :: rest => isDigit digit && isDigitRun isDigit rest
  | digit :: rest => isDigit digit && isDigitRun isDigit rest

/-- The digits of base sixteen. -/
def isHexDigit (character : Char) : Bool :=
  character.isDigit || ('a' ≤ character && character ≤ 'f') || ('A' ≤ character && character ≤ 'F')

/-- The digits of base eight. -/
def isOctalDigit (character : Char) : Bool := '0' ≤ character && character ≤ '7'

/-- The digits of base two. -/
def isBinaryDigit (character : Char) : Bool := character == '0' || character == '1'

/-- The text behind a sign, if there is one. -/
def withoutSign : List Char → List Char
  | '+' :: rest => rest
  | '-' :: rest => rest
  | text => text

/-- A whole number in base ten without sign: no zero leads it. -/
def isPlainWhole (text : List Char) : Bool :=
  match text with
  | '0' :: _ :: _ => false
  | _ => isDigitRun Char.isDigit text

/-- A whole number; a base is marked by a letter behind a zero. -/
def isWhole : List Char → Bool
  | '0' :: 'x' :: digits => isDigitRun isHexDigit digits
  | '0' :: 'o' :: digits => isDigitRun isOctalDigit digits
  | '0' :: 'b' :: digits => isDigitRun isBinaryDigit digits
  | text => isPlainWhole (withoutSign text)

/-- An exponent behind its letter. -/
def isPower (text : List Char) : Bool :=
  isDigitRun Char.isDigit (withoutSign text)

/-- Whether a character marks an exponent. -/
def isPowerMark (character : Char) : Bool := character == 'e' || character == 'E'

/-- A number with a fraction, an exponent or both, or one of the two that are not finite. -/
def isReal (text : List Char) : Bool :=
  let text := withoutSign text
  let mantissa := text.takeWhile fun character => !isPowerMark character
  let whole := mantissa.takeWhile (· != '.')
  let power := text.dropWhile fun character => !isPowerMark character
  let powerHolds := power.isEmpty || isPower (power.drop 1)
  let fraction := mantissa.dropWhile (· != '.')
  text == ['i', 'n', 'f'] || text == ['n', 'a', 'n'] ||
    (isPlainWhole whole && powerHolds &&
      (if fraction.isEmpty then !power.isEmpty else isDigitRun Char.isDigit (fraction.drop 1)))

/-! ## Dates and times -/

/-- The number of exactly two digits. -/
def twoDigits? : List Char → Option Nat
  | [tens, ones] =>
    if tens.isDigit && ones.isDigit then
      some ((tens.toNat - '0'.toNat) * 10 + (ones.toNat - '0'.toNat))
    else none
  | _ => none

/-- Whether two digits denote a number in a range. -/
def isBetween (low high : Nat) (text : List Char) : Bool :=
  match twoDigits? text with
  | some value => low ≤ value && value ≤ high
  | none => false

/-- The number of days of a month. -/
def daysOf (year month : Nat) : Nat :=
  if month = 2 then
    if year % 4 = 0 ∧ (year % 100 ≠ 0 ∨ year % 400 = 0) then 29 else 28
  else if [4, 6, 9, 11].contains month then 30
  else 31

/-- A date: year, month and day. -/
def isDate : List Char → Bool
  | [a, b, c, d, '-', e, f, '-', g, h] =>
    match twoDigits? [a, b], twoDigits? [c, d], twoDigits? [e, f], twoDigits? [g, h] with
    | some century, some year, some month, some day =>
      1 ≤ month && month ≤ 12 && 1 ≤ day && day ≤ daysOf (century * 100 + year) month
    | _, _, _, _ => false
  | _ => false

/-- A time of day; the seconds may be left out, and may have a fraction. -/
def isTime : List Char → Bool
  | [a, b, ':', c, d] => isBetween 0 23 [a, b] && isBetween 0 59 [c, d]
  | a :: b :: ':' :: c :: d :: ':' :: e :: f :: rest =>
    isBetween 0 23 [a, b] && isBetween 0 59 [c, d] && isBetween 0 60 [e, f] &&
      match rest with
      | [] => true
      | '.' :: fraction => !fraction.isEmpty && fraction.all Char.isDigit
      | _ => false
  | _ => false

/-- The distance of a place from the standard time. -/
def isOffset : List Char → Bool
  | ['Z'] => true
  | ['z'] => true
  | [sign, a, b, ':', c, d] =>
    (sign == '+' || sign == '-') && isBetween 0 23 [a, b] && isBetween 0 59 [c, d]
  | _ => false

/-- A time with or without an offset. -/
def isPlacedTime (text : List Char) : Bool :=
  let isOffsetMark (character : Char) : Bool := ['Z', 'z', '+', '-'].contains character
  let time := text.takeWhile fun character => !isOffsetMark character
  let offset := text.dropWhile fun character => !isOffsetMark character
  isTime time && (offset.isEmpty || isOffset offset)

/-- A date and a time in one word. -/
def isDateTime (text : List Char) : Bool :=
  match text.drop 10 with
  | mark :: time => (mark == 'T' || mark == 't') && isDate (text.take 10) && isPlacedTime time
  | [] => false

/-- A scalar of one word. -/
def isScalar (text : List Char) : Bool :=
  text == ['t', 'r', 'u', 'e'] || text == ['f', 'a', 'l', 's', 'e'] || isWhole text ||
    isReal text || isDate text || isTime text || isDateTime text

/-- A scalar at the beginning of a text, and the rest behind it: a word, or a date and a time with
a space between them. -/
def scalarRest? (text : List Char) : Option (List Char) :=
  let word := text.takeWhile isScalarChar
  let rest := text.dropWhile isScalarChar
  if isDate word then
    match rest with
    | ' ' :: following =>
      if isPlacedTime (following.takeWhile isScalarChar) then
        some (following.dropWhile isScalarChar)
      else some rest
    | _ => some rest
  else if isScalar word then some rest
  else none

end ResponsesBridge.Toml
