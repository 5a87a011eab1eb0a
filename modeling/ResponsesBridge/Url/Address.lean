import ResponsesBridge.Text.Split
import ResponsesBridge.Url.Percent

/-!
# Numeric addresses

Addresses of 32 bits are written as up to four numbers with points between them, in base ten,
eight or sixteen; the last number fills all octets that are left. Addresses of 128 bits are eight
groups of hexadecimal digits with colons between them, where one run of zeros may be left out and
the last two groups may be written as an address of 32 bits.
-/

set_option autoImplicit false

namespace ResponsesBridge.Url

open Text (splitAt)

/-- The number of digits in a base, if all are digits of it. -/
def numberIn? (base : Nat) (digits : List Char) : Option Nat :=
  digits.foldlM
    (fun number digit => do
      let value ← Text.hexValue? digit
      if value < base then some (number * base + value) else none)
    0

/-! ## Addresses of 32 bits -/

/-- A number of an address: `0x` marks base sixteen and a leading zero base eight. -/
def addressNumber? : List Char → Option Nat
  | [] => none
  | '0' :: 'x' :: digits => numberIn? 16 digits
  | '0' :: 'X' :: digits => numberIn? 16 digits
  | '0' :: digits => numberIn? 8 digits
  | digits => numberIn? 10 digits

/-- The parts of a name between its points; an empty last part is left out. -/
def nameParts (name : List Char) : List (List Char) :=
  let parts := splitAt (· == '.') name
  if parts.getLast? == some [] && 1 < parts.length then parts.dropLast else parts

/-- Whether a name ends in a number, which makes it an address or nothing. -/
def endsInNumber (name : List Char) : Bool :=
  match (nameParts name).getLast? with
  | none => false
  | some part =>
    (!part.isEmpty && part.all Char.isDigit) || (!part.isEmpty && (addressNumber? part).isSome)

/-- The weight of the octet in this place, counted from the last one. -/
def octetWeight (place : Nat) : Nat := Nat.pow 256 place

/-- The address of numbers: all but the last fill an octet each. -/
def addressOf? : List Nat → Option Nat
  | [] => none
  | [last] => if last < octetWeight 4 then some last else none
  | [first, last] =>
    if first < 256 ∧ last < octetWeight 3 then some (first * octetWeight 3 + last) else none
  | [first, second, last] =>
    if first < 256 ∧ second < 256 ∧ last < octetWeight 2 then
      some (first * octetWeight 3 + second * octetWeight 2 + last)
    else none
  | [first, second, third, last] =>
    if first < 256 ∧ second < 256 ∧ third < 256 ∧ last < 256 then
      some (first * octetWeight 3 + second * octetWeight 2 + third * 256 + last)
    else none
  | _ => none

/-- The address that a name denotes. -/
def shortAddress? (name : List Char) : Option Nat := do
  addressOf? (← (nameParts name).mapM addressNumber?)

/-- The digits of a number. -/
def decimal (number : Nat) : List Char := Nat.toDigits 10 number

/-- The text of an address of 32 bits. -/
def shortAddressText (address : Nat) : List Char :=
  decimal (address / octetWeight 3) ++ '.' :: decimal (address / octetWeight 2 % 256)
    ++ '.' :: decimal (address / 256 % 256) ++ '.' :: decimal (address % 256)

/-! ## Addresses of 128 bits -/

/-- A group of one to four digits. -/
def group? (digits : List Char) : Option Nat :=
  if 1 ≤ digits.length ∧ digits.length ≤ 4 then numberIn? 16 digits else none

/-- An octet in base ten without leading zeros. -/
def octet? (digits : List Char) : Option Nat := do
  let value ← numberIn? 10 digits
  if digits.isEmpty || (digits.head? == some '0' && 1 < digits.length) then none
  else if value < 256 then some value else none

/-- The two groups of four octets. -/
def octetGroups? (text : List Char) : Option (List Nat) := do
  match ← (splitAt (· == '.') text).mapM octet? with
  | [first, second, third, fourth] => some [first * 256 + second, third * 256 + fourth]
  | _ => none

/-- The groups of parts of which the last may be four octets. -/
def groups? : List (List Char) → Option (List Nat)
  | [] => some []
  | [last] =>
    if last.contains '.' then octetGroups? last else do return [← group? last]
  | part :: parts => do
    let first ← group? part
    let later ← groups? parts
    return first :: later

/-- The groups of a text; an empty text has none. -/
def groupsOf? (text : List Char) : Option (List Nat) :=
  if text.isEmpty then some [] else groups? (splitAt (· == ':') text)

/-- The text before the first pair of colons and the text behind it. -/
def splitAtGap : List Char → Option (List Char × List Char)
  | ':' :: ':' :: text => some ([], text)
  | [] => none
  | character :: text => do
    let (front, behind) ← splitAtGap text
    return (character :: front, behind)

/-- The eight groups of an address. -/
def longAddress? (text : List Char) : Option (List Nat) :=
  match splitAtGap text with
  | none => do
    let groups ← groupsOf? text
    if groups.length = 8 then some groups else none
  | some (front, behind) => do
    let before ← if front.contains '.' then none else groupsOf? front
    let after ← groupsOf? behind
    let given := before.length + after.length
    if given < 8 then some (before ++ List.replicate (8 - given) 0 ++ after) else none

/-- The length of the run of zeros at the beginning. -/
def leadingZeros (groups : List Nat) : Nat :=
  (groups.takeWhile (· == 0)).length

/-- The place and the length of the first longest run of zeros. -/
def longestRun : Nat → List Nat → Nat × Nat
  | place, [] => (place, 0)
  | place, group :: groups =>
    let here := leadingZeros (group :: groups)
    let (later, length) := longestRun (place + 1) groups
    if length ≤ here then (place, here) else (later, length)

/-- Groups with colons between them. -/
def groupsText (groups : List Nat) : List Char :=
  [':'].intercalate (groups.map fun group => Nat.toDigits 16 group)

/-- The text of an address of 128 bits; the first longest run of at least two zeros is left
out. -/
def longAddressText (groups : List Nat) : List Char :=
  let (place, length) := longestRun 0 groups
  if length < 2 then groupsText groups
  else groupsText (groups.take place) ++ ':' :: ':' :: groupsText (groups.drop (place + length))

end ResponsesBridge.Url
