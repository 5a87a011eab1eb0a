/-!
# Punycode

Characters beyond ASCII are written with the letters of host names: the ASCII characters come
first, and behind the last hyphen follow the others in ascending order of their code points, each
as the distance from the one before. A distance is a number of variable length in base 36, whose
digits adapt to the size of the distances so far.
-/

set_option autoImplicit false

namespace ResponsesBridge.Url.Punycode

/-- The first code point that is not written as itself. -/
def firstBeyond : Nat := 0x80

/-- The bias before the first distance. -/
def firstBias : Nat := 72

/-- The letter of a digit. -/
def digitChar (digit : Nat) : Char :=
  if digit < 26 then Char.ofNat ('a'.toNat + digit) else Char.ofNat ('0'.toNat + (digit - 26))

/-- The digit of a letter; case does not matter. -/
def digit? (letter : Char) : Option Nat :=
  if 'a' ≤ letter ∧ letter ≤ 'z' then some (letter.toNat - 'a'.toNat)
  else if 'A' ≤ letter ∧ letter ≤ 'Z' then some (letter.toNat - 'A'.toNat)
  else if '0' ≤ letter ∧ letter ≤ '9' then some (letter.toNat - '0'.toNat + 26)
  else none

/-- The least digit that is not the last one, at a position of a number. Positions are counted in
steps of 36. -/
def threshold (bias position : Nat) : Nat :=
  max 1 (min 26 (position - bias))

/-- A distance divided by 35 until it is at most 455, and 36 times the number of divisions. -/
def scaleDown (distance steps : Nat) : Nat × Nat :=
  if 455 < distance then scaleDown (distance / 35) (steps + 36) else (distance, steps)
termination_by distance
decreasing_by omega

/-- The bias behind a distance, of which `count` have been written. -/
def adapt (distance count : Nat) (isFirst : Bool) : Nat :=
  let damped := if isFirst then distance / 700 else distance / 2
  let (rest, steps) := scaleDown (damped + damped / count) 0
  steps + 36 * rest / (rest + 38)

/-! ## Encoding -/

/-- The digits of a distance from a position on; the first argument bounds their number. -/
def writeDistance (bias : Nat) : Nat → Nat → Nat → List Char
  | 0, _, _ => []
  | bound + 1, position, distance =>
    let least := threshold bias position
    if distance < least then [digitChar distance]
    else
      digitChar (least + (distance - least) % (36 - least))
        :: writeDistance bias bound (position + 36) ((distance - least) / (36 - least))

/-- The state between two characters: what is written, the distance so far, the bias and the
number of characters written. -/
structure Progress where
  written : List Char
  distance : Nat
  bias : Nat
  count : Nat

/-- Passes a character of the text while the code point `point` is being written. -/
def pass (basics point : Nat) (progress : Progress) (character : Char) : Progress :=
  if character.toNat < point then { progress with distance := progress.distance + 1 }
  else if character.toNat = point then
    let digits := writeDistance progress.bias (progress.distance + 1) 36 progress.distance
    { written := progress.written ++ digits
      distance := 0
      bias := adapt progress.distance (progress.count + 1) (progress.count == basics)
      count := progress.count + 1 }
  else progress

/-- Writes the code points of an ascending list; `next` is the least one that could come. -/
def writeAll (text : List Char) (basics : Nat) : List Nat → Nat → Progress → Progress
  | [], _, progress => progress
  | point :: points, next, progress =>
    let moved := progress.distance + (point - next) * (progress.count + 1)
    let passed := text.foldl (pass basics point) { progress with distance := moved }
    writeAll text basics points (point + 1) { passed with distance := passed.distance + 1 }

/-- The letters that stand for a text. -/
def encode (text : List Char) : List Char :=
  let basic := text.filter fun character => character.toNat < firstBeyond
  let points := (text.map Char.toNat).filter fun point => firstBeyond ≤ point
  let start : Progress := ⟨[], 0, firstBias, basic.length⟩
  let progress := writeAll text basic.length points.mergeSort.eraseDups firstBeyond start
  (if basic.isEmpty then [] else basic ++ ['-']) ++ progress.written

/-! ## Decoding -/

/-- A distance at the beginning of letters, added up from `total`, and the letters behind it. -/
def readDistance? (bias : Nat) : List Char → Nat → Nat → Nat → Option (Nat × List Char)
  | [], _, _, _ => none
  | letter :: letters, position, weight, total => do
    let digit ← digit? letter
    let total := total + digit * weight
    let least := threshold bias position
    if digit < least then some (total, letters)
    else readDistance? bias letters (position + 36) (weight * (36 - least)) total

/-- A character put in at a place. -/
def putIn (character : Char) (place : Nat) (text : List Char) : List Char :=
  text.take place ++ character :: text.drop place

/-- The text of letters, read behind a text that holds the smaller characters; the first argument
bounds the number of distances. -/
def readAll? : Nat → List Char → Nat → Nat → Nat → List Char → Option (List Char)
  | _, [], _, _, _, text => some text
  | 0, _, _, _, _, _ => none
  | bound + 1, letters, point, place, bias, text => do
    let (total, rest) ← readDistance? bias letters 36 1 place
    let count := text.length + 1
    let point := point + total / count
    if point.isValidChar then
      let text := putIn (Char.ofNat point) (total % count) text
      readAll? bound rest point (total % count + 1) (adapt (total - place) count (place == 0)) text
    else none

/-- The ASCII characters in front of the last hyphen, and the letters behind it. -/
def splitAtHyphen (letters : List Char) : List Char × List Char :=
  let behind := (letters.reverse.takeWhile fun letter => letter != '-').reverse
  let front := letters.take (letters.length - behind.length - 1)
  (front, behind)

/-- The text that letters stand for. -/
def decode? (letters : List Char) : Option (List Char) :=
  let (front, behind) := splitAtHyphen letters
  readAll? behind.length behind firstBeyond 0 firstBias front

end ResponsesBridge.Url.Punycode
