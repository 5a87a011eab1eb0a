import ResponsesBridge.Json.Value

/-!
# Spans of time

A span is written as terms: a number and a unit, or a number alone for seconds. The terms are
added, or, with stars between them, multiplied as numbers of seconds. A term that follows a unit
needs no sign before it. Spans are whole numbers of nanoseconds that fit 64 bits, and so is
every term and every intermediate result.
-/

set_option autoImplicit false

namespace ResponsesBridge.Settings

/-- A span of time in nanoseconds. -/
structure Span where
  nanoseconds : Nat
  bounded : nanoseconds < UInt64.size
deriving DecidableEq, Repr

namespace Span

/-- The nanoseconds of a second. -/
def perSecond : Nat := 1000000000

/-- The span of a number of nanoseconds, if it fits. -/
def ofNanoseconds? (count : Nat) : Option Span :=
  if bounded : count < UInt64.size then some ⟨count, bounded⟩ else none

/-- No time. -/
def zero : Span := ⟨0, by decide⟩

/-- One second. -/
def second : Span := ⟨perSecond, by decide⟩

/-- Two minutes. -/
def twoMinutes : Span := ⟨120 * perSecond, by decide⟩

/-- The whole seconds of a span. -/
def wholeSeconds (span : Span) : Nat := span.nanoseconds / perSecond

/-- The nanoseconds beyond the whole seconds. -/
def subsecond (span : Span) : Nat := span.nanoseconds % perSecond

/-- The sum of two spans. -/
def plus? (first second : Span) : Option Span :=
  ofNanoseconds? (first.nanoseconds + second.nanoseconds)

/-- The product of two spans as numbers of seconds, cut to whole nanoseconds. -/
def times? (first second : Span) : Option Span :=
  ofNanoseconds? (first.nanoseconds * second.nanoseconds / perSecond)

/-! ## Terms -/

/-- The units under their names, in nanoseconds. A year has 365 days and a month 30. -/
def units : List (String × Nat) :=
  let day := 86400 * perSecond
  [("y", 365 * day), ("year", 365 * day), ("years", 365 * day),
    ("mon", 30 * day), ("month", 30 * day), ("months", 30 * day),
    ("w", 7 * day), ("week", 7 * day), ("weeks", 7 * day),
    ("d", day), ("day", day), ("days", day),
    ("h", 3600 * perSecond), ("hr", 3600 * perSecond), ("hour", 3600 * perSecond),
    ("hours", 3600 * perSecond),
    ("m", 60 * perSecond), ("min", 60 * perSecond), ("minute", 60 * perSecond),
    ("minutes", 60 * perSecond),
    ("s", perSecond), ("sec", perSecond), ("second", perSecond), ("seconds", perSecond),
    ("ms", 1000000), ("msec", 1000000), ("millisecond", 1000000), ("milliseconds", 1000000),
    ("us", 1000), ("usec", 1000), ("usecond", 1000),
    ("µs", 1000), ("µsec", 1000), ("µsecond", 1000),
    ("microsecond", 1000), ("microseconds", 1000),
    ("ns", 1), ("nsec", 1), ("nanosecond", 1), ("nanoseconds", 1)]

/-- How a term is joined to those before it. -/
inductive Sign
  | plus
  | star
deriving DecidableEq, Repr

/-- The four blank characters of spans. -/
def isSpace (character : Char) : Bool :=
  character == ' ' || character == '\t' || character == '\r' || character == '\n'

/-- A text from its first character that is not blank. -/
def skipSpace (text : List Char) : List Char :=
  text.dropWhile isSpace

/-- The letters of units. -/
def isUnitChar (character : Char) : Bool :=
  character.isAlpha || character == 'µ'

/-- The number of digits that fits 64 bits. -/
def number? (digits : List Char) : Option Nat :=
  let value := digits.foldl (fun value digit => value * 10 + (digit.toNat - '0'.toNat)) 0
  if digits.isEmpty then none else if value < UInt64.size then some value else none

/-- The unit of letters, in nanoseconds; the case of the letters does not matter. -/
def unit? (letters : List Char) : Option Nat :=
  Json.lookup (String.ofList (letters.map Char.toLower)) units

/-- A term at the beginning of a text: its span, whether it has a unit, and the rest. -/
def term? (text : List Char) : Option (Span × Bool × List Char) := do
  let count ← number? (text.takeWhile Char.isDigit)
  let rest := skipSpace (text.dropWhile Char.isDigit)
  let letters := rest.takeWhile isUnitChar
  if letters.isEmpty then
    let span ← ofNanoseconds? (count * perSecond)
    return (span, false, rest)
  else
    let unit ← unit? letters
    let span ← ofNanoseconds? (count * unit)
    return (span, true, skipSpace (rest.dropWhile isUnitChar))

/-- The sign before a term, and the rest behind it. Only a term behind a unit may do without. -/
def sign? (afterUnit : Bool) : List Char → Option (Sign × List Char)
  | '+' :: rest => some (.plus, skipSpace rest)
  | '*' :: rest => some (.star, skipSpace rest)
  | rest => if afterUnit then some (.plus, rest) else none

/-- The terms behind the first one, each with its sign. The first argument bounds their number. -/
def laterTerms? : Nat → Bool → List Char → Option (List (Sign × Span))
  | _, _, [] => some []
  | 0, _, _ => none
  | bound + 1, afterUnit, text => do
    let (sign, text) ← sign? afterUnit text
    let (span, afterUnit, text) ← term? text
    let later ← laterTerms? bound afterUnit text
    return (sign, span) :: later

/-- All terms of a text. Every term has a digit, so there are no more of them than characters. -/
def terms? (text : List Char) : Option (Span × List (Sign × Span)) := do
  let (first, afterUnit, rest) ← term? (skipSpace text)
  let later ← laterTerms? rest.length afterUnit rest
  return (first, later)

/-! ## The span of a text -/

/-- The span of terms. All signs must be the same; the terms behind the first are joined before
the first is joined to them. -/
def joined? (first : Span) : List (Sign × Span) → Option Span
  | [] => some first
  | (sign, next) :: later =>
    if later.all fun term => term.1 == sign then
      let spans := next :: later.map Prod.snd
      match sign with
      | .plus => do first.plus? (← spans.foldlM plus? zero)
      | .star => do first.times? (← spans.foldlM times? second)
    else none

/-- **The span that a text denotes.** -/
def ofText? (text : String) : Option Span := do
  let (first, later) ← terms? text.toList
  joined? first later

end Span

end ResponsesBridge.Settings
