import ResponsesBridge.Text.Blank
import ResponsesBridge.Text.Split
import ResponsesBridge.Unicode.Alphanumeric

/-!
# Log filters

A filter is a list of directives between commas. A directive names a level, or a target with or
without a level, and may ask for a span or for a field that a message must have. A message is
judged by the most specific directive that applies to it: the one with the longest target that
its target begins with, and the later one of two that are equally specific.

White space in front of a directive is passed over when its signs are looked for, but it is not
taken out: the words are cut from the directive as it is written, and therefore that much too
early. A target in front of such a sign loses its last letters, and a level behind it keeps the
sign and is none.
-/

set_option autoImplicit false

namespace ResponsesBridge.Logging

/-- How important a message is. -/
inductive Level
  | error
  | warning
  | info
  | debug
  | trace
deriving DecidableEq, Repr

/-- The rank of a level: the most important one has the lowest. -/
def Level.rank : Level → Nat
  | .error => 1
  | .warning => 2
  | .info => 3
  | .debug => 4
  | .trace => 5

/-- The highest rank that a directive lets through; zero lets nothing through. -/
abbrev Limit := Nat

/-- The limit that lets everything through. -/
def everything : Limit := Level.trace.rank

/-- The words for limits, in small letters. -/
def limitWords : List (String × Limit) :=
  [("off", 0), ("error", 1), ("warn", 2), ("info", 3), ("debug", 4), ("trace", 5)]

/-- The limit of a numeral, which may have a plus in front. -/
def numeralLimit? (text : List Char) : Option Limit :=
  let digits := if text.head? == some '+' then text.drop 1 else text
  let value := digits.foldl (fun value digit => value * 10 + (digit.toNat - '0'.toNat)) 0
  if !digits.isEmpty && digits.all Char.isDigit && value ≤ everything then some value else none

/-- The limit of a word, in small or capital letters, or of a numeral. -/
def limit? (text : List Char) : Option Limit :=
  let word := String.ofList (text.map Char.toLower)
  match limitWords.find? fun entry => entry.1 == word with
  | some (_, limit) => some limit
  | none => numeralLimit? text

/-! ## Directives -/

/-- A field that a message must have, perhaps with a value. -/
structure FieldDemand where
  name : String
  hasValue : Bool
deriving DecidableEq, Repr

/-- A directive. -/
structure Directive where
  limit : Limit := everything
  target : Option String := none
  span : Option String := none
  field : Option FieldDemand := none
deriving DecidableEq, Repr

/-- The characters from one place of a text up to another. -/
def cut (text : List Char) (start stop : Nat) : List Char :=
  (text.take stop).drop start

/-- The place of the first of some signs from a place on, and the rest of the text from there. -/
def seek? (signs : List Char) : Nat → List Char → Option (Nat × List Char)
  | _, [] => none
  | place, character :: text =>
    if signs.contains character then some (place, character :: text)
    else seek? signs (place + 1) text

/-- Whether a directive may begin with a character. -/
def isBeginning (character : Char) : Bool :=
  Unicode.isAlphanumeric character || ['-', ':', '_'].contains character

/-- The limit at the end of a directive; nothing means that everything passes. -/
def finalLimit? (text : List Char) : Option Limit :=
  if text.isEmpty then some everything else limit? text

/-- What follows a bracket: nothing, or a limit behind its sign. -/
def afterBracket? (whole : List Char) (draft : Directive) (place : Nat) :
    List Char → Option Directive
  | [] => some draft
  | '=' :: _ => do return { draft with limit := ← finalLimit? (whole.drop (place + 1)) }
  | _ => none

/-- The demand of a text. -/
def demand (text : List Char) : FieldDemand :=
  ⟨String.ofList (text.takeWhile (· != '=')), text.contains '='⟩

/-- What follows a brace: a field that is not empty, the closing brace, the closing bracket and
what may stand behind it. -/
def afterBrace? (whole : List Char) (draft : Directive) (place : Nat) (text : List Char) :
    Option Directive := do
  let (stop, rest) ← seek? ['}'] place text
  let name := cut whole place stop
  if name.isEmpty then none
  else
    match rest.drop 1 with
    | ']' :: rest =>
      afterBracket? whole { draft with field := some (demand name) } (stop + 2) rest
    | _ => none

/-- What follows an opening bracket: a span, and a field in braces. -/
def inBracket? (whole : List Char) (draft : Directive) (place : Nat) (text : List Char) :
    Option Directive := do
  let (stop, rest) ← seek? [']', '{'] place text
  let name := cut whole place stop
  if rest.head? == some ']' then
    afterBracket? whole { draft with span := some (String.ofList name) } (stop + 1) (rest.drop 1)
  else
    let span := if name.isEmpty then none else some (String.ofList name)
    afterBrace? whole { draft with span } (stop + 1) (rest.drop 1)

/-- The directive of a single word: a limit, or a target that lets everything through. -/
def ofWord (whole : List Char) : Directive :=
  match limit? whole with
  | some limit => { limit }
  | none => { target := some (String.ofList whole) }

/-- The directive of a text without commas. -/
def Directive.ofText? (whole : List Char) : Option Directive :=
  match Text.trimEnd (Text.trimStart whole) with
  | [] => none
  | '[' :: text => inBracket? whole {} 1 text
  | first :: text =>
    if isBeginning first then
      match seek? ['=', '['] 1 text with
      | none => some (ofWord whole)
      | some (place, rest) =>
        let draft : Directive := { target := some (String.ofList (cut whole 0 place)) }
        if rest.head? == some '=' then afterBracket? whole draft place rest
        else inBracket? whole draft (place + 1) (rest.drop 1)
    else none

/-! ## Filters -/

/-- A filter. -/
abbrev Filter := List Directive

/-- The filter of a text; empty pieces do not count. -/
def Filter.ofText? (text : String) : Option Filter :=
  let pieces := Text.splitAt (· == ',') text.toList
  (pieces.filter fun piece => !piece.isEmpty).mapM Directive.ofText?

/-- A message as a filter sees it. -/
structure Message where
  target : String
  level : Level
  fields : List (String × String)
deriving DecidableEq, Repr

/-- Whether a directive applies to a message. No message is inside a span, and none is compared by
the value of a field. -/
def Directive.applies (directive : Directive) (message : Message) : Bool :=
  directive.span.isNone &&
    (match directive.target with
      | none => true
      | some target => target.toList.isPrefixOf message.target.toList) &&
    (match directive.field with
      | none => true
      | some demand =>
        !demand.hasValue && message.fields.any fun field => field.1 == demand.name)

/-- How specific a directive is: by the length of its target, then by whether it asks for a
field. -/
def Directive.specificity (directive : Directive) : Nat × Nat :=
  (match directive.target with
    | none => 0
    | some target => target.length + 1,
    if directive.field.isSome then 1 else 0)

/-- Whether one rank of specificity is at least as high as another. -/
def isAtLeast (rank other : Nat × Nat) : Bool :=
  other.1 < rank.1 || (other.1 == rank.1 && other.2 ≤ rank.2)

/-- The more specific one of two directives, the later one if they are equally specific. -/
def moreSpecific (earlier : Option Directive) (later : Directive) : Option Directive :=
  match earlier with
  | none => some later
  | some directive =>
    if isAtLeast later.specificity directive.specificity then some later else some directive

/-- The directive that judges a message. -/
def Filter.judge? (filter : Filter) (message : Message) : Option Directive :=
  (filter.filter fun directive => directive.applies message).foldl moreSpecific none

/-- **Whether a filter lets a message through.** -/
def Filter.lets (filter : Filter) (message : Message) : Bool :=
  match filter.judge? message with
  | none => false
  | some directive => message.level.rank ≤ directive.limit

end ResponsesBridge.Logging
