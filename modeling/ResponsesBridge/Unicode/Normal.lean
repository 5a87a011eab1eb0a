import ResponsesBridge.Unicode.Mark
import ResponsesBridge.Unicode.Composition

/-!
# Normal form

A text of ordinary characters and marks is brought into normal form in two steps. The marks that
follow a character are put in ascending order of their classes, where marks of the same class
keep their order (`ordered`). Then each character takes up the marks with which it can be
composed, unless another mark of the same class stands between (`composed`).
-/

set_option autoImplicit false

namespace ResponsesBridge.Unicode

/-- A character in front of a text in order, behind the marks of lower classes with which the text
begins; a character that is no mark stays in front. -/
def placeMark (character : Char) : List Char → List Char
  | [] => [character]
  | next :: rest =>
    if combiningClass next ≠ 0 ∧ combiningClass next < combiningClass character then
      next :: placeMark character rest
    else character :: next :: rest

/-- The text with the marks behind each character in order. -/
def ordered (text : List Char) : List Char :=
  text.foldr placeMark []

/-- Whether marks that a character has not taken up keep it from a later character. -/
def areBarred (marks : List Char) (character : Char) : Bool :=
  match marks.getLast? with
  | none => false
  | some mark => combiningClass character ≤ combiningClass mark

/-- The composed text of a character, the marks behind it that it has not taken up, and the text
that follows them. -/
def composeFrom (character : Char) (marks : List Char) : List Char → List Char
  | [] => character :: marks
  | next :: rest =>
    match if areBarred marks next then none else composed? character next with
    | some whole => composeFrom whole marks rest
    | none =>
      if combiningClass next = 0 then character :: marks ++ composeFrom next [] rest
      else composeFrom character (marks ++ [next]) rest

/-- A text in order with all characters composed; marks that follow no character stay as they
are. -/
def composed (text : List Char) : List Char :=
  let marks := text.takeWhile fun character => combiningClass character != 0
  match text.dropWhile fun character => combiningClass character != 0 with
  | [] => marks
  | character :: rest => marks ++ composeFrom character [] rest

/-- **The normal form** of a text of ordinary characters and marks. -/
def normalForm (text : List Char) : List Char :=
  composed (ordered text)

end ResponsesBridge.Unicode
