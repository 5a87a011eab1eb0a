import ResponsesBridge.Text.Invisible

/-!
# Quoting texts in messages

A text that comes from outside is shown in messages between double quotes, so that its ends and
its invisible characters can be seen. The quote and the backslash get a backslash, five control
characters have letters, and characters without a visible form are written by their code points.
-/

set_option autoImplicit false

namespace ResponsesBridge.Text

/-- The digits of a code point in lower-case hexadecimal. -/
def hexDigits (value : Nat) : List Char :=
  Nat.toDigits 16 value

/-- A character as it is shown between quotes. -/
def shownChar (character : Char) : List Char :=
  match character with
  | '\x00' => ['\\', '0']
  | '\t' => ['\\', 't']
  | '\r' => ['\\', 'r']
  | '\n' => ['\\', 'n']
  | '"' => ['\\', '"']
  | '\\' => ['\\', '\\']
  | _ =>
    if isInvisible character then
      ['\\', 'u', '{'] ++ hexDigits character.toNat ++ ['}']
    else [character]

/-- A text between double quotes. -/
def quote (text : String) : String :=
  String.ofList ('"' :: (text.toList.flatMap shownChar ++ ['"']))

end ResponsesBridge.Text
