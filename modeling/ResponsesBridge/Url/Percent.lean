import ResponsesBridge.Text.Hex
import ResponsesBridge.Text.Utf8

/-!
# Percent encoding

A character that may not stand in a part of a URL is written as its octets in UTF-8, each as a
percent sign and two hexadecimal digits. Which characters these are depends on the part; each
set below includes the control characters and everything beyond ASCII.
-/

set_option autoImplicit false

namespace ResponsesBridge.Url

/-- Control characters and characters beyond ASCII. -/
def inEveryPart (character : Char) : Bool :=
  character.toNat < 0x20 || 0x7E < character.toNat

/-- The characters that are encoded in a fragment. -/
def inFragment (character : Char) : Bool :=
  inEveryPart character || [' ', '"', '<', '>', '`'].contains character

/-- The characters that are encoded in a query. -/
def inQuery (character : Char) : Bool :=
  inEveryPart character || [' ', '"', '#', '<', '>'].contains character

/-- The characters that are encoded in the query of a special scheme. -/
def inSpecialQuery (character : Char) : Bool :=
  inQuery character || character == '\''

/-- The characters that are encoded in a path. -/
def inPath (character : Char) : Bool :=
  inFragment character || ['#', '?', '{', '}'].contains character

/-- The characters that are encoded in a user name and in a password. -/
def inUserInfo (character : Char) : Bool :=
  inPath character || ['/', ':', ';', '=', '@', '[', '\\', ']', '^', '|'].contains character

/-- An octet as a percent sign and two digits. -/
def percentOctet (octet : UInt8) : List Char :=
  ['%', Text.upperHexDigit (octet.toNat / 16), Text.upperHexDigit (octet.toNat % 16)]

/-- A text with the characters of a set encoded. -/
def percentEncode (encoded : Char → Bool) (text : List Char) : List Char :=
  text.flatMap fun character =>
    if encoded character then (Text.Utf8.encodeChar character).flatMap percentOctet
    else [character]

/-- The octets of a text in which a percent sign and two digits stand for an octet. -/
def percentDecode : List Char → List UInt8
  | [] => []
  | '%' :: first :: second :: text =>
    match Text.hexValue? first, Text.hexValue? second with
    | some high, some low => UInt8.ofNat (high * 16 + low) :: percentDecode text
    | _, _ => 0x25 :: percentDecode (first :: second :: text)
  | character :: text => Text.Utf8.encodeChar character ++ percentDecode text
termination_by text => text.length

end ResponsesBridge.Url
