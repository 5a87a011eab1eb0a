import ResponsesBridge.Http.Message
import ResponsesBridge.Text.Split
import ResponsesBridge.Text.Utf8

/-!
# Texts of bodies

The content type of a response may name the character set of its body. Two sets are known: UTF-8,
which is also taken where another one or none is named, and the Western set of one octet for each
character. A byte order mark tells that the text is in UTF-8 whatever is named, and does not
belong to the text.
-/

set_option autoImplicit false

namespace ResponsesBridge.Http

/-- A character set. -/
inductive Charset
  | utf8
  | western
deriving DecidableEq, Repr

namespace Charset

/-- The names of the Western set. -/
def westernNames : List String :=
  ["windows-1252", "cp1252", "x-cp1252", "iso-8859-1", "iso8859-1", "iso88591", "iso_8859-1",
    "iso_8859-1:1987", "iso-ir-100", "latin1", "l1", "cp819", "ibm819", "csisolatin1", "ascii",
    "us-ascii", "ansi_x3.4-1968"]

/-- The set of a name. -/
def ofName (name : String) : Charset :=
  if westernNames.contains (foldName name) then .western else .utf8

/-- The characters of the Western set from 0x80 to 0x9F; the octets without one stand for
themselves. -/
def westernSpecials : List Char :=
  ['\u20AC', '\u0081', '\u201A', '\u0192', '\u201E', '\u2026', '\u2020', '\u2021',
    '\u02C6', '\u2030', '\u0160', '\u2039', '\u0152', '\u008D', '\u017D', '\u008F',
    '\u0090', '\u2018', '\u2019', '\u201C', '\u201D', '\u2022', '\u2013', '\u2014',
    '\u02DC', '\u2122', '\u0161', '\u203A', '\u0153', '\u009D', '\u017E', '\u0178']

/-- The character of an octet in the Western set. -/
def westernChar (octet : UInt8) : Char :=
  if octet.toNat < 0x80 then Char.ofNat octet.toNat
  else (westernSpecials[octet.toNat - 0x80]?).getD (Char.ofNat octet.toNat)

/-- The characters of octets in a set. -/
def decode : Charset → List UInt8 → List Char
  | .utf8, octets => Text.Utf8.decodeLossy octets
  | .western, octets => octets.map westernChar

end Charset

/-! ## The content type -/

/-- A parameter of a content type: its name in small letters, and its value without quotes. -/
def parameter? (text : List Char) : Option (String × String) :=
  match Text.splitAt (· == '=') (Text.trimEnd (Text.trimStart text)) with
  | [name, value] =>
    some (foldName (String.ofList name), String.ofList (value.filter fun sign => sign != '"'))
  | _ => none

/-- The character set that a content type names. -/
def charset? (contentType : List Char) : Option Charset := do
  let parameters := ((Text.splitAt (· == ';') contentType).drop 1).filterMap parameter?
  let parameter ← parameters.find? fun parameter => parameter.1 == "charset"
  return .ofName parameter.2

/-- The text of a body. -/
def Response.text (response : Response) : String :=
  String.ofList <|
    match response.body with
    | 0xEF :: 0xBB :: 0xBF :: octets => Charset.utf8.decode octets
    | octets => ((response.contentType?.bind charset?).getD .utf8).decode octets

end ResponsesBridge.Http
