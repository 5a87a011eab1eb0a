import ResponsesBridge.Text.Utf8
import ResponsesBridge.Url.Address
import ResponsesBridge.Url.Domain
import ResponsesBridge.Url.Percent

/-!
# Hosts

The host of a special URL is a domain or a numeric address. The host of any other URL is an
address in brackets or a text that is only percent-encoded.
-/

set_option autoImplicit false

namespace ResponsesBridge.Url

/-- A host: a name in its written form, or an address. -/
inductive Host
  | name (text : String)
  | shortAddress (value : Nat)
  | longAddress (groups : List Nat)
deriving DecidableEq, Repr

namespace Host

/-- The written form of a host. -/
def toText : Host → String
  | .name text => text
  | .shortAddress value => String.ofList (shortAddressText value)
  | .longAddress groups => String.ofList ('[' :: (longAddressText groups ++ [']']))

/-- Whether a host is the empty name. -/
def isEmpty : Host → Bool
  | .name text => text.isEmpty
  | _ => false

/-! ## Reading -/

/-- An address in brackets. -/
def bracketed? (text : List Char) : Option Host :=
  match text.reverse with
  | ']' :: inside => do return .longAddress (← longAddress? inside.reverse)
  | _ => none

/-- The host of a special URL. -/
def special? (text : List Char) : Option Host :=
  match text with
  | '[' :: inside => bracketed? inside
  | _ => do
    let decoded ← Text.Utf8.decode? (percentDecode text)
    let domain ← domain? decoded
    if domain.isEmpty then none
    else if endsInNumber domain then return .shortAddress (← shortAddress? domain)
    else return .name (String.ofList domain)

/-- The characters that no host of another URL may hold. -/
def isForbidden (character : Char) : Bool :=
  character.toNat == 0 ||
    ['\t', '\n', '\r', ' ', '#', '/', ':', '<', '>', '?', '@', '[', '\\', ']', '^', '|'].contains
      character

/-- The host of a URL that is not special. -/
def other? (text : List Char) : Option Host :=
  match text with
  | '[' :: inside => bracketed? inside
  | _ =>
    if text.any isForbidden then none
    else some (.name (String.ofList (percentEncode inEveryPart text)))

end Host

end ResponsesBridge.Url
