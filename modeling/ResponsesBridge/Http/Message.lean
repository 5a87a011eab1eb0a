import ResponsesBridge.Text.Blank

/-!
# Messages of the transfer protocol

A request carries a text to a target, a response carries octets back. Header names are compared
without regard to case. A response may break off before all of its body has arrived, and then
says so.
-/

set_option autoImplicit false

namespace ResponsesBridge.Http

/-- A header. -/
structure Header where
  name : String
  value : String
deriving DecidableEq, Repr

/-- A request. -/
structure Request where
  method : String
  target : String
  headers : List Header
  body : String
deriving DecidableEq, Repr

/-- A response. -/
structure Response where
  status : Nat
  headers : List Header := []
  body : List UInt8 := []
  /-- Whether all of the body has arrived. -/
  isComplete : Bool := true
deriving DecidableEq, Repr

/-! ## Headers -/

/-- A name of a header in small letters. -/
def foldName (name : String) : String :=
  String.ofList (name.toList.map Char.toLower)

/-- Whether a value may be sent: it has no control character but the tab. -/
def isLegalValue (value : String) : Bool :=
  value.toList.all fun character =>
    character == '\t' || (decide (0x20 ≤ character.toNat) && character.toNat != 0x7F)

/-- Whether a character of a value is visible, a blank or a tab. -/
def isPlainChar (character : Char) : Bool :=
  character == '\t' || decide (0x20 ≤ character.toNat ∧ character.toNat ≤ 0x7E)

/-- The value of the first header of a name. -/
def Response.header? (name : String) (response : Response) : Option String :=
  (response.headers.find? fun header => foldName header.name == foldName name).map Header.value

/-- The name of the header that tells what the body is. -/
def contentType : String := "content-type"

/-- What the body of a response is, if that is told in plain characters. -/
def Response.contentType? (response : Response) : Option (List Char) := do
  let value ← response.header? contentType
  if value.toList.all isPlainChar then some (Text.trimStart value.toList) else none

/-! ## Statuses -/

/-- Whether a response says that the request has been granted. -/
def Response.isSuccess (response : Response) : Bool :=
  decide (200 ≤ response.status ∧ response.status < 300)

end ResponsesBridge.Http
