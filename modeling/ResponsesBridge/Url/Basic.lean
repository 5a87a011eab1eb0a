import ResponsesBridge.Url.Host

/-!
# URLs

A URL has a scheme and a path, and may have an authority, a query and a fragment. Its parts are
kept in their written form, so two texts of the same URL give the same value and `toText` gives
the normal form of all of them.
-/

set_option autoImplicit false

namespace ResponsesBridge

namespace Url

/-- Who is addressed: a host with its port, and the user in whose name. -/
structure Authority where
  user : String := ""
  password : String := ""
  host : Host
  port : Option Nat := none
deriving DecidableEq, Repr

/-- A path: segments, or, where no slash begins it, a text without structure. -/
inductive Path
  | segments (names : List String)
  | plain (text : String)
deriving DecidableEq, Repr

end Url

/-- A URL. -/
structure Url where
  scheme : String
  authority : Option Url.Authority := none
  path : Url.Path := .segments []
  query : Option String := none
  fragment : Option String := none
deriving DecidableEq, Repr

namespace Url

/-- The schemes whose URLs always have a host and a path, with their ports. -/
def specialPorts : List (String × Option Nat) :=
  [("http", some 80), ("https", some 443), ("ws", some 80), ("wss", some 443), ("ftp", some 21),
    ("file", none)]

/-- Whether a scheme is special. -/
def isSpecial (scheme : String) : Bool :=
  specialPorts.any fun entry => entry.1 == scheme

/-- The port that is meant where a special URL names none. -/
def defaultPort? (scheme : String) : Option Nat :=
  (specialPorts.find? fun entry => entry.1 == scheme).bind Prod.snd

/-! ## Written form -/

/-- The user and the password in front of the host. -/
def Authority.userText (authority : Authority) : String :=
  if authority.user.isEmpty && authority.password.isEmpty then ""
  else
    authority.user ++ (if authority.password.isEmpty then "" else ":" ++ authority.password)
      ++ "@"

/-- An authority with the slashes in front of it. -/
def Authority.toText (authority : Authority) : String :=
  "//" ++ authority.userText ++ authority.host.toText ++
    match authority.port with
    | some port => ":" ++ toString port
    | none => ""

/-- A path. -/
def Path.toText : Path → String
  | .segments names => String.join (names.map fun name => "/" ++ name)
  | .plain text => text

/-- What has to stand before the path of a URL without authority, so that its first two slashes
are not taken for the beginning of an authority. -/
def Path.guardText : Path → String
  | .segments ("" :: _ :: _) => "/."
  | _ => ""

/-- Everything behind the scheme but in front of query and fragment. -/
def hierarchyText (url : Url) : String :=
  match url.authority with
  | some authority => authority.toText ++ url.path.toText
  | none => url.path.guardText ++ url.path.toText

/-- A part that is marked by a character in front of it. -/
def markedText (mark : String) : Option String → String
  | some text => mark ++ text
  | none => ""

/-- **The written form of a URL.** -/
def toText (url : Url) : String :=
  url.scheme ++ ":" ++ url.hierarchyText ++ markedText "?" url.query
    ++ markedText "#" url.fragment

end Url

end ResponsesBridge
