import ResponsesBridge.Url.Basic

/-!
# Reading URLs

The reader is lenient in the way browsers are: blanks around a URL and line breaks inside it do
not count, backslashes stand for slashes in special URLs, capital letters in schemes and hosts
become small ones, dots among the segments of a path are resolved, and characters that may not
stand somewhere are encoded. There is no base: a text without a scheme is no URL.
-/

set_option autoImplicit false

namespace ResponsesBridge.Url

/-- A text without control characters and spaces around it, and without tabs and line breaks. -/
def cleaned (text : List Char) : List Char :=
  let isEdge (character : Char) : Bool := character.toNat ≤ 0x20
  let inner := ((text.dropWhile isEdge).reverse.dropWhile isEdge).reverse
  inner.filter fun character => !(['\t', '\n', '\r'].contains character)

/-- The letters of schemes. -/
def isSchemeChar (character : Char) : Bool :=
  character.isAlphanum || ['+', '-', '.'].contains character

/-- The scheme of a text, in small letters, and the rest behind its colon. -/
def scheme? (text : List Char) : Option (String × List Char) :=
  match text, text.dropWhile isSchemeChar with
  | first :: _, ':' :: rest =>
    if first.isAlpha then
      some (String.ofList ((text.takeWhile isSchemeChar).map Char.toLower), rest)
    else none
  | _, _ => none

/-! ## Authority -/

/-- Whether a character is a slash; in special URLs the backslash is one. -/
def isSlash (special : Bool) (character : Char) : Bool :=
  character == '/' || (special && character == '\\')

/-- Whether an authority ends at a character. -/
def endsAuthority (special : Bool) (character : Char) : Bool :=
  isSlash special character || character == '?' || character == '#'

/-- The text before the last at sign, if there is one, and the text behind it. -/
def splitUser (text : List Char) : Option (List Char) × List Char :=
  let behind := (text.reverse.takeWhile fun character => character != '@').reverse
  if behind.length = text.length then (none, text)
  else (some (text.take (text.length - behind.length - 1)), behind)

/-- The host and the text behind it; a colon ends it unless it stands in brackets. -/
def splitHost : Bool → List Char → List Char × List Char
  | _, [] => ([], [])
  | inside, character :: text =>
    if character = ':' ∧ ¬ inside then ([], character :: text)
    else
      let inside :=
        if character = '[' then true else if character = ']' then false else inside
      let (host, rest) := splitHost inside text
      (character :: host, rest)

/-- The port of the text behind a host: nothing where none is given or the usual one is. -/
def port? (scheme : String) : List Char → Option (Option Nat)
  | [] => some none
  | _ :: digits =>
    if digits.isEmpty then some none
    else if digits.all Char.isDigit then do
      let port ← numberIn? 10 digits
      if 65535 < port then none
      else some (if defaultPort? scheme = some port then none else some port)
    else none

/-- The host of a text. -/
def host? (special : Bool) (text : List Char) : Option Host :=
  if special then Host.special? text else Host.other? text

/-- The authority of a text. Without a host there may be neither user nor port. -/
def authority? (scheme : String) (text : List Char) (isLast : Bool) : Option Authority := do
  let (userInfo, text) := splitUser text
  if userInfo == some [] && text.isEmpty && !isLast then none
  else
    let info := userInfo.getD []
    let user := info.takeWhile fun character => character != ':'
    let password := (info.dropWhile fun character => character != ':').drop 1
    let (hostText, portText) := splitHost false text
    let host ← host? (isSpecial scheme) hostText
    let port ← port? scheme portText
    let authority : Authority :=
      { user := String.ofList (percentEncode inUserInfo user)
        password := String.ofList (percentEncode inUserInfo password)
        host
        port }
    if host.isEmpty && (!authority.userText.isEmpty || !portText.isEmpty) then none
    else some authority

/-! ## Path -/

/-- The forms of a segment for the place itself. -/
def isSingleDot (segment : List Char) : Bool :=
  [['.'], ['%', '2', 'e']].contains (segment.map Char.toLower)

/-- The forms of a segment for the place above. -/
def isDoubleDot (segment : List Char) : Bool :=
  [['.', '.'], ['.', '%', '2', 'e'], ['%', '2', 'e', '.'],
    ['%', '2', 'e', '%', '2', 'e']].contains (segment.map Char.toLower)

/-- The letter of a drive, with a colon or a bar behind it. -/
def drive? : List Char → Option (List Char)
  | [letter, mark] =>
    if letter.isAlpha && (mark == ':' || mark == '|') then some [letter, ':'] else none
  | _ => none

/-- Segments in reverse order without the last one; the drive of a file stays. -/
def above (isFile : Bool) : List (List Char) → List (List Char)
  | [] => []
  | [segment] => if isFile && (drive? segment).isSome then [segment] else []
  | _ :: segments => segments

/-- Segments without dots, behind resolved ones in reverse order. The last segment of a path is
the name behind the last slash, so dots there leave an empty name. -/
def resolveSegments (isFile : Bool) : List (List Char) → List (List Char) → List (List Char)
  | resolved, [] => resolved.reverse
  | resolved, segment :: segments =>
    let isLast := segments.isEmpty
    let resolved :=
      if isDoubleDot segment then
        let shorter := above isFile resolved
        if isLast then [] :: shorter else shorter
      else if isSingleDot segment then if isLast then [] :: resolved else resolved
      else
        let name := percentEncode inPath segment
        match isFile && resolved.isEmpty, drive? name with
        | true, some drive => drive :: resolved
        | _, _ => name :: resolved
    resolveSegments isFile resolved segments

/-- The segments of a path behind its first slash. -/
def segmentsOf (scheme : String) (text : List Char) : List String :=
  let names := Text.splitAt (isSlash (isSpecial scheme)) text
  (resolveSegments (scheme == "file") [] names).map String.ofList

/-- The path behind an authority. Special URLs have one in any case. -/
def pathBehind (scheme : String) (text : List Char) : Path :=
  match text with
  | [] => .segments (if isSpecial scheme then [""] else [])
  | first :: rest =>
    .segments (segmentsOf scheme (if isSlash (isSpecial scheme) first then rest else first :: rest))

/-! ## The whole -/

/-- Query and fragment of a text, and the text in front of them. -/
def splitTail (text : List Char) : List Char × Option (List Char) × Option (List Char) :=
  let front := text.takeWhile fun character => character != '#'
  let fragment := match text.dropWhile fun character => character != '#' with
    | [] => none
    | _ :: rest => some rest
  let query := match front.dropWhile fun character => character != '?' with
    | [] => none
    | _ :: rest => some rest
  (front.takeWhile fun character => character != '?', query, fragment)

/-- The text of a part that is encoded. -/
def encodedText (encoded : Char → Bool) (text : List Char) : String :=
  String.ofList (percentEncode encoded text)

/-- The authority and the path of a text that begins behind the slashes of an authority. -/
def authorityAndPath? (scheme : String) (text : List Char) (isLast : Bool) :
    Option (Option Authority × Path) := do
  let ends := endsAuthority (isSpecial scheme)
  let front := text.takeWhile fun character => !ends character
  let rest := text.dropWhile fun character => !ends character
  let authority ← authority? scheme front (isLast && rest.isEmpty)
  return (some authority, pathBehind scheme rest)

/-- The segments of a path of a file; empty ones at the beginning do not count. -/
def filePath (text : List Char) : Path :=
  let text := match text with
    | first :: rest => if isSlash true first then rest else text
    | [] => text
  let names := segmentsOf "file" text
  match names.dropWhile String.isEmpty with
  | [] => .segments [""]
  | names => .segments names

/-- Whether a path begins with the letter of a drive. -/
def Path.hasDrive : Path → Bool
  | .segments (name :: _) => (drive? name.toList).isSome
  | _ => false

/-- The host and the path of a file. A drive is on no host, and neither is anything on the local
one. -/
def fileParts? (text : List Char) : Option (Option Authority × Path) :=
  let nowhere : Authority := { host := .name "" }
  match text with
  | first :: second :: rest =>
    if isSlash true first && isSlash true second then
      let hostText := rest.takeWhile fun character => !isSlash true character
      if hostText.isEmpty || (drive? hostText).isSome then some (some nowhere, filePath rest)
      else do
        let host ← Host.special? hostText
        let path := filePath (rest.dropWhile fun character => !isSlash true character)
        if host == .name "localhost" || path.hasDrive then some (some nowhere, path)
        else some (some { host }, path)
    else some (some nowhere, filePath text)
  | _ => some (some nowhere, filePath text)

/-- The authority and the path of a text behind its scheme. -/
def parts? (scheme : String) (text : List Char) (isLast : Bool) :
    Option (Option Authority × Path) :=
  if scheme = "file" then fileParts? text
  else if isSpecial scheme then
    authorityAndPath? scheme (text.dropWhile (isSlash true)) isLast
  else
    match text with
    | '/' :: '/' :: rest => authorityAndPath? scheme rest isLast
    | '/' :: rest => some (none, .segments (segmentsOf scheme rest))
    | _ => some (none, .plain (encodedText inEveryPart text))

/-- **The URL of a text.** -/
def ofText? (text : String) : Option Url := do
  let (scheme, rest) ← scheme? (cleaned text.toList)
  let (front, query, fragment) := splitTail rest
  let (authority, path) ← parts? scheme front (query.isNone && fragment.isNone)
  return {
    scheme
    authority
    path
    query := query.map (encodedText (if isSpecial scheme then inSpecialQuery else inQuery))
    fragment := fragment.map (encodedText inFragment) }

end ResponsesBridge.Url
