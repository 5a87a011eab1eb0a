import ResponsesBridge.Text.Split
import ResponsesBridge.Unicode.Decomposition
import ResponsesBridge.Unicode.Direction
import ResponsesBridge.Unicode.Hidden
import ResponsesBridge.Unicode.Joining
import ResponsesBridge.Unicode.LetterCase
import ResponsesBridge.Unicode.Normal
import ResponsesBridge.Url.Punycode

/-!
# Domains

A domain is a list of labels with points between. Domains that mean the same are written in the
same way: characters are replaced by the small ordinary ones they stand for, the text is brought
into normal form, and labels with characters beyond ASCII are written in Punycode behind `xn--`.

Not every text is a domain. A label must consist of visible characters, must not begin with a
mark, and may hold characters that join letters only where there is something to join. In a
domain with letters that are written from right to left, no label may mix directions.
-/

set_option autoImplicit false

namespace ResponsesBridge.Url

open Unicode (Ranges Direction direction)

/-! ## Characters -/

/-- The characters that count as the point between labels. -/
def labelPoints : List Char := ['.', '。', '．', '｡']

/-- The character that keeps letters from being joined. -/
def nonJoiner : Char := '\u200C'

/-- The character that joins letters. -/
def joiner : Char := '\u200D'

/-- The characters that stand for themselves in a domain, though elsewhere they can stand for
others or for none. -/
def keptCharacters : List Char := ['ß', 'ς', nonJoiner, joiner]

/-- The code points that vanish from a domain. -/
def vanishingRanges : Ranges :=
  [(0xAD, 0xAD), (0x34F, 0x34F), (0x115F, 0x1160), (0x17B4, 0x17B5), (0x180B, 0x180F),
    (0x200B, 0x200B), (0x2060, 0x2064), (0x206A, 0x206F), (0x3164, 0x3164), (0xFE00, 0xFE0F),
    (0xFEFF, 0xFEFF), (0xFFA0, 0xFFA0), (0x1BCA0, 0x1BCA3), (0x1D173, 0x1D17A),
    (0xE0100, 0xE01EF)]

/-- Visible characters that no domain may hold: those that describe other characters or stand in
for them. -/
def descriptionRanges : Ranges := [(0x2FF0, 0x2FFF), (0x31EF, 0x31EF), (0xFFFC, 0xFFFD)]

/-- The small ordinary characters that a character of a domain stands for. A character that stands
for others with a point among them is refused. -/
def foldedCharacter? (character : Char) : Option (List Char) :=
  if labelPoints.contains character then some ['.']
  else if vanishingRanges.holds character then some []
  else if keptCharacters.contains character then some [character]
  else
    let characters := Unicode.decomposition character
    if characters.any labelPoints.contains then none
    else some (characters.map Unicode.smallLetter)

/-- A text with each character replaced by what it stands for, in normal form. -/
def folded? (text : List Char) : Option (List Char) := do
  return Unicode.normalForm (← text.mapM foldedCharacter?).flatten

/-- Whether a label may hold a character. -/
def isAllowed (character : Char) : Bool :=
  character.toNat < 0x80 || character == joiner || character == nonJoiner ||
    !(Unicode.isHidden character || descriptionRanges.holds character)

/-! ## Joined letters -/

/-- Whether the first character that is no mark is of a kind. -/
def firstLetterIs (kind : Char → Bool) (text : List Char) : Bool :=
  match text.dropWhile Unicode.isNonspacing with
  | [] => false
  | letter :: _ => kind letter

/-- Whether every joiner follows a virama, or keeps apart two letters that would be joined
otherwise. The first argument holds the characters before the text, the nearest one foremost. -/
def joinersFit (before : List Char) : List Char → Bool
  | [] => true
  | character :: rest =>
    let followsVirama := (before.head?.map Unicode.combiningClass) == some Unicode.viramaClass
    let keepsApart := character == nonJoiner &&
      firstLetterIs Unicode.joinsNext before && firstLetterIs Unicode.joinsPrevious rest
    (followsVirama || keepsApart || (character != joiner && character != nonJoiner)) &&
      joinersFit (character :: before) rest

/-! ## Directions -/

/-- Whether a text holds a character that is written from right to left. -/
def runsLeftward (text : List Char) : Bool :=
  text.any fun character =>
    direction character == .leftward || direction character == .arabicDigit

/-- Whether a label keeps to one direction. A label that begins with a letter from left to right
holds no letters from right to left and no digits that belong to these, and ends in a letter or
a digit; marks at the end do not count. The same holds the other way round, where digits of both
kinds are allowed, but not together. -/
def keepsDirection (label : List Char) : Bool :=
  let directions := label.map direction
  let ending := (directions.reverse.dropWhile (· == .mark)).head?
  match directions.head? with
  | none => true
  | some .rightward =>
    !directions.contains .leftward && !directions.contains .arabicDigit &&
      (ending == some .rightward || ending == some .europeanDigit)
  | some .leftward =>
    !directions.contains .rightward &&
      (ending == some .leftward || ending == some .europeanDigit || ending == some .arabicDigit) &&
      !(directions.contains .europeanDigit && directions.contains .arabicDigit)
  | some _ => false

/-! ## Labels -/

/-- The marker of labels in Punycode. -/
def punycodeMarker : List Char := ['x', 'n', '-', '-']

/-- Whether a label beyond ASCII can stand in a domain, apart from its direction. -/
def isReadable (label : List Char) : Bool :=
  label.all isAllowed && !(label.head?.any Unicode.isMark) && joinersFit [] label &&
    !punycodeMarker.isPrefixOf label

/-- Whether a label holds a character beyond ASCII. -/
def needsPunycode (label : List Char) : Bool :=
  label.any fun character => 0x80 ≤ character.toNat

/-- The label of the letters behind the marker. It must need Punycode, be folded already, and be
written with these letters. -/
def ofPunycode? (letters : List Char) : Option (List Char) := do
  let label ← Punycode.decode? letters
  if needsPunycode label && isReadable label && folded? label == some label &&
      Punycode.encode label == letters then
    some label
  else none

/-- The label of a folded text. -/
def label? (text : List Char) : Option (List Char) :=
  if punycodeMarker.isPrefixOf text then ofPunycode? (text.drop punycodeMarker.length)
  else if !needsPunycode text || isReadable text then some text
  else none

/-- The written form of a label. -/
def labelText (label : List Char) : List Char :=
  if needsPunycode label then punycodeMarker ++ Punycode.encode label else label

/-! ## Domains -/

/-- The characters that no domain may hold. -/
def isForbiddenInDomain (character : Char) : Bool :=
  character.toNat ≤ 0x20 || character.toNat == 0x7F ||
    ['%', '#', '/', ':', '<', '>', '?', '@', '[', '\\', ']', '^', '|'].contains character

/-- **The written form of a domain.** -/
def domain? (text : List Char) : Option (List Char) := do
  let labels ← (Text.splitAt (· == '.') (← folded? text)).mapM label?
  if labels.any runsLeftward && !labels.all keepsDirection then none
  else
    let domain := ['.'].intercalate (labels.map labelText)
    if domain.any isForbiddenInDomain then none else some domain

end ResponsesBridge.Url
